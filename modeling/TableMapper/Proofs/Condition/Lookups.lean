import TableMapper.Proofs.Condition.Feeding
import TableMapper.Proofs.Condition.LookupKey
import TableMapper.Proofs.Record
import TableMapper.Query.Set

/-!
# Conditions and records

Conditions are filters under keys that are made up of their columns and operators, and a record is
values under names. Both are updated in the same way, and no key changes when it is read as a
filter, so the conditions read from a list of lookups hold what a record of that list holds.
-/

namespace TableMapper

section Step

variable {α β : Type} {key : α → String} {key' : β → String} {view : α → β}

theorem map_upsert (hkey : ∀ a, key' (view a) = key a) (a : α) (bs : List α) :
    (upsert key a bs).map view = upsert key' (view a) (bs.map view) := by
  induction bs with
  | nil => rfl
  | cons b bs ih =>
    by_cases h : key b = key a
    · have h' : key' (view b) = key' (view a) := by rw [hkey, hkey, h]
      rw [upsert, if_pos h, List.map_cons, List.map_cons, upsert, if_pos h']
    · have h' : key' (view b) ≠ key' (view a) := by
        rw [hkey, hkey]
        exact h
      rw [upsert, if_neg h, List.map_cons, List.map_cons, upsert, if_neg h', ih]

theorem map_upsertAll (hkey : ∀ a, key' (view a) = key a) (items bs : List α) :
    (upsertAll key items bs).map view = upsertAll key' (items.map view) (bs.map view) := by
  induction items generalizing bs with
  | nil => rfl
  | cons a items ih =>
    have hstep : (upsert key a bs).map view = upsert key' (view a) (bs.map view) :=
      map_upsert hkey a bs
    calc (upsertAll key (a :: items) bs).map view
      _ = (upsertAll key items (upsert key a bs)).map view := rfl
      _ = upsertAll key' (items.map view) ((upsert key a bs).map view) := ih _
      _ = upsertAll key' ((a :: items).map view) (bs.map view) := by rw [hstep]; rfl

end Step

namespace Filter

def toLookup (f : Filter) : String × Value := (f.key, f.value)

def ofLookup (e : String × Value) : Filter := .lookup e.1 e.2

theorem toLookup_ofLookup (e : String × Value) : (ofLookup e).toLookup = e := by
  rw [toLookup, ofLookup, key_lookup, value_lookup]

theorem map_toLookup_ofLookup (es : List (String × Value)) :
    (es.map ofLookup).map toLookup = es := by
  rw [List.map_map]
  exact List.map_id'' toLookup_ofLookup es

theorem ofLookup_toLookup {f : Filter} {e : String × Value} (h : f = ofLookup e) :
    ofLookup f.toLookup = f := by
  rw [h, toLookup_ofLookup]

end Filter

namespace Conditions

open TableMapper.Filter (toLookup ofLookup)

/-- Conditions and a record that are fed in step hold the same keys and values. -/
theorem Fed.lookups {fs : List Filter} {c : Conditions} (h : Fed fs c) :
    c.lookups = (Record.ofPairs (fs.map toLookup)).entries := by
  have hkey : ∀ f : Filter, f.toLookup.1 = f.key := fun _ => rfl
  calc c.lookups
    _ = c.filters.map toLookup := rfl
    _ = (upsertAll Filter.key fs []).map toLookup := by rw [h.filters]
    _ = upsertAll Prod.fst (fs.map toLookup) [] := map_upsertAll hkey fs []
    _ = (Record.ofPairs (fs.map toLookup)).entries := rfl

theorem Fed.mem {fs : List Filter} {c : Conditions} (h : Fed fs c) {f : Filter}
    (hf : f ∈ c.filters) : f ∈ fs := by
  have hlast := h.lastUnder?_key hf
  exact List.mem_reverse.1 (List.mem_of_find?_eq_some hlast)

theorem lookups_of_fed {es : List (String × Value)} {c : Conditions}
    (h : Fed (es.map ofLookup) c) : c.lookups = (Record.ofPairs es).entries := by
  rw [h.lookups, Filter.map_toLookup_ofLookup]

theorem filters_ofFilters (c : Conditions) : (ofFilters c.filters).filters = c.filters := by
  have hall : upsertAll Filter.key c.filters [] = [] ++ c.filters := upsertAll_of_nodup c.distinct
  exact hall

theorem eq_of_filters {c d : Conditions} (h : c.filters = d.filters) : c = d := by
  cases c
  cases d
  cases h
  rfl

theorem ofLookups_lookups {es : List (String × Value)} {c : Conditions}
    (h : Fed (es.map ofLookup) c) : ofLookups c.lookups = c := by
  have hkeep : ∀ f ∈ c.filters, ofLookup f.toLookup = f := by
    intro f hf
    obtain ⟨e, -, he⟩ := List.mem_map.1 (h.mem hf)
    exact Filter.ofLookup_toLookup he.symm
  have hfilters : c.lookups.map ofLookup = c.filters := by
    calc c.lookups.map ofLookup
      _ = c.filters.map fun f => ofLookup f.toLookup := List.map_map
      _ = c.filters.map id := List.map_congr_left hkeep
      _ = c.filters := List.map_id c.filters
  apply eq_of_filters
  calc (ofLookups c.lookups).filters
    _ = (ofFilters (c.lookups.map ofLookup)).filters := rfl
    _ = (ofFilters c.filters).filters := by rw [hfilters]
    _ = c.filters := filters_ofFilters c

theorem fed_ofLookups (es : List (String × Value)) : Fed (es.map ofLookup) (ofLookups es) :=
  .collect (es.map ofLookup)

theorem fed_filterRecord (m : Model) (r : Record) :
    Fed (r.entries.map ofLookup) ((QuerySet.all m).filterRecord r).conditions :=
  .extend (r.entries.map ofLookup) .empty

theorem size_eq_length_lookups (c : Conditions) : c.size = c.lookups.length := by
  rw [size, lookups, List.length_map]

/-- Lookups give conditions with the entries of the record that the same pairs give, in the same
order, however they are split into batches. So a query set that is filtered by a record has its
entries for lookups, a list of pairs has the clause of its record, and the conditions are made again
from their lookups. -/
theorem lookups_as_record :
    (∀ (es : List (String × Value)) (c : Conditions), Fed (es.map ofLookup) c →
      c.lookups = (Record.ofPairs es).entries ∧ ofLookups c.lookups = c) ∧
    (∀ (m : Model) (r : Record),
      ((QuerySet.all m).filterRecord r).conditions.size = r.size ∧
      ((QuerySet.all m).filterRecord r).conditions.lookups = r.entries) ∧
    ∀ es : List (String × Value), (ofLookups es).lookups = (Record.ofPairs es).entries ∧
      (ofLookups es).sql = (ofLookups (Record.ofPairs es).entries).sql := by
  refine ⟨?_, ?_, ?_⟩
  · intro es c h
    exact ⟨lookups_of_fed h, ofLookups_lookups h⟩
  · intro m r
    have hentries : (Record.ofPairs r.entries).entries = r.entries :=
      Record.entries_ofPairs r.distinct
    have hlookups := lookups_of_fed (fed_filterRecord m r)
    rw [hentries] at hlookups
    constructor
    · rw [size_eq_length_lookups, hlookups]
      rfl
    · exact hlookups
  · intro es
    have hlookups := lookups_of_fed (fed_ofLookups es)
    constructor
    · exact hlookups
    · rw [← hlookups, ofLookups_lookups (fed_ofLookups es)]

/-- A key that comes again in another batch takes the place of the first one, as it does in a
record; a column that looks like a key is split and put together again. -/
theorem lookups_as_record_replaced :
    let es : List (String × Value) := [("a___gt", .int 1), ("name", .null), ("a___gt", .int 2)]
    let c := (ofLookups [("a___gt", .int 1), ("name", .null)]).merge (.lookup "a___gt" (.int 2))
    Fed (es.map ofLookup) c ∧ c.lookups = [("a___gt", .int 2), ("name", .null)] ∧
      ofLookups c.lookups = c := by
  intro es c
  have hfed : Fed (es.map ofLookup) c :=
    .merge (.lookup "a___gt" (.int 2)) (fed_ofLookups [("a___gt", .int 1), ("name", .null)])
  obtain ⟨hlookups, hagain⟩ := lookups_as_record.1 es c hfed
  exact ⟨hfed, hlookups, hagain⟩

end Conditions

end TableMapper
