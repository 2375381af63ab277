import Mathlib.Data.List.Perm.Basic
import TableMapper.Proofs.Json.Members
import TableMapper.Proofs.Text.Bytes
import TableMapper.Proofs.Value.Json
import TableMapper.Record

/-!
# Laws of records

A record comes back from JSON with its names in the order of their bytes, and every name keeps its
value. Its dates and times are then texts and its infinite numbers are NULL, and from there on
nothing changes any more.
-/

namespace TableMapper

def Record.Portable (r : Record) : Prop := ∀ e ∈ r.entries, e.2.Portable

def Record.Legible (r : Record) : Prop := ∀ e ∈ r.entries, e.2.Legible

namespace Record

theorem entries_ofPairs {pairs : List (String × Value)} (h : (pairs.map Prod.fst).Nodup) :
    (ofPairs pairs).entries = pairs := by
  have hall : upsertAll Prod.fst pairs [] = [] ++ pairs := upsertAll_of_nodup h
  exact hall

theorem get_of_mem {r : Record} {name : String} {v : Value} (h : (name, v) ∈ r.entries) :
    r.get name = v := by
  have hfound := (find?_key_iff r.distinct name (name, v)).2 ⟨h, rfl⟩
  rw [get, get?, hfound]
  rfl

theorem exactMembers_map {es : List (String × Value)} (h : ∀ e ∈ es, e.2.Legible) :
    Json.ExactMembers (es.map fun e => (e.1, e.2.toJson)) := by
  induction es with
  | nil => exact trivial
  | cons e es ih =>
    constructor
    · exact Value.exact_toJson (h e List.mem_cons_self)
    · exact ih fun e' he => h e' (List.mem_cons_of_mem e he)

theorem heightMembers_map (es : List (String × Value)) :
    Json.heightMembers (es.map fun e => (e.1, e.2.toJson)) = 0 := by
  induction es with
  | nil => rfl
  | cons e es ih => rw [List.map_cons, Json.heightMembers, Value.height_toJson, ih]; rfl

theorem Portable.legible {r : Record} (h : r.Portable) : r.Legible := fun e he => (h e he).legible

theorem exact_toJson {r : Record} (h : r.Legible) : r.toJson.Exact := exactMembers_map h

theorem height_toJson (r : Record) : r.toJson.height = 1 := by
  rw [toJson, Json.height, heightMembers_map]

theorem entriesOfMembers_toJson (es : List (String × Value)) :
    entriesOfMembers (es.map fun e => (e.1, e.2.toJson)) =
      .ok (es.map fun e => (e.1, e.2.decoded)) := by
  induction es with
  | nil => rfl
  | cons e es ih =>
    rw [List.map_cons, entriesOfMembers, Value.ofJson_toJson, ok_bind, ih, ok_bind]
    rfl

/-- A record that is read from its JSON members has the same names, in their order, with the values
that JSON carries. -/
theorem ofMembers_toJson (r : Record) :
    ∃ s : Record, ofMembers (r.entries.map fun e => (e.1, e.2.toJson)) = .ok s ∧
      s.entries.Perm (r.entries.map fun e => (e.1, e.2.decoded)) ∧ Json.Ordered s.entries := by
  have hperm := Json.sortMembers_perm r.distinct
  have hnames : ((Json.sortMembers r.entries).map fun e => (e.1, e.2.decoded)).map Prod.fst =
      (Json.sortMembers r.entries).map Prod.fst := by
    rw [List.map_map]
    rfl
  have hdistinct : (((Json.sortMembers r.entries).map
      fun e => (e.1, e.2.decoded)).map Prod.fst).Nodup := by
    rw [hnames]
    exact Json.nodup_sortMembers r.entries
  refine ⟨ofPairs ((Json.sortMembers r.entries).map fun e => (e.1, e.2.decoded)), ?_, ?_, ?_⟩
  · rw [ofMembers, Json.sortMembers_map Value.toJson, entriesOfMembers_toJson, map_ok]
  · rw [entries_ofPairs hdistinct]
    exact hperm.map _
  · rw [entries_ofPairs hdistinct, Json.Ordered, List.pairwise_map]
    exact Json.ordered_sortMembers r.entries

end Record

namespace Record

variable {r : Record}

theorem ofJson_json (h : r.Legible) :
    ∃ s : Record, ofJson r.json = .ok s ∧
      s.entries.Perm (r.entries.map fun e => (e.1, e.2.decoded)) ∧ Json.Ordered s.entries := by
  have hdepth : r.toJson.height < Json.depthLimit := by
    rw [height_toJson]
    decide
  have hparse : Json.parse r.json = .ok r.toJson := Json.parse_render hdepth (exact_toJson h)
  obtain ⟨s, hread, hs⟩ := ofMembers_toJson r
  have hs' : ofJson r.json = .ok s := by
    rw [ofJson, parseJson, hparse]
    exact hread
  exact ⟨s, hs', hs⟩

section Decoded

variable {s : Record} (hperm : s.entries.Perm (r.entries.map fun e => (e.1, e.2.decoded)))

include hperm

end Decoded

end Record

end TableMapper
