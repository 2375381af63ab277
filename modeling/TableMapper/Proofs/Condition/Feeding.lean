import TableMapper.Condition
import TableMapper.Proofs.Keyed

/-!
# Conditions that are fed with filters

However a sequence of filters is split into batches, what is stored depends on the sequence alone:
each lookup key once, where it came first, with the last filter that came under it.
-/

namespace TableMapper

namespace Conditions

/-- Conditions to which the filters of a sequence were given one by one, in batches, or as the
batch that the conditions were collected from. -/
inductive Fed : List Filter → Conditions → Prop
  | empty : Fed [] empty
  | collect (fs : List Filter) : Fed fs (ofFilters fs)
  | merge {fs : List Filter} {c : Conditions} (f : Filter) : Fed fs c → Fed (fs ++ [f]) (c.merge f)
  | extend {fs : List Filter} {c : Conditions} (gs : List Filter) :
      Fed fs c → Fed (fs ++ gs) (c.mergeAll gs)

def keysOf (fs : List Filter) : List String := (fs.map Filter.key).eraseDups

def lastUnder? (fs : List Filter) (key : String) : Option Filter :=
  fs.reverse.find? fun f => f.key = key

theorem Fed.filters {fs : List Filter} {c : Conditions} (h : Fed fs c) :
    c.filters = upsertAll Filter.key fs [] := by
  induction h with
  | empty => rfl
  | collect fs => rfl
  | merge f _ ih => rw [upsertAll_append, ← ih]; rfl
  | extend gs _ ih => rw [upsertAll_append, ← ih]; rfl

section Views

variable {fs : List Filter} {c : Conditions} (h : Fed fs c)

include h

theorem Fed.keys : c.filters.map Filter.key = keysOf fs := by
  rw [h.filters, map_key_upsertAll, keysOf]

theorem Fed.find? (k : String) : (c.filters.find? fun f => f.key = k) = lastUnder? fs k := by
  rw [h.filters, find?_upsertAll, List.find?_nil, Option.or_none, lastUnder?]

theorem Fed.lastUnder?_key {f : Filter} (hf : f ∈ c.filters) : lastUnder? fs f.key = some f := by
  rw [← h.find?]
  exact (find?_key_iff c.distinct f.key f).2 ⟨hf, rfl⟩

theorem Fed.filters_eq : c.filters = (keysOf fs).filterMap (lastUnder? fs) := by
  rw [← h.keys]
  exact (filterMap_keys fun f hf => h.lastUnder?_key hf).symm

theorem Fed.isEmpty_iff : c.isEmpty = true ↔ fs = [] := by
  have hkeys := congrArg List.length h.keys
  rw [List.length_map] at hkeys
  rw [isEmpty, List.isEmpty_iff, ← List.length_eq_zero_iff, hkeys, List.length_eq_zero_iff, keysOf]
  constructor
  · intro he
    cases fs with
    | nil => rfl
    | cons f fs =>
      rw [List.map_cons, List.eraseDups_cons] at he
      cases he
  · rintro rfl
    rfl

end Views

/-- A set of conditions is a faithful ordered map of the filters it was fed with: the keys are
distinct and in the order of their first use, and under each stands the last filter that came with
it, its column and operator included. Size, lookup and WHERE clause follow that map. -/
theorem fed_faithful {fs : List Filter} {c : Conditions} (h : Fed fs c) :
    (c.filters.map Filter.key).Nodup ∧
      c.filters.map Filter.key = keysOf fs ∧
      (∀ f ∈ c.filters, lastUnder? fs f.key = some f) ∧
      c.size = (keysOf fs).length ∧
      (∀ k, c.get? k = (lastUnder? fs k).map (·.value)) ∧
      c.sql = if fs = [] then "" else " WHERE " ++
        String.intercalate " AND " (((keysOf fs).filterMap (lastUnder? fs)).map Filter.sql) := by
  refine ⟨c.distinct, h.keys, fun f hf => h.lastUnder?_key hf, ?_, ?_, ?_⟩
  · rw [← h.keys, List.length_map]
    rfl
  · intro k
    rw [get?, h.find?]
  · rw [sql, ← h.filters_eq]
    by_cases hfs : fs = []
    · rw [if_pos (h.isEmpty_iff.2 hfs), if_pos hfs]
    · rw [if_neg fun he => hfs (h.isEmpty_iff.1 he), if_neg hfs]

theorem fed_faithful_shared_key :
    let byName : Filter := ⟨"name", .eq, .text "x"⟩
    let plain : Filter := ⟨"id__gt", .eq, .int 1⟩
    let greater : Filter := ⟨"id", .gt, .int 2⟩
    let c := (empty.merge plain).mergeAll [byName, greater]
    Fed [plain, byName, greater] c ∧ c.filters = [greater, byName] ∧ c.size = 2 ∧
      c.get? "id__gt" = some (.int 2) ∧ c.sql = " WHERE id > '2' AND name = 'x'" := by
  intro byName plain greater c
  have hfed : Fed [plain, byName, greater] c :=
    .extend [byName, greater] (.merge plain .empty)
  obtain ⟨-, -, -, hsize, hget, hsql⟩ := fed_faithful hfed
  refine ⟨hfed, rfl, ?_, ?_, ?_⟩
  · rw [hsize]
    decide +kernel
  · rw [hget]
    rfl
  · rw [hsql]
    decide +kernel

end Conditions

end TableMapper
