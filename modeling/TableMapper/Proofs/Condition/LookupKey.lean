import TableMapper.Condition

/-!
# Lookup keys and filters

A filter is written as a lookup key and read back from it. The key of an operator with a suffix is
split where it was put together, since no suffix has an underscore. A column that looks like such
a key is split as well, so an equality on it is read back as another filter.
-/

namespace TableMapper

theorem splitLookup?_cons_of_some {cs column suffix : List Char} (c : Char)
    (h : splitLookup? cs = some (column, suffix)) :
    splitLookup? (c :: cs) = some (c :: column, suffix) := by
  unfold splitLookup?
  rw [h]

theorem splitLookup?_cons_of_none {cs : List Char} {c : Char} {parts : List Char × List Char}
    (hrest : splitLookup? cs = none) (h : splitLookup? (c :: cs) = some parts) :
    c :: cs = '_' :: '_' :: parts.2 ∧ parts.1 = [] := by
  unfold splitLookup? at h
  rw [hrest] at h
  dsimp only at h
  split at h
  · cases h
    exact ⟨rfl, rfl⟩
  · cases h

theorem eq_of_splitLookup? {cs column suffix : List Char}
    (h : splitLookup? cs = some (column, suffix)) : cs = column ++ '_' :: '_' :: suffix := by
  induction cs generalizing column with
  | nil => cases h
  | cons c cs ih =>
    cases hrest : splitLookup? cs with
    | some parts =>
      obtain ⟨before, after⟩ := parts
      rw [splitLookup?_cons_of_some c hrest] at h
      cases h
      rw [ih hrest, List.cons_append]
    | none =>
      obtain ⟨hcs, hcolumn⟩ := splitLookup?_cons_of_none hrest h
      dsimp only at hcs hcolumn
      rw [hcs, hcolumn, List.nil_append]

theorem splitLookup?_eq_none {cs : List Char} (h : '_' ∉ cs) : splitLookup? ('_' :: cs) = none := by
  cases hsplit : splitLookup? ('_' :: cs) with
  | none => rfl
  | some parts =>
    obtain ⟨column, suffix⟩ := parts
    have hcs := eq_of_splitLookup? hsplit
    -- one of the two underscores would have to stand behind the first character
    exfalso
    apply h
    cases column with
    | nil =>
      rw [List.nil_append, List.cons.injEq] at hcs
      rw [hcs.2]
      exact List.mem_cons_self
    | cons c column =>
      rw [List.cons_append, List.cons.injEq] at hcs
      rw [hcs.2]
      exact List.mem_append_right _ List.mem_cons_self

theorem splitLookup?_append (column : List Char) {suffix : List Char} (h : '_' ∉ suffix) :
    splitLookup? (column ++ '_' :: '_' :: suffix) = some (column, suffix) := by
  induction column with
  | nil =>
    have hnone := splitLookup?_eq_none h
    rw [List.nil_append]
    unfold splitLookup?
    rw [hnone]
    rfl
  | cons c column ih => exact splitLookup?_cons_of_some c ih

namespace Operator

/-- The operators that have a suffix, each with its own. -/
def suffixed : List (String × Operator) :=
  [("ne", ne), ("gt", gt), ("gte", gte), ("lt", lt), ("lte", lte)]

theorem mem_suffixed_iff {s : String} {o : Operator} :
    (s, o) ∈ suffixed ↔ o.suffix? = some s := by
  cases o <;> simp [suffixed, suffix?, eq_comm]

theorem exists_suffix {o : Operator} (h : o ≠ eq) : ∃ s, o.suffix? = some s := by
  cases o with
  | eq => exact absurd rfl h
  | _ => exact ⟨_, rfl⟩

theorem no_underscore {s : String} {o : Operator} (h : o.suffix? = some s) : '_' ∉ s.toList := by
  cases o with
  | eq => cases h
  | _ =>
    cases h
    decide

end Operator

namespace Filter

variable {column suffix key : String} {o : Operator}

theorem lookup_append (h : o.suffix? = some suffix) (v : Value) :
    lookup (column ++ "__" ++ suffix) v = ⟨column, o, v⟩ := by
  have htext : (column ++ "__" ++ suffix).toList =
      column.toList ++ '_' :: '_' :: suffix.toList := by simp
  have hsplit := splitLookup?_append column.toList (Operator.no_underscore h)
  have hread := Operator.ofSuffix?_eq_some_iff.2 h
  simp [lookup, htext, hsplit, hread, String.ofList_toList]

/-- A key is read as an equality on the whole of it, unless it ends in the suffix of an operator. -/
theorem lookup_cases (key : String) :
    (∃ column suffix o, Operator.suffix? o = some suffix ∧ key = column ++ "__" ++ suffix) ∨
      ∀ v, lookup key v = ⟨key, .eq, v⟩ := by
  cases hsplit : splitLookup? key.toList with
  | none =>
    right
    intro v
    simp [lookup, hsplit]
  | some parts =>
    obtain ⟨column, suffix⟩ := parts
    cases hread : Operator.ofSuffix? (String.ofList suffix) with
    | none =>
      right
      intro v
      simp [lookup, hsplit, hread]
    | some o =>
      left
      refine ⟨String.ofList column, String.ofList suffix, o,
        Operator.ofSuffix?_eq_some_iff.1 hread, ?_⟩
      rw [← String.toList_inj, eq_of_splitLookup? hsplit]
      simp

theorem key_lookup (key : String) (v : Value) : (lookup key v).key = key := by
  rcases lookup_cases key with ⟨column, suffix, o, hsuffix, rfl⟩ | heq
  · rw [lookup_append hsuffix, Filter.key]
    simp only [hsuffix]
  · rw [heq v]
    rfl

theorem value_lookup (key : String) (v : Value) : (lookup key v).value = v := by
  rcases lookup_cases key with ⟨column, suffix, o, hsuffix, rfl⟩ | heq
  · rw [lookup_append hsuffix]
  · rw [heq v]

theorem lookup_key_of_ne {f : Filter} (h : f.operator ≠ .eq) : lookup f.key f.value = f := by
  obtain ⟨suffix, hsuffix⟩ := Operator.exists_suffix h
  rw [Filter.key]
  simp only [hsuffix]
  exact lookup_append hsuffix f.value

theorem key_of_eq {f : Filter} (h : f.operator = .eq) : f.key = f.column := by
  rw [Filter.key, h]
  rfl

theorem lookup_key_iff_of_eq {f : Filter} (h : f.operator = .eq) :
    lookup f.key f.value = f ↔
      ∀ before suffix o, (suffix, o) ∈ Operator.suffixed → f.column ≠ before ++ "__" ++ suffix := by
  rw [key_of_eq h]
  constructor
  · intro hread before suffix o ho hcolumn
    have hsuffix := Operator.mem_suffixed_iff.1 ho
    rw [hcolumn, lookup_append hsuffix] at hread
    -- the filter that is read has a suffix, which equality has not
    have hoperator := congrArg Filter.operator hread
    rw [h] at hoperator
    subst hoperator
    cases hsuffix
  · intro hplain
    rcases lookup_cases f.column with ⟨before, suffix, o, hsuffix, hcolumn⟩ | heq
    · exact absurd hcolumn (hplain before suffix o (Operator.mem_suffixed_iff.2 hsuffix))
    · rw [heq f.value, ← h]

/-- Lookup keys are a code for filters. Every key is the key of what is read from it, and every
filter is read back from its key and value, except for an equality on a column that ends in two
underscores and the suffix of an operator: that one is read with this operator, on what stands
before. -/
theorem lookup_key_codec :
    (∀ (key : String) (v : Value), (lookup key v).key = key) ∧
    (∀ f : Filter, f.operator ≠ .eq → lookup f.key f.value = f) ∧
    (∀ f : Filter, f.operator = .eq → (lookup f.key f.value = f ↔
      ∀ before suffix o, (suffix, o) ∈ Operator.suffixed →
        f.column ≠ before ++ "__" ++ suffix)) ∧
    ∀ (f : Filter) (before suffix : String) (o : Operator), f.operator = .eq →
      (suffix, o) ∈ Operator.suffixed → f.column = before ++ "__" ++ suffix →
        lookup f.key f.value = ⟨before, o, f.value⟩ := by
  refine ⟨key_lookup, ?_, ?_, ?_⟩
  · intro f h
    exact lookup_key_of_ne h
  · intro f h
    exact lookup_key_iff_of_eq h
  · intro f before suffix o h ho hcolumn
    rw [key_of_eq h, hcolumn]
    exact lookup_append (Operator.mem_suffixed_iff.1 ho) f.value

theorem lookup_key_codec_underscores :
    lookup "a___gt" .null = ⟨"a_", .gt, .null⟩ ∧
      lookup "a___gt" .null ≠ ⟨"a___gt", .eq, .null⟩ ∧
      lookup "__gt__lte" .null = ⟨"__gt", .lte, .null⟩ := by
  obtain ⟨-, hother, hplain, hsplit⟩ := lookup_key_codec
  refine ⟨?_, ?_, ?_⟩
  · exact hsplit ⟨"a___gt", .eq, .null⟩ "a_" "gt" .gt rfl (by decide) (by decide)
  · intro hread
    exact (hplain ⟨"a___gt", .eq, .null⟩ rfl).1 hread "a_" "gt" .gt (by decide) (by decide)
  · exact hother ⟨"__gt", .lte, .null⟩ (by decide)

end Filter

end TableMapper
