import TableMapper.Proofs.Decimal.Digits
import TableMapper.Proofs.Model.Derived
import TableMapper.Query.Set

/-!
# Windows of rows

A slice keeps the rows in the places from its start to before its stop, so that neighbouring slices
make up a longer one. A limit is read back from its clause, and the reader need not be told which of
the dialects wrote it: a comma comes between offset and count, and a word between count and offset.
-/

namespace TableMapper

namespace Limit

variable {α : Type}

/-- The rows in the places, counted from zero, from `start` to before `stop`. -/
def window (start stop : Nat) (rows : List α) : List α :=
  (rows.zipIdx.filter fun r => decide (start ≤ r.2) && decide (r.2 < stop)).map Prod.fst

theorem map_filter_zipIdx (start stop : Nat) (rows : List α) (n : Nat) :
    ((rows.zipIdx n).filter fun r => decide (start ≤ r.2) && decide (r.2 < stop)).map Prod.fst =
      (rows.drop (start - n)).take (stop - max start n) := by
  induction rows generalizing n with
  | nil => simp
  | cons row rows ih =>
    rw [List.zipIdx_cons, List.filter_cons]
    by_cases hlow : start ≤ n
    · have hrest : max start (n + 1) = n + 1 := by omega
      have hdrop : start - n = 0 ∧ start - (n + 1) = 0 := by omega
      have hmax : max start n = n := by omega
      have hih := ih (n + 1)
      rw [hdrop.2, List.drop_zero, hrest] at hih
      rw [hdrop.1, List.drop_zero, hmax]
      by_cases hhigh : n < stop
      · have hsucc : stop - n = stop - (n + 1) + 1 := by omega
        simp only [hlow, hhigh, decide_true, Bool.and_self, if_true, List.map_cons, hih, hsucc,
          List.take_succ_cons]
      · have hzero : stop - (n + 1) = 0 ∧ stop - n = 0 := by omega
        rw [hzero.1, List.take_zero] at hih
        simp only [hlow, hhigh, decide_true, decide_false, Bool.and_false, Bool.false_eq_true,
          if_false, hih, hzero.2, List.take_zero]
    · have hsucc : start - n = start - (n + 1) + 1 := by omega
      have hmax : max start n = max start (n + 1) := by omega
      simp only [hlow, decide_false, Bool.false_and, Bool.false_eq_true, if_false, ih (n + 1),
        hsucc, List.drop_succ_cons, hmax]

theorem window_eq (start stop : Nat) (rows : List α) :
    window start stop rows = (rows.drop start).take (stop - start) := by
  rw [window, map_filter_zipIdx, Nat.sub_zero, Nat.max_zero]

theorem exists_slice (start stop : UInt64) :
    ∃ count, slice start stop = range start count ∧ count.toNat = stop.toNat - start.toNat := by
  refine ⟨_, rfl, ?_⟩
  by_cases h : stop ≤ start
  · have hle : stop.toNat ≤ start.toNat := h
    rw [if_pos h]
    exact (Nat.sub_eq_zero_of_le hle).symm
  · have hle : start ≤ stop := UInt64.le_of_lt (UInt64.not_le.1 h)
    rw [if_neg h, UInt64.toNat_sub_of_le stop start hle]

theorem keep_slice (start stop : UInt64) (rows : List α) :
    (slice start stop).keep rows = window start.toNat stop.toNat rows := by
  obtain ⟨count, hslice, hcount⟩ := exists_slice start stop
  rw [hslice, keep, hcount, window_eq]

theorem window_append {start middle stop : Nat} (hstart : start ≤ middle) (hstop : middle ≤ stop)
    (rows : List α) :
    window start middle rows ++ window middle stop rows = window start stop rows := by
  have hcount : stop - start = (middle - start) + (stop - middle) := by omega
  have hdrop : start + (middle - start) = middle := by omega
  rw [window_eq, window_eq, window_eq, hcount, List.take_add, List.drop_drop, hdrop]

/-- What follows a word at the start of a text. -/
def afterWord? (word : String) (cs : List Char) : Option (List Char) :=
  if word.toList.isPrefixOf cs then some (cs.drop word.toList.length) else none

/-- A number of 64 bits at the start of a text, and what follows it. -/
def readCount? (cs : List Char) : Option (UInt64 × List Char) :=
  let (ds, rest) := Decimal.spanDigits cs
  if ds ≠ [] ∧ Decimal.value ds < UInt64.size then some (.ofNat (Decimal.value ds), rest) else none

/-- A number with only the space after it that ends a clause. -/
def lastCount? (cs : List Char) : Option UInt64 :=
  match readCount? cs with
  | some (n, [' ']) => some n
  | _ => none

/-- Reads the clause of either dialect. -/
def ofSql? (clause : String) : Option Limit := do
  let cs ← afterWord? "LIMIT " clause.toList
  let (n, cs) ← readCount? cs
  if cs = [' '] then return first n
  match afterWord? ", " cs with
  | some cs => return range n (← lastCount? cs)
  | none =>
    let cs ← afterWord? " OFFSET " cs
    return range (← lastCount? cs) n

theorem afterWord?_append (word : String) (cs : List Char) :
    afterWord? word (word.toList ++ cs) = some cs := by
  simp [afterWord?]

theorem toList_toString (n : Nat) : (toString n).toList = Decimal.digits n := by
  rw [Nat.toString_eq_ofList_toDigits, String.toList_ofList, Decimal.digits]

theorem readCount?_digits (n : UInt64) {rest : List Char} (hr : Decimal.EndsDigits rest) :
    readCount? (Decimal.digits n.toNat ++ rest) = some (n, rest) := by
  have hspan := Decimal.spanDigits_append (fun _ => Decimal.isDigit_of_mem_digits (n := n.toNat)) hr
  simp only [readCount?, hspan]
  rw [if_pos ⟨Decimal.digits_ne_nil _, Decimal.value_digits _ ▸ n.toNat_lt⟩, Decimal.value_digits,
    UInt64.ofNat_toNat]

theorem lastCount?_digits (n : UInt64) : lastCount? (Decimal.digits n.toNat ++ [' ']) = some n := by
  have hend : Decimal.EndsDigits [' '] := by simp
  simp only [lastCount?, readCount?_digits n hend]

/-- A limit is read back from its clause, whichever dialect it is written in. -/
theorem ofSql?_sql (l : Limit) (dialect : Dialect) : ofSql? (l.sql dialect) = some l := by
  -- No digit follows the first number, so it ends where it was written to end.
  have hcomma : ∀ cs : List Char, Decimal.EndsDigits (", ".toList ++ cs) := by simp
  have hoffset : ∀ cs : List Char, Decimal.EndsDigits (" OFFSET ".toList ++ cs) := by simp
  have hnone : ∀ cs : List Char, afterWord? ", " (" OFFSET ".toList ++ cs) = none := by
    simp [afterWord?]
  have hspace : " ".toList = [' '] := by decide
  cases l with
  | first n =>
    have hend : Decimal.EndsDigits [' '] := by simp
    have hread := readCount?_digits n hend
    simp only [ofSql?, Limit.sql, String.toList_append, toList_toString, List.append_assoc, hspace,
      afterWord?_append, hread, Option.bind_eq_bind, Option.bind_some, if_true, Option.pure_def]
  | range offset count =>
    cases dialect with
    | mySql =>
      have hread := readCount?_digits offset (hcomma (Decimal.digits count.toNat ++ [' ']))
      have hmore : ", ".toList ++ (Decimal.digits count.toNat ++ [' ']) ≠ [' '] := by simp
      simp only [ofSql?, Limit.sql, String.toList_append, toList_toString, List.append_assoc, hspace,
        afterWord?_append, hread, if_neg hmore, lastCount?_digits, Option.bind_eq_bind,
        Option.bind_some, Option.pure_def]
    | postgres =>
      have hread := readCount?_digits count (hoffset (Decimal.digits offset.toNat ++ [' ']))
      have hmore : " OFFSET ".toList ++ (Decimal.digits offset.toNat ++ [' ']) ≠ [' '] := by simp
      simp only [ofSql?, Limit.sql, String.toList_append, toList_toString, List.append_assoc, hspace,
        afterWord?_append, hread, if_neg hmore, hnone, lastCount?_digits, Option.bind_eq_bind,
        Option.bind_some, Option.pure_def]

theorem sql_inj {l l' : Limit} {dialect dialect' : Dialect} (h : l.sql dialect = l'.sql dialect') :
    l = l' := by
  have hread := ofSql?_sql l dialect
  rw [h, ofSql?_sql] at hread
  exact (Option.some.inj hread).symm

theorem ofSql?_limitClause {m : Model} (q : QuerySet m) (dialect : Dialect) :
    ofSql? (q.limitClause dialect) = q.limit := by
  rw [QuerySet.limitClause]
  cases q.limit with
  | none => rfl
  | some l => exact ofSql?_sql l dialect

/-- A slice keeps exactly the rows in the places from its start to before its stop, and no row if
its bounds are reversed; its offset and its count together stay within the larger bound. So the
slices from `a` to `b` and from `b` to `c` make up the one from `a` to `c`. Of a query set the limit
is read back from its clause in either dialect, and two limits never have the same clause. -/
theorem slices_are_windows {m : Model} (a b c : UInt64) (rows : List α) :
    (∃ count, slice a b = range a count ∧ a.toNat + count.toNat ≤ max a.toNat b.toNat) ∧
    (slice a b).keep rows = window a.toNat b.toNat rows ∧
    (b ≤ a → (slice a b).keep rows = []) ∧
    (a ≤ b → b ≤ c →
      (slice a b).keep rows ++ (slice b c).keep rows = (slice a c).keep rows) ∧
    (∀ (l l' : Limit) (dialect : Dialect), l ≠ l' → l.sql dialect ≠ l'.sql dialect) ∧
    (∀ (q : QuerySet m) (dialect : Dialect), ofSql? (q.limitClause dialect) = q.limit ∧
      ofSql? ((q.first a).limitClause dialect) = some (.first a) ∧
      ofSql? ((q.slice a b).limitClause dialect) = some (.slice a b)) := by
  have hkeep := keep_slice a b rows
  refine ⟨?_, hkeep, ?_, ?_, ?_, ?_⟩
  · obtain ⟨count, hslice, hcount⟩ := exists_slice a b
    exact ⟨count, hslice, by omega⟩
  · intro hreversed
    have hle : b.toNat ≤ a.toNat := hreversed
    rw [hkeep, window_eq, Nat.sub_eq_zero_of_le hle, List.take_zero]
  · intro hstart hstop
    have hle : a.toNat ≤ b.toNat := hstart
    have hle' : b.toNat ≤ c.toNat := hstop
    rw [hkeep, keep_slice b c, keep_slice a c, window_append hle hle']
  · intro l l' dialect hne hsql
    exact hne (sql_inj hsql)
  · intro q dialect
    exact ⟨ofSql?_limitClause q dialect, ofSql?_limitClause _ dialect, ofSql?_limitClause _ dialect⟩

/-- The last page reaches to the largest number there is, and it is another one than so many first
rows. -/
theorem slices_are_windows_pages :
    let rows := ["a", "b", "c", "d", "e"]
    let last : UInt64 := 18446744073709551615
    (1 : UInt64) ≤ 3 ∧ 3 ≤ last ∧
      (slice 1 3).keep rows ++ (slice 3 last).keep rows = (slice 1 last).keep rows ∧
      (slice 3 last).sql .postgres = "LIMIT 18446744073709551612 OFFSET 3 " ∧
      (2 : UInt64) ≤ 5 ∧ (slice 5 2).keep rows = [] ∧
      first 3 ≠ slice 0 3 ∧ (first 3).sql .mySql ≠ (slice 0 3).sql .mySql := by
  intro rows last
  obtain ⟨-, -, -, hpages, hdistinct, -⟩ :=
    slices_are_windows (m := measurementModel) 1 3 last rows
  obtain ⟨-, -, hreversed, -⟩ := slices_are_windows (m := measurementModel) 5 2 0 rows
  have hle : (1 : UInt64) ≤ 3 := by decide
  have hle' : 3 ≤ last := by decide
  have hle'' : (2 : UInt64) ≤ 5 := by decide
  have hne : first 3 ≠ slice 0 3 := by decide
  exact ⟨hle, hle', hpages hle hle', by decide +kernel, hle'', hreversed hle'', hne,
    hdistinct _ _ .mySql hne⟩

end Limit

end TableMapper
