import TableMapper.Proofs.Condition.Feeding
import TableMapper.Proofs.Decimal.Digits
import TableMapper.Proofs.Model.Derived
import TableMapper.Query.Set

/-!
# Chains of narrowing calls

A query set is built by a chain of calls. What each call adds is independent of the others: the
filters of all calls are merged in call order, and of the orders and of the limits the last one
stays. All that is compiled follows from these three.
-/

namespace TableMapper

/-- A call that narrows a query set, with what it is given. -/
inductive Narrowing
  | filter (f : Filter)
  | filterAll (fs : List Filter)
  | lookup (key : String) (value : Value)
  | filterRecord (r : Record)
  | compare (operator : Operator) (column : String) (value : Value)
  | orderBy (field : String)
  | first (n : UInt64)
  | slice (start stop : UInt64)

namespace Narrowing

variable {m : Model}

def apply (q : QuerySet m) : Narrowing → QuerySet m
  | filter f => q.filter f
  | filterAll fs => q.filterAll fs
  | lookup key value => q.lookup key value
  | filterRecord r => q.filterRecord r
  | compare operator column value => q.compare operator column value
  | orderBy field => q.orderBy field
  | first n => q.first n
  | slice start stop => q.slice start stop

def isFilter : Narrowing → Bool
  | orderBy _ | first _ | slice .. => false
  | _ => true

def filters : Narrowing → List Filter
  | filter f => [f]
  | filterAll fs => fs
  | lookup key value => [.lookup key value]
  | filterRecord r => r.entries.map fun e => .lookup e.1 e.2
  | compare operator column value => [⟨column, operator, value⟩]
  | _ => []

def order? : Narrowing → Option Order
  | orderBy field => some (.parse field)
  | _ => none

def limit? : Narrowing → Option Limit
  | first n => some (.first n)
  | slice start stop => some (.slice start stop)
  | _ => none

theorem filters_of_isFilter_false {c : Narrowing} (h : c.isFilter = false) : c.filters = [] := by
  cases c with
  | orderBy field => rfl
  | first n => rfl
  | slice start stop => rfl
  | _ => cases h

theorem order?_of_isFilter {c : Narrowing} (h : c.isFilter = true) : c.order? = none := by
  cases c with
  | orderBy field => cases h
  | _ => rfl

theorem limit?_of_isFilter {c : Narrowing} (h : c.isFilter = true) : c.limit? = none := by
  cases c with
  | first n => cases h
  | slice start stop => cases h
  | _ => rfl

/-- Each call merges its filters and, if it brings an order or a limit, replaces that one. -/
theorem apply_eq (q : QuerySet m) (c : Narrowing) :
    c.apply q = ⟨q.conditions.mergeAll c.filters, c.order?.or q.order, c.limit?.or q.limit⟩ := by
  cases c <;> rfl

def filtersOf (cs : List Narrowing) : List Filter := cs.flatMap filters

/-- What the last call brings of those that bring something. -/
def last? {α : Type} (brings? : Narrowing → Option α) (cs : List Narrowing) : Option α :=
  (cs.filterMap brings?).getLast?

theorem filtersOf_append (cs cs' : List Narrowing) :
    filtersOf (cs ++ cs') = filtersOf cs ++ filtersOf cs' := List.flatMap_append

theorem last?_append {α : Type} (brings? : Narrowing → Option α) (cs cs' : List Narrowing) :
    last? brings? (cs ++ cs') = (last? brings? cs').or (last? brings? cs) := by
  rw [last?, List.filterMap_append, List.getLast?_append]
  rfl

theorem filtersOf_singleton (c : Narrowing) : filtersOf [c] = c.filters := List.flatMap_singleton ..

theorem last?_singleton {α : Type} (brings? : Narrowing → Option α) (c : Narrowing) :
    last? brings? [c] = brings? c := by
  rw [last?, List.filterMap_cons, List.filterMap_nil]
  cases brings? c <;> rfl

end Narrowing

namespace Conditions

/-- Each lookup key stands once, where it came first, with the last filter that came under it. -/
def mergedClause (fs : List Filter) : String :=
  if fs = [] then "" else
    " WHERE " ++ String.intercalate " AND " (((keysOf fs).filterMap (lastUnder? fs)).map Filter.sql)

theorem sql_ofFilters (fs : List Filter) : (ofFilters fs).sql = mergedClause fs := by
  have hfed : Fed fs (ofFilters fs) := .collect fs
  rw [sql, mergedClause, ← hfed.filters_eq]
  by_cases hfs : fs = []
  · rw [if_pos (hfed.isEmpty_iff.2 hfs), if_pos hfs]
  · rw [if_neg fun he => hfs (hfed.isEmpty_iff.1 he), if_neg hfs]

theorem ofFilters_append (fs gs : List Filter) :
    ofFilters (fs ++ gs) = (ofFilters fs).mergeAll gs := by
  simp only [ofFilters, mergeAll, empty, upsertAll_append]

end Conditions

namespace Limit

theorem sql_range_ne (offset count : UInt64) :
    (range offset count).sql .mySql ≠ (range offset count).sql .postgres := by
  intro h
  have hmem : ',' ∈ ((range offset count).sql .mySql).toList := by simp [Limit.sql]
  have hdigits : ∀ n, ',' ∉ Decimal.digits n := fun n hn =>
    absurd (Decimal.isDigit_of_mem_digits hn) (by decide)
  rw [h] at hmem
  simp [Limit.sql] at hmem
  rcases hmem with hcount | hoffset
  · exact hdigits _ hcount
  · exact hdigits _ hoffset

theorem sql_eq_iff {l : Limit} {c : Narrowing} (h : c.limit? = some l) :
    l.sql .mySql = l.sql .postgres ↔ ∀ start stop, l ≠ .slice start stop := by
  cases c with
  | first n =>
    cases h
    exact ⟨fun _ start stop hl => Limit.noConfusion hl, fun _ => rfl⟩
  | slice start stop =>
    cases h
    exact ⟨fun hsql => absurd hsql (sql_range_ne _ _), fun hne => absurd rfl (hne start stop)⟩
  | _ => cases h

end Limit

namespace QuerySet

open Narrowing

variable {m : Model}

def narrowed (m : Model) (cs : List Narrowing) : QuerySet m :=
  cs.foldl (fun q c => c.apply q) (all m)

theorem narrowed_append_singleton (cs : List Narrowing) (c : Narrowing) :
    narrowed m (cs ++ [c]) = c.apply (narrowed m cs) := by
  rw [narrowed, List.foldl_append]
  rfl

theorem narrowed_eq (cs : List Narrowing) :
    narrowed m cs = ⟨.ofFilters (filtersOf cs), last? order? cs, last? limit? cs⟩ := by
  -- From the end, where the last call replaces what the calls before it left.
  induction cs using List.reverseRecOn with
  | nil => rfl
  | append_singleton cs c ih =>
    rw [narrowed_append_singleton, apply_eq, ih, filtersOf_append, last?_append, last?_append,
      filtersOf_singleton, last?_singleton, last?_singleton, Conditions.ofFilters_append]

theorem narrowed_congr {cs cs' : List Narrowing} (hf : filtersOf cs' = filtersOf cs)
    (ho : last? order? cs' = last? order? cs) (hl : last? limit? cs' = last? limit? cs) :
    narrowed m cs' = narrowed m cs := by
  rw [narrowed_eq, narrowed_eq, hf, ho, hl]

theorem narrowed_swap {c c' : Narrowing} (hc : c.isFilter = true) (hc' : c'.isFilter = false)
    (before after : List Narrowing) :
    narrowed m (before ++ c :: c' :: after) = narrowed m (before ++ c' :: c :: after) := by
  have hsplit : ∀ d d' : Narrowing,
      before ++ d :: d' :: after = before ++ [d] ++ [d'] ++ after := by
    simp
  rw [hsplit, hsplit]
  apply narrowed_congr
  · simp only [filtersOf_append, filtersOf_singleton, filters_of_isFilter_false hc',
      List.append_nil]
  · simp only [last?_append, last?_singleton, order?_of_isFilter hc, Option.none_or]
  · simp only [last?_append, last?_singleton, limit?_of_isFilter hc, Option.none_or]

theorem whereClause_narrowed (cs : List Narrowing) :
    (narrowed m cs).whereClause = Conditions.mergedClause (filtersOf cs) := by
  rw [narrowed_eq, whereClause, Conditions.sql_ofFilters]

theorem isEmpty_conditions_narrowed {cs : List Narrowing} :
    (narrowed m cs).conditions.isEmpty = true ↔ filtersOf cs = [] := by
  rw [narrowed_eq]
  exact (Conditions.Fed.collect (filtersOf cs)).isEmpty_iff

theorem spaced_of_ne {clause : String} (h : clause ≠ "") : spaced clause = " " ++ clause := by
  rw [spaced, if_neg]
  simpa using h

theorem spaced_orderClause (q : QuerySet m) :
    spaced q.orderClause = (q.order.map fun o => " " ++ o.sql).getD "" := by
  rw [orderClause]
  cases q.order with
  | none => rfl
  | some o => exact spaced_of_ne (by simp [Order.sql])

theorem spaced_limitClause (q : QuerySet m) (dialect : Dialect) :
    spaced (q.limitClause dialect) = (q.limit.map fun l => " " ++ l.sql dialect).getD "" := by
  rw [limitClause]
  cases q.limit with
  | none => rfl
  | some l =>
    apply spaced_of_ne
    cases l with
    | first n => simp [Limit.sql]
    | range offset count => cases dialect <;> simp [Limit.sql]

theorem sql_narrowed (cs : List Narrowing) (dialect : Dialect) :
    (narrowed m cs).sql dialect = m.selectSql ++ Conditions.mergedClause (filtersOf cs) ++
      ((last? order? cs).map fun o => " " ++ o.sql).getD "" ++
      ((last? limit? cs).map fun l => " " ++ l.sql dialect).getD "" := by
  rw [sql, whereClause_narrowed, spaced_orderClause, spaced_limitClause, narrowed_eq]

theorem sql_dialects_narrowed (cs : List Narrowing) :
    (narrowed m cs).sql .mySql = (narrowed m cs).sql .postgres ↔
      ∀ start stop, last? limit? cs ≠ some (.slice start stop) := by
  rw [sql_narrowed, sql_narrowed, String.append_right_inj]
  cases hl : last? limit? cs with
  | none => simp
  | some l =>
    obtain ⟨c, -, hc⟩ := List.mem_filterMap.1 (List.mem_of_getLast? hl)
    simp only [Option.map_some, Option.getD_some, String.append_right_inj, Limit.sql_eq_iff hc,
      ne_eq, Option.some.injEq]

/-- A query set is determined by its filters, its last order and its last limit, and so is all that
is compiled from it. A call that brings an order or a limit may change places with any filter call;
updates and deletes have the WHERE clause of the select and nothing after it; and the dialects
differ just where the last limit comes from a slice. -/
theorem narrowed_determined (m : Model) (cs : List Narrowing) :
    let q := narrowed m cs
    let clause := Conditions.mergedClause (filtersOf cs)
    (∀ dialect, q.sql dialect = m.selectSql ++ clause ++
      ((last? order? cs).map fun o => " " ++ o.sql).getD "" ++
      ((last? limit? cs).map fun l => " " ++ l.sql dialect).getD "") ∧
    (∀ cs', filtersOf cs' = filtersOf cs → last? order? cs' = last? order? cs →
      last? limit? cs' = last? limit? cs → narrowed m cs' = q) ∧
    (∀ before after c c', cs = before ++ c :: c' :: after → c.isFilter ≠ c'.isFilter →
      narrowed m (before ++ c' :: c :: after) = q) ∧
    (∀ changes, q.updateSql changes =
      if changes.isEmpty then .error (.validation "UPDATE requires at least one value")
      else .ok ("UPDATE " ++ m.table ++ " SET " ++
        String.intercalate ", " (changes.entries.map fun e => assignment e.1 e.2) ++ clause)) ∧
    (q.deleteSql =
      if filtersOf cs = [] then .error (.validation
        ("refusing to DELETE every row of " ++ m.table ++ " without conditions"))
      else .ok ("DELETE FROM " ++ m.table ++ clause)) ∧
    (q.sql .mySql = q.sql .postgres ↔ ∀ start stop, last? limit? cs ≠ some (.slice start stop)) := by
  intro q clause
  refine ⟨sql_narrowed cs, fun cs' => narrowed_congr, ?_, ?_, ?_, sql_dialects_narrowed cs⟩
  · rintro before after c c' rfl hkinds
    cases hc : c.isFilter with
    | true =>
      have hc' : c'.isFilter = false := by simpa [hc] using hkinds.symm
      exact (narrowed_swap hc hc' before after).symm
    | false =>
      have hc' : c'.isFilter = true := by simpa [hc] using hkinds.symm
      exact narrowed_swap hc' hc before after
  · intro changes
    rw [updateSql, TableMapper.updateSql, whereClause_narrowed]
  · rw [deleteSql, whereClause_narrowed]
    by_cases hfilters : filtersOf cs = []
    · rw [if_pos (isEmpty_conditions_narrowed.2 hfilters), if_pos hfilters]
    · rw [if_neg (isEmpty_conditions_narrowed.not.2 hfilters), if_neg hfilters]

/-- A filter under a key that was used before replaces the other one, and moves across the order; an
earlier slice leaves no trace. -/
theorem narrowed_determined_measurement :
    let early : Narrowing := .slice 10 20
    let order : Narrowing := .orderBy "-taken"
    let level : Narrowing := .compare .gt "level" (.int 3)
    let cs := [.lookup "level__gt" (.int 1), early, order, level, .first 5]
    let q := narrowed measurementModel cs
    q.sql .mySql =
        measurementModel.selectSql ++ " WHERE level > '3' ORDER BY taken DESC LIMIT 5 " ∧
      q.sql .mySql = q.sql .postgres ∧
      narrowed measurementModel [.lookup "level__gt" (.int 1), early, level, order, .first 5] = q ∧
      q.deleteSql = .ok "DELETE FROM measurement WHERE level > '3'" := by
  intro early order level cs q
  obtain ⟨hsql, -, hswap, -, hdelete, hdialects⟩ := narrowed_determined measurementModel cs
  refine ⟨?_, hdialects.2 ?_, ?_, ?_⟩
  · rw [hsql]
    decide +kernel
  · intro start stop h
    cases h
  · exact hswap [.lookup "level__gt" (.int 1), early] [.first 5] order level rfl (by decide)
  · rw [hdelete]
    decide +kernel

end QuerySet

end TableMapper
