import TableMapper.Backend
import TableMapper.Proofs.Backend.Calls
import TableMapper.Proofs.Query.Narrowing
import TableMapper.Proofs.Sql.Limit
import TableMapper.Proofs.Text.Basic
import TableMapper.Query.Actions

/-!
# Counting the rows of a query

A count puts parentheses around a select whose trailing blanks are dropped. Of every clause that a
select may end in, the last character is known: only the clause of a limit ends in a blank, in one
space, and so nothing else is ever dropped.
-/

namespace TableMapper

namespace Text

/-- The text is not empty, and its last character is no blank. -/
def Solid (s : String) : Prop := ∃ cs c, s.toList = cs ++ [c] ∧ isBlank c = false

theorem Solid.append {t : String} (h : Solid t) (s : String) : Solid (s ++ t) := by
  obtain ⟨cs, c, ht, hc⟩ := h
  exact ⟨s.toList ++ cs, c, by rw [String.toList_append, ht, List.append_assoc], hc⟩

theorem solid_intercalate {separator : String} {ts : List String} (hne : ts ≠ [])
    (h : ∀ t ∈ ts, Solid t) : Solid (separator.intercalate ts) := by
  induction ts with
  | nil => exact absurd rfl hne
  | cons t ts ih =>
    cases ts with
    | nil =>
      rw [String.intercalate_singleton]
      exact h t List.mem_cons_self
    | cons t' ts =>
      rw [String.intercalate_cons_cons]
      exact (ih (List.cons_ne_nil t' ts) fun u hu => h u (List.mem_cons_of_mem t hu)).append _

theorem infix_intercalate (separator : String) {t : String} {ts : List String} (h : t ∈ ts) :
    t.toList <:+: (separator.intercalate ts).toList := by
  induction ts with
  | nil => cases h
  | cons t' ts ih =>
    cases ts with
    | nil =>
      have htext : (separator.intercalate [t']).toList = t.toList := by
        rw [String.intercalate_singleton, List.mem_singleton.1 h]
      exact htext ▸ List.infix_rfl
    | cons u us =>
      rw [String.intercalate_cons_cons, String.toList_append, String.toList_append]
      rcases List.mem_cons.1 h with rfl | h
      · exact ((List.prefix_append _ _).trans (List.prefix_append _ _)).isInfix
      · exact (ih h).trans (List.suffix_append _ _).isInfix

theorem trimEnd_of_solid {s : String} (h : Solid s) : trimEnd s.toList = s.toList := by
  obtain ⟨cs, c, hs, hc⟩ := h
  rw [hs, trimEnd_append_of_not_blank hc]

theorem trimEnd_space {s : String} (h : Solid s) : trimEnd (s ++ " ").toList = s.toList := by
  have hlist : (s ++ " ").toList = s.toList ++ [' '] := by simp
  have hspace : ∀ c ∈ [' '], isBlank c = true := by
    intro c hc
    rw [List.mem_singleton.1 hc]
    decide
  rw [hlist, trimEnd_padded hspace, trimEnd_of_solid h]

end Text

open Text (Solid)

theorem Value.solid_quoted (v : Value) : Solid v.quoted := by
  have hquote : ∀ t : String, Solid (t ++ "'") := fun t => ⟨t.toList, '\'', by simp, by decide⟩
  cases v with
  | null => exact ⟨['N', 'U', 'L'], 'L', by decide, by decide⟩
  | _ => exact hquote _

theorem Filter.solid_sql (f : Filter) : Solid f.sql := f.value.solid_quoted.append _

theorem Conditions.solid_sql {c : Conditions} (h : c.isEmpty = false) : Solid c.sql := by
  have hne : c.filters.map Filter.sql ≠ [] := by
    simpa [Conditions.isEmpty] using h
  rw [Conditions.sql, h, if_neg Bool.false_ne_true]
  apply Solid.append
  apply Text.solid_intercalate hne
  intro t ht
  obtain ⟨f, -, rfl⟩ := List.mem_map.1 ht
  exact f.solid_sql

theorem Conditions.infix_sql {c : Conditions} {f : Filter} (h : f ∈ c.filters) :
    f.sql.toList <:+: c.sql.toList := by
  have hne : ¬c.isEmpty = true := by
    rw [Conditions.isEmpty, List.isEmpty_iff]
    exact List.ne_nil_of_mem h
  rw [Conditions.sql, if_neg hne, String.toList_append]
  exact (Text.infix_intercalate _ (List.mem_map_of_mem h)).trans (List.suffix_append _ _).isInfix

theorem Order.solid_sql (o : Order) : Solid o.sql := by
  rw [Order.sql]
  apply Solid.append
  cases o.descending with
  | true => exact ⟨['D', 'E', 'S'], 'C', by decide, by decide⟩
  | false => exact ⟨['A', 'S'], 'C', by decide, by decide⟩

namespace Limit

theorem solid_toString (n : Nat) : Solid (toString n) := by
  have hdigits := List.dropLast_append_getLast (Decimal.digits_ne_nil n)
  refine ⟨_, _, (toList_toString n).trans hdigits.symm, ?_⟩
  exact Decimal.isBlank_of_isDigit (Decimal.isDigit_of_mem_digits (List.getLast_mem _))

theorem exists_words (l : Limit) (dialect : Dialect) :
    ∃ words, l.sql dialect = words ++ " " ∧ Solid words := by
  cases l with
  | first n => exact ⟨_, rfl, (solid_toString _).append _⟩
  | range offset count =>
    cases dialect with
    | mySql => exact ⟨_, rfl, (solid_toString _).append _⟩
    | postgres => exact ⟨_, rfl, (solid_toString _).append _⟩

end Limit

namespace QuerySet

variable {m : Model}

/-- The select up to the limit ends in the table, in a value or in the direction of the order. -/
theorem solid_unlimited (hm : Solid m.table) (q : QuerySet m) :
    Solid (m.selectSql ++ q.whereClause ++ spaced q.orderClause) := by
  have hselect : Solid m.selectSql := hm.append _
  have hwhere : Solid (m.selectSql ++ q.whereClause) := by
    cases hc : q.conditions.isEmpty with
    | true =>
      rw [whereClause, Conditions.sql, hc, if_pos rfl, String.append_empty]
      exact hselect
    | false => exact (Conditions.solid_sql hc).append _
  rw [spaced_orderClause]
  cases q.order with
  | none =>
    rw [Option.map_none, Option.getD_none, String.append_empty]
    exact hwhere
  | some o => exact (o.solid_sql.append " ").append _

theorem spaced_solid {clause : String} (h : Solid clause) : spaced clause = " " ++ clause := by
  apply spaced_of_ne
  rintro rfl
  obtain ⟨cs, c, hnil, -⟩ := h
  simp at hnil

theorem exists_select (hm : Solid m.table) (q : QuerySet m) (dialect : Dialect) :
    ∃ words, q.limitClause dialect = words ++ (if q.limit.isSome then " " else "") ∧
      let select := m.selectSql ++ q.whereClause ++ spaced q.orderClause ++ spaced words
      q.sql dialect = select ++ (if q.limit.isSome then " " else "") ∧ Solid select := by
  have hsolid := solid_unlimited hm q
  rw [sql, spaced_limitClause, limitClause]
  cases q.limit with
  | none =>
    refine ⟨"", rfl, ?_⟩
    intro select
    have hselect : select = m.selectSql ++ q.whereClause ++ spaced q.orderClause :=
      String.append_empty
    rw [hselect]
    exact ⟨rfl, hsolid⟩
  | some l =>
    obtain ⟨words, hsql, hwords⟩ := l.exists_words dialect
    refine ⟨words, hsql, ?_⟩
    intro select
    have hselect :
        select = m.selectSql ++ q.whereClause ++ spaced q.orderClause ++ (" " ++ words) := by
      rw [← spaced_solid hwords]
    rw [hselect]
    refine ⟨?_, (hwords.append " ").append _⟩
    rw [Option.map_some, Option.getD_some, hsql, Option.isSome_some, if_pos rfl]
    simp only [String.append_assoc]

/-- A query of a model whose table has a name that does not end in a blank is counted as it is.
Dropping the trailing blanks of the select takes the one space behind a limit and nothing else:
each condition with its value, the order and the numbers of the limit stay whole, whatever the
values are. The count sends one statement, the select between parentheses. -/
theorem count_wraps_select {σ : Type} (hm : Solid m.table) (q : QuerySet m) (dialect : Dialect)
    (b : Backend σ) (s : σ) :
    ∃ words, q.limitClause dialect = words ++ (if q.limit.isSome then " " else "") ∧
      let select := m.selectSql ++ q.whereClause ++ spaced q.orderClause ++ spaced words
      q.sql dialect = select ++ (if q.limit.isSome then " " else "") ∧
        String.ofList (Text.trimEnd (q.sql dialect).toList) = select ∧
        (∀ f ∈ q.conditions.filters,
          (f.column ++ " " ++ f.operator.sql ++ " " ++ f.value.quoted).toList <:+: select.toList) ∧
        countSql (q.sql dialect) = "SELECT COUNT(*) FROM (" ++ select ++ ") AS counted" ∧
        (q.count dialect).calls b s =
          [.fetch ("SELECT COUNT(*) FROM (" ++ select ++ ") AS counted")] := by
  obtain ⟨words, hclause, hsql, hsolid⟩ := exists_select hm q dialect
  refine ⟨words, hclause, ?_⟩
  intro select
  -- Behind the select stands the one space of a limit or nothing, and it ends in no blank itself.
  have htrim : String.ofList (Text.trimEnd (q.sql dialect).toList) = select := by
    rw [hsql]
    cases q.limit.isSome with
    | true => rw [if_pos rfl, Text.trimEnd_space hsolid, String.ofList_toList]
    | false =>
      rw [if_neg Bool.false_ne_true, String.append_empty, Text.trimEnd_of_solid hsolid,
        String.ofList_toList]
  have hwhole : ∀ f ∈ q.conditions.filters, f.sql.toList <:+: select.toList := by
    intro f hf
    simp only [select, String.toList_append]
    refine (Conditions.infix_sql hf).trans ?_
    exact (List.suffix_append _ _).isInfix.trans
      ((List.prefix_append _ _).trans (List.prefix_append _ _)).isInfix
  have hcount : countSql (q.sql dialect) = "SELECT COUNT(*) FROM (" ++ select ++ ") AS counted" := by
    rw [← htrim]
    rfl
  have hcalls : (q.count dialect).calls b s = [.fetch (countSql (q.sql dialect))] := rfl
  exact ⟨hsql, htrim, hwhole, hcount, hcalls.trans (by rw [hcount])⟩

/-- The blanks at the end of a value stand before its quote and are kept, with a limit and without;
the space behind the limit goes. -/
theorem count_wraps_select_measurement :
    let q := (all measurementModel).compare .eq "note" (.text "two \n ")
    Solid measurementModel.table ∧
      countSql (q.sql .mySql) =
        "SELECT COUNT(*) FROM (" ++ measurementModel.selectSql ++
          " WHERE note = 'two \n ') AS counted" ∧
      countSql ((q.slice 10 30).sql .postgres) =
        "SELECT COUNT(*) FROM (" ++ measurementModel.selectSql ++
          " WHERE note = 'two \n ' LIMIT 20 OFFSET 10) AS counted" := by
  intro q
  have htable : Solid measurementModel.table :=
    ⟨['m', 'e', 'a', 's', 'u', 'r', 'e', 'm', 'e', 'n'], 't', by decide, by decide⟩
  obtain ⟨words, hclause, -, -, -, hcount, -⟩ :=
    count_wraps_select htable q .mySql (Script.backend .mySql) {}
  obtain ⟨words', hclause', -, -, -, hcount', -⟩ :=
    count_wraps_select htable (q.slice 10 30) .postgres (Script.backend .postgres) {}
  have hwords : "" = words := hclause.trans String.append_empty
  have hspace : "LIMIT 20 OFFSET 10" ++ " " = words' ++ " " := Eq.trans (by decide) hclause'
  have hwords' : "LIMIT 20 OFFSET 10" = words' := (String.append_left_inj " ").1 hspace
  subst hwords hwords'
  exact ⟨htable, hcount.trans (by decide +kernel), hcount'.trans (by decide +kernel)⟩

end QuerySet

end TableMapper
