import TableMapper.Proofs.Model.Derived
import TableMapper.Proofs.Sql.Parts
import TableMapper.Query.Set

/-!
# Values cannot change a statement

As long as nothing that goes into a statement brings a quote, the statement of a query set is cut by
its quotes into the values it was given and a frame around them, which is the same for all values.
-/

namespace TableMapper

open Text (inside outside)

variable {m : Model}

structure Model.QuoteFree (m : Model) : Prop where
  table : Text.QuoteFree m.table
  columns : ∀ name ∈ m.columnNames, Text.QuoteFree name

structure QuerySet.QuoteFree (q : QuerySet m) : Prop where
  filters : ∀ f ∈ q.conditions.filters, Text.QuoteFree f.column ∧ f.value.QuoteFree
  order : ∀ o ∈ q.order, Text.QuoteFree o.column

def Record.QuoteFree (r : Record) : Prop :=
  ∀ e ∈ r.entries, Text.QuoteFree e.1 ∧ e.2.QuoteFree

/-- The same column and operator; both values are NULL, or neither is. -/
def Filter.SameShape (f g : Filter) : Prop :=
  f.column = g.column ∧ f.operator = g.operator ∧ f.value.isNull = g.value.isNull

structure QuerySet.SameShape (q q' : QuerySet m) : Prop where
  filters : List.Forall₂ Filter.SameShape q.conditions.filters q'.conditions.filters
  order : q.order = q'.order
  limit : q.limit = q'.limit

def Record.SameShape (r r' : Record) : Prop :=
  List.Forall₂ (fun e e' => e.1 = e'.1 ∧ e.2.isNull = e'.2.isNull) r.entries r'.entries

def Filter.entry (f : Filter) : String × Value :=
  (f.column ++ " " ++ f.operator.sql ++ " ", f.value)

theorem Filter.quoteFree_entry {f : Filter} (h : Text.QuoteFree f.column) :
    Text.QuoteFree f.entry.1 := by
  have hsign : Text.QuoteFree f.operator.sql := by cases f.operator <;> decide
  simp only [entry, Text.quoteFree_append]
  exact ⟨⟨⟨h, by decide⟩, hsign⟩, by decide⟩

namespace Conditions

def parts (c : Conditions) : List Part :=
  if c.isEmpty then [] else .words " WHERE " :: Part.entries " AND " (c.filters.map Filter.entry)

theorem texts_parts (c : Conditions) : Part.texts c.parts = c.sql := by
  rw [parts, sql]
  split
  · rfl
  · rw [Part.texts_cons, Part.texts_entries, List.map_map]
    rfl

theorem quoteFree_parts {c : Conditions}
    (h : ∀ f ∈ c.filters, Text.QuoteFree f.column ∧ f.value.QuoteFree) :
    ∀ p ∈ c.parts, p.QuoteFree := by
  have hentries : ∀ e ∈ c.filters.map Filter.entry, Text.QuoteFree e.1 ∧ e.2.QuoteFree := by
    intro e he
    obtain ⟨f, hf, rfl⟩ := List.mem_map.1 he
    exact ⟨Filter.quoteFree_entry (h f hf).1, (h f hf).2⟩
  intro p hp
  rw [parts] at hp
  split at hp
  · cases hp
  · rcases List.mem_cons.1 hp with rfl | hp
    · exact (by decide : Text.QuoteFree " WHERE ")
    · exact Part.quoteFree_entries (by decide) hentries p hp

/-- The values of the filters that are not NULL, as they are shown. -/
def shown (c : Conditions) : List String := c.filters.filterMap (·.value.shown?)

theorem filterMap_parts (c : Conditions) : c.parts.filterMap Part.shown? = c.shown := by
  rw [parts]
  split
  · rename_i hempty
    have hnil : c.filters = [] := List.isEmpty_iff.1 hempty
    rw [shown, hnil]
    rfl
  · have hwords : (Part.words " WHERE ").shown? = none := rfl
    rw [List.filterMap_cons_none hwords, Part.filterMap_entries, List.filterMap_map]
    rfl

theorem isEmpty_eq_of_sameShape {c c' : Conditions}
    (h : List.Forall₂ Filter.SameShape c.filters c'.filters) : c.isEmpty = c'.isEmpty := by
  rw [Bool.eq_iff_iff, isEmpty, isEmpty, List.isEmpty_iff_length_eq_zero,
    List.isEmpty_iff_length_eq_zero, h.length_eq]

theorem sameShape_parts {c c' : Conditions}
    (h : List.Forall₂ Filter.SameShape c.filters c'.filters) :
    List.Forall₂ Part.SameShape c.parts c'.parts := by
  have hentries : List.Forall₂ (fun e e' => e.1 = e'.1 ∧ e.2.isNull = e'.2.isNull)
      (c.filters.map Filter.entry) (c'.filters.map Filter.entry) := by
    rw [List.forall₂_map_left_iff, List.forall₂_map_right_iff]
    refine h.imp fun f g hfg => ?_
    obtain ⟨hcolumn, hoperator, hnull⟩ := hfg
    exact ⟨by rw [Filter.entry, Filter.entry, hcolumn, hoperator], hnull⟩
  rw [parts, parts, isEmpty_eq_of_sameShape h]
  split
  · exact .nil
  · exact .cons (.words _) (Part.sameShape_entries _ hentries)

end Conditions

namespace Record

def assignments (r : Record) : List (String × Value) := r.entries.map fun e => (e.1 ++ " = ", e.2)

def shown (r : Record) : List String := r.entries.filterMap (·.2.shown?)

theorem quoteFree_assignments {r : Record} (h : r.QuoteFree) :
    ∀ e ∈ r.assignments, Text.QuoteFree e.1 ∧ e.2.QuoteFree := by
  intro _ hmem
  obtain ⟨e, he, rfl⟩ := List.mem_map.1 hmem
  obtain ⟨hname, hvalue⟩ := h e he
  exact ⟨Text.quoteFree_append.2 ⟨hname, by decide⟩, hvalue⟩

theorem sameShape_assignments {r r' : Record} (h : r.SameShape r') :
    List.Forall₂ (fun e e' => e.1 = e'.1 ∧ e.2.isNull = e'.2.isNull) r.assignments
      r'.assignments := by
  rw [assignments, assignments, List.forall₂_map_left_iff, List.forall₂_map_right_iff]
  exact h.imp fun e e' he => ⟨by rw [he.1], he.2⟩

end Record

namespace QuerySet

variable {q q' : QuerySet m} {changes changes' : Record}

def ending (q : QuerySet m) (dialect : Dialect) : String :=
  spaced q.orderClause ++ spaced (q.limitClause dialect)

def selectParts (q : QuerySet m) (dialect : Dialect) : List Part :=
  .words m.selectSql :: (q.conditions.parts ++ [.words (q.ending dialect)])

def updateParts (q : QuerySet m) (changes : Record) : List Part :=
  .words ("UPDATE " ++ m.table ++ " SET ") ::
    (Part.entries ", " changes.assignments ++ q.conditions.parts)

def deleteParts (q : QuerySet m) : List Part :=
  .words ("DELETE FROM " ++ m.table) :: q.conditions.parts

theorem texts_selectParts (q : QuerySet m) (dialect : Dialect) :
    Part.texts (q.selectParts dialect) = q.sql dialect := by
  rw [selectParts, Part.texts_cons, Part.texts_append, Conditions.texts_parts, sql, ending,
    String.append_assoc, String.append_assoc]
  simp [Part.texts, Part.text, whereClause]

theorem updateSql_of_changes (h : changes.isEmpty = false) :
    q.updateSql changes = .ok (Part.texts (q.updateParts changes)) := by
  rw [updateSql, TableMapper.updateSql, if_neg (by simp [h]), updateParts, Part.texts_cons,
    Part.texts_append, Part.texts_entries, Conditions.texts_parts, Record.assignments,
    List.map_map, String.append_assoc]
  rfl

theorem deleteSql_of_conditions (h : q.conditions.isEmpty = false) :
    q.deleteSql = .ok (Part.texts q.deleteParts) := by
  rw [deleteSql, if_neg (by simp [h]), deleteParts, Part.texts_cons, Conditions.texts_parts]
  rfl

theorem quoteFree_selectSql (hm : m.QuoteFree) : Text.QuoteFree m.selectSql := by
  have hlist : Text.QuoteFree m.selectList := Text.quoteFree_intercalate (by decide) hm.columns
  simp only [Model.selectSql, Text.quoteFree_append]
  exact ⟨⟨⟨by decide, hlist⟩, by decide⟩, hm.table⟩

theorem quoteFree_spaced {clause : String} (h : Text.QuoteFree clause) :
    Text.QuoteFree (spaced clause) := by
  rw [spaced]
  split
  · decide
  · exact Text.quoteFree_append.2 ⟨by decide, h⟩

theorem quoteFree_orderClause (hq : q.QuoteFree) : Text.QuoteFree q.orderClause := by
  rw [orderClause]
  cases ho : q.order with
  | none => exact (by decide : Text.QuoteFree "")
  | some o =>
    have hcolumn := hq.order o ho
    have hdirection : Text.QuoteFree (if o.descending then "DESC" else "ASC") := by
      cases o.descending <;> decide
    simp only [Option.map_some, Option.getD_some, Order.sql, Text.quoteFree_append]
    exact ⟨⟨⟨by decide, hcolumn⟩, by decide⟩, hdirection⟩

theorem quoteFree_toString (n : Nat) : Text.QuoteFree (toString n) := by
  rw [Nat.toString_eq_ofList_toDigits]
  exact Value.quoteFree_of_marks [] List.not_mem_nil fun c hc =>
    .inl (Decimal.isDigit_of_mem_digits hc)

theorem quoteFree_limitClause (q : QuerySet m) (dialect : Dialect) :
    Text.QuoteFree (q.limitClause dialect) := by
  rw [limitClause]
  cases q.limit with
  | none => exact (by decide : Text.QuoteFree "")
  | some l =>
    rw [Option.map_some, Option.getD_some]
    cases l with
    | first n =>
      simp only [Limit.sql, Text.quoteFree_append]
      exact ⟨⟨by decide, quoteFree_toString _⟩, by decide⟩
    | range offset count =>
      cases dialect with
      | mySql =>
        simp only [Limit.sql, Text.quoteFree_append]
        exact ⟨⟨⟨⟨by decide, quoteFree_toString _⟩, by decide⟩, quoteFree_toString _⟩, by decide⟩
      | postgres =>
        simp only [Limit.sql, Text.quoteFree_append]
        exact ⟨⟨⟨⟨by decide, quoteFree_toString _⟩, by decide⟩, quoteFree_toString _⟩, by decide⟩

theorem quoteFree_selectParts (hm : m.QuoteFree) (hq : q.QuoteFree) (dialect : Dialect) :
    ∀ p ∈ q.selectParts dialect, p.QuoteFree := by
  intro p hp
  simp only [selectParts, List.mem_cons, List.mem_append, List.not_mem_nil, or_false] at hp
  rcases hp with rfl | hp | rfl
  · exact quoteFree_selectSql hm
  · exact Conditions.quoteFree_parts hq.filters p hp
  · exact Text.quoteFree_append.2 ⟨quoteFree_spaced (quoteFree_orderClause hq),
      quoteFree_spaced (quoteFree_limitClause q dialect)⟩

theorem quoteFree_updateParts (hm : m.QuoteFree) (hq : q.QuoteFree) (hc : changes.QuoteFree) :
    ∀ p ∈ q.updateParts changes, p.QuoteFree := by
  intro p hp
  simp only [updateParts, List.mem_cons, List.mem_append] at hp
  rcases hp with rfl | hp | hp
  · exact Text.quoteFree_append.2 ⟨Text.quoteFree_append.2 ⟨by decide, hm.table⟩, by decide⟩
  · exact Part.quoteFree_entries (by decide) (Record.quoteFree_assignments hc) p hp
  · exact Conditions.quoteFree_parts hq.filters p hp

theorem quoteFree_deleteParts (hm : m.QuoteFree) (hq : q.QuoteFree) :
    ∀ p ∈ q.deleteParts, p.QuoteFree := by
  intro p hp
  rcases List.mem_cons.1 hp with rfl | hp
  · exact Text.quoteFree_append.2 ⟨by decide, hm.table⟩
  · exact Conditions.quoteFree_parts hq.filters p hp

theorem filterMap_selectParts (q : QuerySet m) (dialect : Dialect) :
    (q.selectParts dialect).filterMap Part.shown? = q.conditions.shown := by
  have hwords : ∀ s, (Part.words s).shown? = none := fun _ => rfl
  rw [selectParts, List.filterMap_cons_none (hwords _), List.filterMap_append,
    List.filterMap_cons_none (hwords _), Conditions.filterMap_parts, List.filterMap_nil,
    List.append_nil]

theorem filterMap_updateParts (q : QuerySet m) (changes : Record) :
    (q.updateParts changes).filterMap Part.shown? = changes.shown ++ q.conditions.shown := by
  have hwords : ∀ s, (Part.words s).shown? = none := fun _ => rfl
  rw [updateParts, List.filterMap_cons_none (hwords _), List.filterMap_append,
    Part.filterMap_entries, Conditions.filterMap_parts, Record.assignments, List.filterMap_map]
  rfl

theorem filterMap_deleteParts (q : QuerySet m) :
    q.deleteParts.filterMap Part.shown? = q.conditions.shown := by
  have hwords : ∀ s, (Part.words s).shown? = none := fun _ => rfl
  rw [deleteParts, List.filterMap_cons_none (hwords _), Conditions.filterMap_parts]

theorem sameShape_selectParts (hs : q.SameShape q') (dialect : Dialect) :
    List.Forall₂ Part.SameShape (q.selectParts dialect) (q'.selectParts dialect) := by
  have hending : q.ending dialect = q'.ending dialect := by
    rw [ending, ending, orderClause, orderClause, limitClause, limitClause, hs.order, hs.limit]
  rw [selectParts, selectParts, hending]
  exact .cons (.words _) (List.rel_append (Conditions.sameShape_parts hs.filters)
    (.cons (.words _) .nil))

theorem sameShape_updateParts (hs : q.SameShape q') (hcs : changes.SameShape changes') :
    List.Forall₂ Part.SameShape (q.updateParts changes) (q'.updateParts changes') :=
  .cons (.words _) (List.rel_append
    (Part.sameShape_entries _ (Record.sameShape_assignments hcs))
    (Conditions.sameShape_parts hs.filters))

theorem sameShape_deleteParts (hs : q.SameShape q') :
    List.Forall₂ Part.SameShape q.deleteParts q'.deleteParts :=
  .cons (.words _) (Conditions.sameShape_parts hs.filters)

/-- Without quotes in the data, the quotes of a select, a bulk update or a bulk delete enclose
exactly the values that are not NULL, in order and each as it is shown, those that are set before
those of the conditions; and what stands outside of the quotes is the same for any other values in
their places, of whatever kind. -/
theorem values_within_quotes (hm : m.QuoteFree) (hq : q.QuoteFree) (hq' : q'.QuoteFree)
    (hc : changes.QuoteFree) (hc' : changes'.QuoteFree) (hs : q.SameShape q')
    (hcs : changes.SameShape changes') :
    (∀ dialect, inside (q.sql dialect) = q.conditions.shown ∧
      outside (q.sql dialect) = outside (q'.sql dialect)) ∧
    (changes.isEmpty = false → ∃ s s', q.updateSql changes = .ok s ∧
      q'.updateSql changes' = .ok s' ∧ inside s = changes.shown ++ q.conditions.shown ∧
      outside s = outside s') ∧
    (q.conditions.isEmpty = false → ∃ s s', q.deleteSql = .ok s ∧ q'.deleteSql = .ok s' ∧
      inside s = q.conditions.shown ∧ outside s = outside s') := by
  refine ⟨fun dialect => ?_, fun hchanges => ?_, fun hconditions => ?_⟩
  · have hfree := quoteFree_selectParts hm hq dialect
    have hfree' := quoteFree_selectParts hm hq' dialect
    rw [← texts_selectParts, ← texts_selectParts, Part.inside_texts hfree, filterMap_selectParts]
    exact ⟨rfl, Part.outside_texts hfree hfree' (sameShape_selectParts hs dialect)⟩
  · have hfree := quoteFree_updateParts hm hq hc
    have hfree' := quoteFree_updateParts hm hq' hc'
    -- The other changes are as many, so they can be compiled as well.
    have hchanges' : changes'.isEmpty = false := by
      rw [← hchanges, Record.isEmpty, Record.isEmpty, Bool.eq_iff_iff,
        List.isEmpty_iff_length_eq_zero, List.isEmpty_iff_length_eq_zero,
        List.Forall₂.length_eq hcs]
    refine ⟨_, _, updateSql_of_changes hchanges, updateSql_of_changes hchanges', ?_, ?_⟩
    · rw [Part.inside_texts hfree, filterMap_updateParts]
    · exact Part.outside_texts hfree hfree' (sameShape_updateParts hs hcs)
  · have hfree := quoteFree_deleteParts hm hq
    have hfree' := quoteFree_deleteParts hm hq'
    have hconditions' : q'.conditions.isEmpty = false := by
      rw [← hconditions, Conditions.isEmpty_eq_of_sameShape hs.filters]
    refine ⟨_, _, deleteSql_of_conditions hconditions, deleteSql_of_conditions hconditions',
      ?_, ?_⟩
    · rw [Part.inside_texts hfree, filterMap_deleteParts]
    · exact Part.outside_texts hfree hfree' (sameShape_deleteParts hs)

/-- A note that reads like more conditions stays one value, as a number in its place would. -/
theorem values_within_quotes_note :
    let restrict (note level : Value) : QuerySet measurementModel :=
      ((((QuerySet.all measurementModel).compare .eq "note" note).compare .ne "taken" .null).compare
        .gt "level" level).orderBy "-taken"
    let change (note : Value) : Record := .ofPairs [("note", note), ("taken", .null)]
    let q := restrict (.text "x AND level = NULL, -- ") (.bool true)
    let q' := restrict (.int 7) (.date ⟨-44, 3, 15, by decide⟩)
    let changes := change (.text "1, level = 2")
    measurementModel.QuoteFree ∧ q.QuoteFree ∧ q'.QuoteFree ∧ changes.QuoteFree ∧
      q.SameShape q' ∧ changes.SameShape (change (.int (-1))) ∧
      inside (q.sql .postgres) = ["x AND level = NULL, -- ", "1"] ∧
      outside (q.sql .postgres) = outside (q'.sql .postgres) ∧
      ∃ s, q.updateSql changes = .ok s ∧
        inside s = ["1, level = 2", "x AND level = NULL, -- ", "1"] := by
  intro restrict change q q' changes
  have hm : measurementModel.QuoteFree := ⟨by decide, by decide +kernel⟩
  have hfree : ∀ note level : Value, note.QuoteFree → level.QuoteFree →
      (restrict note level).QuoteFree := by
    intro note level hnote hlevel
    constructor
    · intro f hf
      have hfilters : (restrict note level).conditions.filters =
          [⟨"note", .eq, note⟩, ⟨"taken", .ne, .null⟩, ⟨"level", .gt, level⟩] := rfl
      simp only [hfilters, List.mem_cons, List.not_mem_nil, or_false] at hf
      rcases hf with rfl | rfl | rfl
      · exact ⟨(by decide : Text.QuoteFree "note"), hnote⟩
      · exact ⟨by decide, trivial⟩
      · exact ⟨(by decide : Text.QuoteFree "level"), hlevel⟩
    · intro o ho
      cases ho
      decide
  have hchange : ∀ note : Value, note.QuoteFree → (change note).QuoteFree := by
    intro note hnote e he
    have hentries : (change note).entries = [("note", note), ("taken", .null)] := rfl
    simp only [hentries, List.mem_cons, List.not_mem_nil, or_false] at he
    rcases he with rfl | rfl
    · exact ⟨(by decide : Text.QuoteFree "note"), hnote⟩
    · exact ⟨by decide, trivial⟩
  have hq : q.QuoteFree := hfree _ _ (by decide : Text.QuoteFree _) trivial
  have hq' : q'.QuoteFree := hfree _ _ trivial trivial
  have hc : changes.QuoteFree := hchange _ (by decide : Text.QuoteFree _)
  have hs : q.SameShape q' :=
    ⟨.cons ⟨rfl, rfl, rfl⟩ (.cons ⟨rfl, rfl, rfl⟩ (.cons ⟨rfl, rfl, rfl⟩ .nil)), rfl, rfl⟩
  have hcs : changes.SameShape (change (.int (-1))) := .cons ⟨rfl, rfl⟩ (.cons ⟨rfl, rfl⟩ .nil)
  obtain ⟨hselect, hupdate, -⟩ :=
    values_within_quotes hm hq hq' hc (hchange (.int (-1)) trivial) hs hcs
  obtain ⟨s, -, hsql, -, hinside, -⟩ := hupdate rfl
  exact ⟨hm, hq, hq', hc, hs, hcs, (hselect .postgres).1, (hselect .postgres).2, s, hsql, hinside⟩

end QuerySet

end TableMapper
