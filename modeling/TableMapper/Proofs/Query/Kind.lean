import TableMapper.Proofs.Logging
import TableMapper.Proofs.Query.Statement

/-!
# The kinds of compiled statements

Every statement that is compiled begins with the word for what it does, and so its kind is told. The
kind stays the same with blanks and brackets before the statement and with letters in another case.
-/

namespace TableMapper

open StatementKind (ofSql FirstWord IsLead)

def Verb.kind : Verb → StatementKind
  | select => .select
  | insert => .insert
  | update => .update
  | delete => .delete

theorem Verb.ofSql_of_opens {v : Verb} {sql : String} (h : v.Opens sql) : ofSql sql = v.kind := by
  obtain ⟨rest, hrest⟩ := h
  have hsql : sql = v.word ++ " " ++ String.ofList rest := by
    apply String.toList_inj.1
    rw [String.toList_append, String.toList_ofList, hrest]
  have hne : v.word ≠ "" := by cases v <;> decide
  have hletters : v.word.toList.all Char.isAlpha = true := by cases v <;> decide
  have hword : FirstWord sql v.word := hsql ▸
    StatementKind.firstWord_append hne (List.all_eq_true.1 hletters) _
  have hkind : v.kind ≠ .other := by cases v <;> decide
  apply (StatementKind.ofSql_eq_iff hword hkind).2
  cases v <;> decide +kernel

namespace Model

variable {m : Model}

/-- The kinds that are told of everything compiled for a model. An update or delete of a record is
compiled exactly if it has a key, an update of rows if there are changes, and a delete of rows if
there are conditions. -/
structure KindsTold (m : Model) : Prop where
  select (q : QuerySet m) (dialect : Dialect) : ofSql (q.sql dialect) = .select
  count (q : QuerySet m) (dialect : Dialect) : ofSql (countSql (q.sql dialect)) = .select
  insert (x : Instance m) (dialect : Dialect) : ofSql (x.insertSql dialect) = .insert
  updateRecord (x : Instance m) :
    (x.updateSql.map ofSql).toOption = x.id.map fun _ => StatementKind.update
  updateRows (q : QuerySet m) (changes : Record) :
    ((q.updateSql changes).map ofSql).toOption = if changes.isEmpty then none else some .update
  deleteRecord (x : Instance m) :
    (x.deleteSql.map ofSql).toOption = x.id.map fun _ => StatementKind.delete
  deleteRows (q : QuerySet m) :
    (q.deleteSql.map ofSql).toOption = if q.conditions.isEmpty then none else some .delete

theorem kindsTold (m : Model) : m.KindsTold where
  select q dialect := Verb.ofSql_of_opens (Operation.opens_sql q dialect)
  count q dialect := Verb.ofSql_of_opens (Operation.opens_countSql (q.sql dialect))
  insert x dialect := Verb.ofSql_of_opens (Operation.opens_insertSql x dialect)
  updateRecord x := by
    rw [Instance.updateSql, Instance.requireId]
    cases x.id with
    | none => rfl
    | some id =>
      have hopens (changes key : String) :=
        (((Operation.opens_update m.table).append changes).append " WHERE id = ").append key
      exact congrArg some (Verb.ofSql_of_opens (hopens _ _))
  updateRows q changes := by
    rw [QuerySet.updateSql, TableMapper.updateSql]
    split
    · rfl
    · have hopens (changes : String) :=
        ((Operation.opens_update m.table).append changes).append q.whereClause
      exact congrArg some (Verb.ofSql_of_opens (hopens _))
  deleteRecord x := by
    rw [Instance.deleteSql, Instance.requireId]
    cases x.id with
    | none => rfl
    | some id =>
      have hopens (key : String) :=
        ((Operation.opens_delete m.table).append " WHERE id = ").append key
      exact congrArg some (Verb.ofSql_of_opens (hopens _))
  deleteRows q := by
    rw [QuerySet.deleteSql]
    split
    · rfl
    · exact congrArg some (Verb.ofSql_of_opens ((Operation.opens_delete m.table).append _))

end Model

namespace StatementKind

/-- Whatever is compiled for a model has the kind of what it does. Of any text the kind stays the same
with blanks and opening brackets put before it, and with letters of ASCII put into another case. The
kind is told by the first word, of which there is one: by five words and by nothing else. -/
theorem told_by_first_word (m : Model) :
    m.KindsTold ∧
    ∀ s : String,
      (∀ lead : String, (∀ c ∈ lead.toList, IsLead c) → ofSql (lead ++ s) = ofSql s) ∧
      (∀ t : String, Text.Recased s t → ofSql t = ofSql s) ∧
      ∃ word, (∀ w, FirstWord s w ↔ w = word) ∧
        (∀ k, k ≠ .other → (ofSql s = k ↔ word.toUpper ∈ k.words)) ∧
        (ofSql s ≠ .other ↔
          word.toUpper ∈ ["SELECT", "WITH", "INSERT", "UPDATE", "DELETE"]) := by
  refine ⟨m.kindsTold, fun s => ⟨fun lead => ofSql_append, fun t => ofSql_of_recased, ?_⟩⟩
  have hword : FirstWord s (.ofList (firstLetters s.toList)) := firstWord_iff.2 rfl
  exact ⟨_, fun w => firstWord_iff, fun k => ofSql_eq_iff hword, ofSql_ne_other_iff hword⟩

/-- A longer word and one with an accent tell nothing; a star, a bracket or other letters around and
in the word do not matter. -/
theorem told_by_first_word_selected :
    let q := (QuerySet.all measurementModel).slice 10 30
    let bracketed := " (\n" ++ q.sql .postgres
    (∀ c ∈ " (\n".toList, IsLead c) ∧ ofSql bracketed = .select ∧
      Text.Recased "DELETE FROM note" "dElete from NOTE" ∧ ofSql "dElete from NOTE" = .delete ∧
      FirstWord "SELECTED" "SELECTED" ∧ ofSql "SELECTED" = .other ∧
      FirstWord "sélect" "s" ∧ ofSql "sélect" = .other ∧
      FirstWord "SELECT*" "SELECT" ∧ ofSql "SELECT*" = .select ∧
      FirstWord "(select" "select" ∧ ofSql "(select" = .select := by
  intro q bracketed
  obtain ⟨hcompiled, htexts⟩ := told_by_first_word measurementModel
  have hall : " (\n".toList.all isLead = true := by decide
  have hlead : ∀ c ∈ " (\n".toList, IsLead c :=
    fun c hc => isLead_iff.1 (List.all_eq_true.1 hall c hc)
  have hselect : ofSql bracketed = .select :=
    ((htexts _).1 " (\n" hlead).trans (hcompiled.select q .postgres)
  have hrecased : Text.Recased "DELETE FROM note" "dElete from NOTE" := by decide
  have htold : ∀ {s w : String} {k : StatementKind}, FirstWord s w → k ≠ .other →
      w.toUpper ∈ k.words → ofSql s = k := by
    intro s w k hw hk hmem
    obtain ⟨word, hword, hkind, -⟩ := (htexts s).2.2
    rw [(hword w).1 hw] at hmem
    exact (hkind k hk).2 hmem
  have huntold : ∀ {s w : String}, FirstWord s w →
      w.toUpper ∉ ["SELECT", "WITH", "INSERT", "UPDATE", "DELETE"] → ofSql s = .other := by
    intro s w hw hmem
    obtain ⟨word, hword, -, hother⟩ := (htexts s).2.2
    rw [(hword w).1 hw] at hmem
    exact of_not_not (mt hother.1 hmem)
  have hdelete : ofSql "DELETE FROM note" = .delete := by
    have hword : FirstWord "DELETE FROM note" "DELETE" := by decide +kernel
    exact htold hword (by decide) (by decide +kernel)
  have hlonger : FirstWord "SELECTED" "SELECTED" := by decide +kernel
  have haccent : FirstWord "sélect" "s" := by decide +kernel
  have hstar : FirstWord "SELECT*" "SELECT" := by decide +kernel
  have hbracket : FirstWord "(select" "select" := by decide +kernel
  exact ⟨hlead, hselect, hrecased, ((htexts _).2.1 _ hrecased).trans hdelete,
    hlonger, huntold hlonger (by decide +kernel), haccent, huntold haccent (by decide +kernel),
    hstar, htold hstar (by decide) (by decide +kernel),
    hbracket, htold hbracket (by decide) (by decide +kernel)⟩

end StatementKind

end TableMapper
