import TableMapper.Proofs.Query.Statement

/-!
# Sessions and what they may change

A session makes one operation after another, of any models, and may choose each by the answers
before it. Apart from queries written by hand, rows are deleted or updated only by a statement that
says which: those of one record by its key, or those that satisfy the conditions of a query set. A
statement for all rows is sent by a bulk update without conditions and by nothing else.
-/

namespace TableMapper

open Text (Begins Contains)

namespace Operation

variable {m : Model} {op : Operation m} {call : Call}

/-- The call deletes one record by its key, or the rows that satisfy the conditions of a query set,
of which there is one at least. -/
def RestrictedDelete (op : Operation m) (call : Call) : Prop :=
  (∃ x id, op.DeletesRecord x ∧ x.id = some id ∧
    call = .execute ("DELETE FROM " ++ m.table ++ " WHERE id = " ++ Decimal.intText id.toInt)) ∨
  ∃ q, op.DeletesRows q ∧ q.conditions.filters ≠ [] ∧
    call = .execute ("DELETE FROM " ++ m.table ++ " WHERE " ++
      String.intercalate " AND " (q.conditions.filters.map Filter.sql))

/-- The call updates every column of one record by its key, each once and in the order of the
schema. -/
def RecordUpdate (op : Operation m) (call : Call) : Prop :=
  ∃ (x : Instance m) (id : Int64) (columns : List (String × Value)), op.UpdatesRecord x ∧
    x.id = some id ∧ columns.map Prod.fst = m.columnNames ∧ columns.map Prod.snd = x.values ∧
    call = .execute ("UPDATE " ++ m.table ++ " SET " ++
      String.intercalate ", " (columns.map fun c => assignment c.1 c.2) ++ " WHERE id = " ++
        Decimal.intText id.toInt)

/-- The call updates the rows that satisfy the conditions of a query set. -/
def RestrictedUpdate (op : Operation m) (call : Call) : Prop :=
  ∃ q changes, op.UpdatesRows q changes ∧ q.conditions.filters ≠ [] ∧
    call = .execute ("UPDATE " ++ m.table ++ " SET " ++
      String.intercalate ", " (changes.entries.map fun e => assignment e.1 e.2) ++ " WHERE " ++
        String.intercalate " AND " (q.conditions.filters.map Filter.sql))

def WholeUpdate (op : Operation m) (call : Call) : Prop :=
  ∃ q changes, op.UpdatesRows q changes ∧ q.conditions.filters = [] ∧
    call = .execute ("UPDATE " ++ m.table ++ " SET " ++
      String.intercalate ", " (changes.entries.map fun e => assignment e.1 e.2))

theorem RestrictedDelete.verb (h : op.RestrictedDelete call) : call.Is .delete := by
  have hfrom : Begins "DELETE" ("DELETE FROM " ++ m.table) := (opens_delete m.table).begins
  rcases h with ⟨x, id, -, -, rfl⟩ | ⟨q, -, -, rfl⟩
  · exact (hfrom.append _).append _
  · exact (hfrom.append _).append _

theorem RecordUpdate.verb (h : op.RecordUpdate call) : call.Is .update := by
  obtain ⟨x, id, columns, -, -, -, -, rfl⟩ := h
  exact (((opens_update m.table).begins.append _).append _).append _

theorem RestrictedUpdate.verb (h : op.RestrictedUpdate call) : call.Is .update := by
  obtain ⟨q, changes, -, -, rfl⟩ := h
  exact (((opens_update m.table).begins.append _).append _).append _

theorem WholeUpdate.verb (h : op.WholeUpdate call) : call.Is .update := by
  obtain ⟨q, changes, -, -, rfl⟩ := h
  exact (opens_update m.table).begins.append _

theorem RecordUpdate.contains_where (h : op.RecordUpdate call) : Contains " WHERE " call.sql := by
  obtain ⟨x, id, columns, -, -, -, -, rfl⟩ := h
  have hid : " WHERE id = " = " WHERE " ++ "id = " := by decide
  rw [hid, Call.sql, ← String.append_assoc, String.append_assoc]
  exact Text.contains_append _ _ _

theorem RestrictedUpdate.contains_where (h : op.RestrictedUpdate call) :
    Contains " WHERE " call.sql := by
  obtain ⟨q, changes, -, -, rfl⟩ := h
  exact Text.contains_append _ _ _

/-- Whatever an operation sends reads or inserts, or is one of four statements with the right
restriction. -/
theorem Statement.cases_change (hm : m.Covers) (h : op.Statement call) :
    call.Is .select ∨ call.Is .insert ∨ op.RestrictedDelete call ∨ op.RecordUpdate call ∨
      op.RestrictedUpdate call ∨ op.WholeUpdate call := by
  cases h with
  | select hsql => exact .inl hsql
  | insert hsql => exact .inr (.inl hsql)
  | updateRecord hx hsql =>
    obtain ⟨id, columns, hid, hnames, hvalues, rfl⟩ := Instance.updateSql_eq_ok hm hsql
    exact .inr (.inr (.inr (.inl ⟨_, id, columns, hx, hid, hnames, hvalues, rfl⟩)))
  | deleteRecord hx hsql =>
    obtain ⟨id, hid, rfl⟩ := Instance.deleteSql_eq_ok hsql
    exact .inr (.inr (.inl (.inl ⟨_, id, hx, hid, rfl⟩)))
  | @updateRows q changes sql hq hsql =>
    obtain rfl := QuerySet.updateSql_eq_ok hsql
    by_cases hfilters : q.conditions.filters = []
    · have hclause : q.whereClause = "" := by
        rw [QuerySet.whereClause, Conditions.sql, Conditions.isEmpty, hfilters]
        rfl
      rw [hclause, String.append_empty]
      exact .inr (.inr (.inr (.inr (.inr ⟨q, changes, hq, hfilters, rfl⟩))))
    · rw [QuerySet.whereClause_of_filters hfilters, ← String.append_assoc]
      exact .inr (.inr (.inr (.inr (.inl ⟨q, changes, hq, hfilters, rfl⟩))))
  | deleteRows hq hsql =>
    obtain ⟨hfilters, rfl⟩ := QuerySet.deleteSql_eq_ok hsql
    exact .inr (.inr (.inl (.inr ⟨_, hq, hfilters, rfl⟩)))

theorem Statement.restrictedDelete (hm : m.Covers) (h : op.Statement call)
    (hdelete : call.Is .delete) : op.RestrictedDelete call := by
  rcases h.cases_change hm with hselect | hinsert | hrestricted | hrecord | hrows | hall
  · exact absurd hselect (hdelete.not (by decide))
  · exact absurd hinsert (hdelete.not (by decide))
  · exact hrestricted
  · exact absurd hrecord.verb (hdelete.not (by decide))
  · exact absurd hrows.verb (hdelete.not (by decide))
  · exact absurd hall.verb (hdelete.not (by decide))

theorem Statement.update_cases (hm : m.Covers) (h : op.Statement call)
    (hupdate : call.Is .update) :
    op.RecordUpdate call ∨ op.RestrictedUpdate call ∨ op.WholeUpdate call := by
  rcases h.cases_change hm with hselect | hinsert | hdelete | hcases
  · exact absurd hselect (hupdate.not (by decide))
  · exact absurd hinsert (hupdate.not (by decide))
  · exact absurd hdelete.verb (hupdate.not (by decide))
  · exact hcases

end Operation

structure Request where
  model : Model
  op : Operation model

/-- Operations one after another, each chosen by the answers to those before it. -/
inductive Session
  | stop
  | ask (r : Request) (rest : Except Error r.op.Answer → Session)

namespace Session

variable {σ : Type}

/-- The session makes no raw query and asks only about models that cover their schema. -/
def Admitted : Session → Prop
  | stop => True
  | ask r rest => r.op.isRaw = false ∧ r.model.Covers ∧ ∀ answer, (rest answer).Admitted

def calls (b : Backend σ) : Session → σ → List (Request × Call)
  | stop, _ => []
  | ask r rest, s =>
    let o := (r.op.action b.dialect).run b s
    ((r.op.action b.dialect).calls b s).map (r, ·) ++ (rest o.answer).calls b o.state

/-- What holds of the calls of every operation holds of those of every session. -/
theorem statement_of_mem_calls {b : Backend σ} {session : Session} (h : session.Admitted) {s : σ}
    {r : Request} {call : Call} (hcall : (r, call) ∈ session.calls b s) :
    r.model.Covers ∧ r.op.Statement call := by
  -- The state is left open, since the backend may answer and change in any way between operations.
  induction session generalizing s with
  | stop => cases hcall
  | ask r' rest ih =>
    obtain ⟨hraw, hcovers, hrest⟩ := h
    rw [calls, List.mem_append] at hcall
    rcases hcall with hnow | hlater
    · obtain ⟨call', hmem, he⟩ := List.mem_map.1 hnow
      cases he
      exact ⟨hcovers, Operation.statement_of_mem_calls hraw hmem⟩
    · exact ih _ (hrest _) hlater

open Declaration (Item)

/-- However a session goes on any backend, no row is deleted and no record is updated without saying
which. A DELETE names the key of its record or the merged conditions of its query set, at least one.
An UPDATE of a record assigns all its columns and names its key; any other is that of a query set,
and it says nothing of rows only if that has no conditions. All derived models cover their schema.
-/
theorem changes_restricted (b : Backend σ) (s : σ) :
    (∀ (typeOf? : String → Option FieldType) (d : Item) (m : Model),
      d.model? typeOf? = some m → (d.shape.named.map Prod.fst).Nodup → m.Covers) ∧
    ∀ session : Session, session.Admitted → ∀ r call, (r, call) ∈ session.calls b s →
      (call.Is .delete → r.op.RestrictedDelete call) ∧
      (call.Is .update →
        r.op.RecordUpdate call ∨ r.op.RestrictedUpdate call ∨ r.op.WholeUpdate call) ∧
      (call.Is .update → ¬Contains " WHERE " call.sql → r.op.WholeUpdate call) := by
  refine ⟨fun typeOf? d m hm hd => (aligned_of_model? hm hd).covers, ?_⟩
  intro session hsession r call hcall
  obtain ⟨hcovers, hstatement⟩ := statement_of_mem_calls hsession hcall
  refine ⟨hstatement.restrictedDelete hcovers, hstatement.update_cases hcovers, ?_⟩
  intro hupdate hwhere
  rcases hstatement.update_cases hcovers hupdate with hrecord | hrows | hall
  · exact absurd hrecord.contains_where hwhere
  · exact absurd hrows.contains_where hwhere
  · exact hall

/-- All notes are cleared, for want of conditions, and then some measurements are removed. -/
theorem changes_restricted_notes :
    let b : Backend Unit := {
      dialect := .postgres
      fetch := fun _ s => ⟨.ok [], s, []⟩
      execute := fun _ s => ⟨.ok 2, s, []⟩
      insert := fun _ s => ⟨.ok 1, s, []⟩ }
    let clear : Request := ⟨measurementModel, .updateAll (.ofPairs [("note", .null)])⟩
    let remove : Request := ⟨measurementModel, .deleteWhere [⟨"level", .gt, .int 3⟩]⟩
    let session : Session := .ask clear fun
      | .ok _ => .ask remove fun _ => .stop
      | .error _ => .stop
    session.Admitted ∧
      session.calls b () =
        [(clear, .execute "UPDATE measurement SET note = NULL"),
          (remove, .execute "DELETE FROM measurement WHERE level > '3'")] ∧
      clear.op.WholeUpdate (.execute "UPDATE measurement SET note = NULL") ∧
      remove.op.RestrictedDelete (.execute "DELETE FROM measurement WHERE level > '3'") := by
  intro b clear remove session
  have hd : (measurement.shape.named.map Prod.fst).Nodup := by decide +kernel
  obtain ⟨hderived, hsession⟩ := changes_restricted b ()
  have hcovers : measurementModel.Covers := hderived _ _ _ measurement_model? hd
  have hadmitted : session.Admitted := by
    refine ⟨rfl, hcovers, fun answer => ?_⟩
    cases answer with
    | ok n => exact ⟨rfl, hcovers, fun _ => trivial⟩
    | error e => trivial
  have hcalls : session.calls b () =
      [(clear, .execute "UPDATE measurement SET note = NULL"),
        (remove, .execute "DELETE FROM measurement WHERE level > '3'")] := by
    rfl
  have hclear := hsession session hadmitted clear _ (hcalls ▸ List.mem_cons_self)
  have hremove := hsession session hadmitted remove _
    (hcalls ▸ List.mem_cons_of_mem _ List.mem_cons_self)
  refine ⟨hadmitted, hcalls, hclear.2.2 ?_ ?_, hremove.1 ?_⟩
  · decide +kernel
  · decide +kernel
  · decide +kernel

end Session

end TableMapper
