import TableMapper.Backend
import TableMapper.Proofs.Backend.Calls
import TableMapper.Proofs.Condition.Feeding
import TableMapper.Proofs.Except
import TableMapper.Proofs.Model.Derived
import TableMapper.Query.Actions

/-!
# Operations and the calls they make

All operations on records, query sets and models in one type. An operation either is not built, and
then the backend never hears of it, or it begins with the call of its compiled statement. Every
operation but those that look for a record before they create one makes only that call.
-/

namespace TableMapper

/-- An operation of a model, of its query sets or of its records, with what it is given. -/
inductive Operation (m : Model)
  | fetch (q : QuerySet m)
  | size (q : QuerySet m)
  | count (q : QuerySet m)
  | get (q : QuerySet m)
  | getJson (q : QuerySet m)
  | json (q : QuerySet m)
  | update (q : QuerySet m) (changes : Record)
  | delete (q : QuerySet m)
  | save (x : Instance m)
  | updateRow (x : Instance m)
  | deleteRow (x : Instance m)
  | countAll
  | getWhere (fs : List Filter)
  | getJsonWhere (fs : List Filter)
  | create (x : Instance m)
  | createFromRecord (r : Record)
  | createFromJson (text : String)
  | getOrCreate (x : Instance m)
  | getOrCreateFromRecord (r : Record)
  | getOrCreateFromJson (text : String)
  | updateAll (changes : Record)
  | updateInstance (x : Instance m)
  | updateFromJson (text : String)
  | updateFromJsonAsJson (text : String)
  | deleteWhere (fs : List Filter)
  | executeQuery (sql : String)

namespace Operation

variable {m : Model} {σ : Type}

abbrev Answer : Operation m → Type
  | fetch _ | executeQuery _ => List (Instance m)
  | size _ => Nat
  | count _ | countAll => Int64
  | getJson _ | json _ | getJsonWhere _ | updateFromJsonAsJson _ => String
  | update .. | delete _ | updateRow _ | deleteRow _ | updateAll _ | updateInstance _
  | deleteWhere _ => UInt64
  | get _ | save _ | getWhere _ | create _ | createFromRecord _ | createFromJson _
  | getOrCreate _ | getOrCreateFromRecord _ | getOrCreateFromJson _ | updateFromJson _ => Instance m

def action (dialect : Dialect) : (op : Operation m) → Action op.Answer
  | fetch q => q.fetch dialect
  | size q => q.size dialect
  | count q => q.count dialect
  | get q => q.get dialect
  | getJson q => q.getJson dialect
  | json q => q.json dialect
  | update q changes => q.update changes
  | delete q => q.delete
  | save x => x.save dialect
  | updateRow x => x.update
  | deleteRow x => x.delete
  | countAll => m.count dialect
  | getWhere fs => m.get fs dialect
  | getJsonWhere fs => m.getJson fs dialect
  | create x => Model.create x dialect
  | createFromRecord r => m.createFromRecord r dialect
  | createFromJson text => m.createFromJson text dialect
  | getOrCreate x => Model.getOrCreate x dialect
  | getOrCreateFromRecord r => m.getOrCreateFromRecord r dialect
  | getOrCreateFromJson text => m.getOrCreateFromJson text dialect
  | updateAll changes => m.updateAll changes
  | updateInstance x => Model.updateInstance x
  | updateFromJson text => m.updateFromJson text
  | updateFromJsonAsJson text => m.updateFromJsonAsJson text
  | deleteWhere fs => m.deleteWhere fs
  | executeQuery sql => m.executeQuery sql

def lookFor (x : Instance m) (dialect : Dialect) : Call :=
  match x.id with
  | none => .insert (x.insertSql dialect)
  | some id => .fetch (((QuerySet.all m).compare .eq "id" (.int id)).sql dialect)

/-- The compiled call with which the operation begins, or the error of its compilation. -/
def opening (dialect : Dialect) : Operation m → Except Error Call
  | fetch q | size q | get q | getJson q | json q => .ok (.fetch (q.sql dialect))
  | count q => .ok (.fetch (countSql (q.sql dialect)))
  | countAll => .ok (.fetch (countSql ((QuerySet.all m).sql dialect)))
  | getWhere fs | getJsonWhere fs => .ok (.fetch (((QuerySet.all m).filterAll fs).sql dialect))
  | executeQuery sql => .ok (.fetch sql)
  | update q changes => (q.updateSql changes).map .execute
  | updateAll changes => ((QuerySet.all m).updateSql changes).map .execute
  | delete q => q.deleteSql.map .execute
  | deleteWhere fs => ((QuerySet.all m).filterAll fs).deleteSql.map .execute
  | updateRow x | updateInstance x => x.updateSql.map .execute
  | deleteRow x => x.deleteSql.map .execute
  | save x | create x => .ok (.insert (x.insertSql dialect))
  | createFromRecord r => (m.ofRecord r).map fun x => .insert (x.insertSql dialect)
  | createFromJson text => (m.ofJson text).map fun x => .insert (x.insertSql dialect)
  | getOrCreate x => .ok (lookFor x dialect)
  | getOrCreateFromRecord r => (m.ofRecord r).map fun x => lookFor x dialect
  | getOrCreateFromJson text => (m.ofJson text).map fun x => lookFor x dialect
  | updateFromJson text | updateFromJsonAsJson text =>
    (m.ofJson text).bind fun x => x.updateSql.map .execute

def isSingle : Operation m → Bool
  | getOrCreate _ | getOrCreateFromRecord _ | getOrCreateFromJson _ => false
  | _ => true

def noChanges : Error := .validation "UPDATE requires at least one value"

def noConditions (m : Model) : Error :=
  .validation ("refusing to DELETE every row of " ++ m.table ++ " without conditions")

def noId (m : Model) (verb : String) : Error :=
  .validation ("cannot " ++ verb ++ " " ++ m.name ++ " instance without an id (save it first)")

/-- The operation is given something it cannot be built from, which is the cause of the error. -/
def Unbuildable : Operation m → Error → Prop
  | update _ changes, e | updateAll changes, e => changes.isEmpty = true ∧ e = noChanges
  | delete q, e => q.conditions.isEmpty = true ∧ e = noConditions m
  | deleteWhere fs, e => fs = [] ∧ e = noConditions m
  | updateRow x, e | updateInstance x, e => x.id = none ∧ e = noId m "update"
  | deleteRow x, e => x.id = none ∧ e = noId m "delete"
  | createFromRecord r, e | getOrCreateFromRecord r, e => m.ofRecord r = .error e
  | createFromJson text, e | getOrCreateFromJson text, e => m.ofJson text = .error e
  | updateFromJson text, e | updateFromJsonAsJson text, e =>
    m.ofJson text = .error e ∨ ∃ x, m.ofJson text = .ok x ∧ x.id = none ∧ e = noId m "update"
  | _, _ => False

theorem updateSql_eq_error {q : QuerySet m} {changes : Record} {e : Error} :
    q.updateSql changes = .error e ↔ changes.isEmpty = true ∧ e = noChanges := by
  rw [QuerySet.updateSql, TableMapper.updateSql]
  exact guard_eq_error

theorem deleteSql_eq_error {q : QuerySet m} {e : Error} :
    q.deleteSql = .error e ↔ q.conditions.isEmpty = true ∧ e = noConditions m := by
  rw [QuerySet.deleteSql]
  exact guard_eq_error

theorem requireId_eq_error {x : Instance m} {verb : String} {e : Error} :
    x.requireId verb = .error e ↔ x.id = none ∧ e = noId m verb := by
  rw [Instance.requireId]
  cases hid : x.id with
  | some id => simp
  | none =>
    constructor
    · intro he
      cases he
      exact ⟨rfl, rfl⟩
    · rintro ⟨-, rfl⟩
      rfl

theorem updateRow_eq_error {x : Instance m} {e : Error} :
    x.updateSql = .error e ↔ x.id = none ∧ e = noId m "update" := by
  rw [Instance.updateSql, map_eq_error, requireId_eq_error]

theorem deleteRow_eq_error {x : Instance m} {e : Error} :
    x.deleteSql = .error e ↔ x.id = none ∧ e = noId m "delete" := by
  rw [Instance.deleteSql, map_eq_error, requireId_eq_error]

theorem conditions_filterAll_isEmpty {fs : List Filter} :
    ((QuerySet.all m).filterAll fs).conditions.isEmpty = true ↔ fs = [] :=
  (Conditions.Fed.collect fs).isEmpty_iff

theorem readAndUpdate_eq_error {text : String} {e : Error} :
    ((m.ofJson text).bind fun x => x.updateSql.map Call.execute) = .error e ↔
      m.ofJson text = .error e ∨ ∃ x, m.ofJson text = .ok x ∧ x.id = none ∧ e = noId m "update" := by
  cases hread : m.ofJson text with
  | error e' => simp [Except.bind]
  | ok x =>
    simp only [Except.bind, map_eq_error, updateRow_eq_error]
    constructor
    · rintro ⟨hid, rfl⟩
      exact .inr ⟨x, rfl, hid, rfl⟩
    · rintro (h | ⟨y, hy, hid, rfl⟩)
      · cases h
      · cases hy
        exact ⟨hid, rfl⟩

/-- Compilation fails exactly where it must, with the error that belongs there. -/
theorem opening_eq_error_iff (dialect : Dialect) (op : Operation m) (e : Error) :
    op.opening dialect = .error e ↔ op.Unbuildable e := by
  cases op with
  | update q changes | updateAll changes =>
    rw [opening, map_eq_error, updateSql_eq_error, Unbuildable]
  | delete q => rw [opening, map_eq_error, deleteSql_eq_error, Unbuildable]
  | deleteWhere fs =>
    rw [opening, map_eq_error, deleteSql_eq_error, conditions_filterAll_isEmpty, Unbuildable]
  | updateRow x | updateInstance x =>
    rw [opening, map_eq_error, updateRow_eq_error, Unbuildable]
  | deleteRow x => rw [opening, map_eq_error, deleteRow_eq_error, Unbuildable]
  | createFromRecord r | createFromJson text => rw [opening, map_eq_error, Unbuildable]
  | getOrCreateFromRecord r | getOrCreateFromJson text => rw [opening, map_eq_error, Unbuildable]
  | updateFromJson text | updateFromJsonAsJson text =>
    rw [opening, readAndUpdate_eq_error, Unbuildable]
  | _ => simp [opening, Unbuildable]

theorem given_of_error {α β : Type} {a : Except Error α} {g : α → Call} {f : α → Action β}
    {e : Error} (h : a.map g = .error e) : Action.given a f = Action.fail e := by
  rw [map_eq_error.1 h]
  rfl

theorem updateFromJson_of_error {text : String} {e : Error}
    (h : ((m.ofJson text).bind fun x => x.updateSql.map Call.execute) = .error e) :
    m.updateFromJson text = Action.fail e := by
  rw [Model.updateFromJson]
  cases hread : m.ofJson text with
  | error e' =>
    rw [hread] at h
    cases h
    rfl
  | ok x =>
    rw [hread] at h
    have hupdate : x.update = Action.fail e := given_of_error h
    simp only [Action.given, hupdate]
    rfl

theorem action_of_opening_error {dialect : Dialect} {op : Operation m} {e : Error}
    (h : op.opening dialect = .error e) : op.action dialect = Action.fail e := by
  cases op with
  | update q changes | updateAll changes => exact given_of_error h
  | delete q | deleteWhere fs => exact given_of_error h
  | updateRow x | updateInstance x | deleteRow x => exact given_of_error h
  | createFromRecord r | createFromJson text => exact given_of_error h
  | getOrCreateFromRecord r | getOrCreateFromJson text => exact given_of_error h
  | updateFromJson text => exact updateFromJson_of_error h
  | updateFromJsonAsJson text =>
    rw [action, Model.updateFromJsonAsJson, updateFromJson_of_error h]
    rfl
  | _ => cases h

section Single

variable {b : Backend σ} {call : Call}

theorem sends_compiled {compiled : Except Error String} (h : compiled.map Call.execute = .ok call) :
    Action.Sends b call (.given compiled fun sql => .execute sql .done) := by
  obtain ⟨sql, rfl, rfl⟩ := map_eq_ok.1 h
  exact Action.sends_execute sql

theorem sends_save (x : Instance m) :
    Action.Sends b (.insert (x.insertSql b.dialect)) (x.save b.dialect) := by
  intro s
  rw [Instance.save]
  constructor
  · rw [Dialogue.calls]
    cases (b.insert (x.insertSql b.dialect) s).answer <;> rfl
  · intro e he
    rw [Dialogue.run, (Call.failure?_insert b).1 he]
    rfl

theorem sends_created {read : Except Error (Instance m)}
    (h : (read.map fun x => Call.insert (x.insertSql b.dialect)) = .ok call) :
    Action.Sends b call (.given read fun x => Model.create x b.dialect) := by
  obtain ⟨x, rfl, rfl⟩ := map_eq_ok.1 h
  exact sends_save x

theorem sends_get (q : QuerySet m) :
    Action.Sends b (.fetch (q.sql b.dialect)) (q.get b.dialect) := by
  apply (Action.sends_fetch _ m.ofRows).followedBy
  intro xs s
  rcases xs with _ | ⟨x, _ | ⟨y, ys⟩⟩ <;> rfl

theorem sends_updateFromJson {text : String}
    (h : ((m.ofJson text).bind fun x => x.updateSql.map Call.execute) = .ok call) :
    Action.Sends b call (m.updateFromJson text) := by
  rw [Model.updateFromJson]
  cases hread : m.ofJson text with
  | error e =>
    rw [hread] at h
    cases h
  | ok x =>
    rw [hread] at h
    have hupdate : Action.Sends b call x.update := sends_compiled h
    exact hupdate.map _

/-- An operation that is built makes the call of its compiled statement and no other. -/
theorem sends_of_opening_ok {op : Operation m} (h : op.opening b.dialect = .ok call)
    (hs : op.isSingle = true) : Action.Sends b call (op.action b.dialect) := by
  cases op with
  | update q changes | updateAll changes => exact sends_compiled h
  | delete q | deleteWhere fs => exact sends_compiled h
  | updateRow x | updateInstance x | deleteRow x => exact sends_compiled h
  | createFromRecord r | createFromJson text => exact sends_created h
  | updateFromJson text => exact sends_updateFromJson h
  | updateFromJsonAsJson text => exact (sends_updateFromJson h).map _
  | getOrCreate x | getOrCreateFromRecord r | getOrCreateFromJson text => cases hs
  | fetch q => cases h; exact Action.sends_fetch _ m.ofRows
  | executeQuery sql => cases h; exact Action.sends_fetch _ m.ofRows
  | size q => cases h; exact (Action.sends_fetch _ m.ofRows).map _
  | json q => cases h; exact (Action.sends_fetch _ m.ofRows).map _
  | count q | countAll => cases h; exact Action.sends_fetch _ scalarOf
  | get q => cases h; exact sends_get q
  | getWhere fs => cases h; exact sends_get _
  | getJson q => cases h; exact (sends_get q).map _
  | getJsonWhere fs => cases h; exact (sends_get _).map _
  | save x | create x => cases h; exact sends_save x

end Single

/-- An operation that cannot be built returns the error for it and leaves the backend as it was:
nothing is sent, answered or logged. Any other operation, unless it looks for a record before it
creates one, sends exactly the one statement that it compiles to in the dialect of the backend,
whatever the answer is, and an error of the backend is returned unchanged. -/
theorem built_or_untouched (op : Operation m) (b : Backend σ) (s : σ) :
    (∀ e, op.Unbuildable e →
      (op.action b.dialect).run b s = ⟨.error e, s, []⟩ ∧ (op.action b.dialect).calls b s = []) ∧
    ((∀ e, ¬op.Unbuildable e) → op.isSingle = true →
      ∃ call, op.opening b.dialect = .ok call ∧ (op.action b.dialect).calls b s = [call] ∧
        ∀ e, call.failure? b s = some e → ((op.action b.dialect).run b s).answer = .error e) := by
  constructor
  · intro e he
    rw [action_of_opening_error ((opening_eq_error_iff b.dialect op e).2 he)]
    exact ⟨rfl, rfl⟩
  · intro hbuilt hs
    cases ho : op.opening b.dialect with
    | error e => exact absurd ((opening_eq_error_iff b.dialect op e).1 ho) (hbuilt e)
    | ok call =>
      obtain ⟨hcalls, hfailure⟩ := sends_of_opening_ok ho hs s
      exact ⟨call, rfl, hcalls, hfailure⟩

theorem built_or_untouched_measurements :
    let b := Script.backend .postgres
    let s : Script := ⟨[.fail "down"], 1⟩
    let refused : Operation measurementModel := .deleteWhere []
    let built : Operation measurementModel := .countAll
    refused.Unbuildable (noConditions measurementModel) ∧
      (refused.action b.dialect).run b s = ⟨.error (noConditions measurementModel), s, []⟩ ∧
      (∀ e, ¬built.Unbuildable e) ∧
      (built.action b.dialect).calls b s = [.fetch
        "SELECT COUNT(*) FROM (SELECT id, level, note, taken FROM measurement) AS counted"] ∧
      ((built.action b.dialect).run b s).answer = .error (.other "down") := by
  intro b s refused built
  have hrefused : refused.Unbuildable (noConditions measurementModel) := ⟨rfl, rfl⟩
  have hbuilt : ∀ e, ¬built.Unbuildable e := fun _ h => h
  obtain ⟨hrun, -⟩ := (built_or_untouched refused b s).1 _ hrefused
  obtain ⟨call, hopening, hcalls, hfailure⟩ := (built_or_untouched built b s).2 hbuilt rfl
  cases hopening
  have hsql : countSql ((QuerySet.all measurementModel).sql .postgres) =
      "SELECT COUNT(*) FROM (SELECT id, level, note, taken FROM measurement) AS counted" := by
    decide +kernel
  exact ⟨hrefused, hrun, hbuilt, hsql ▸ hcalls, hfailure _ rfl⟩

end Operation

end TableMapper
