import TableMapper.Database
import TableMapper.Proofs.Query.Session

/-!
# What a database logs of its statements

A program may hand a database any statements and operations, one after another. Each statement is
logged once, whatever becomes of it, or none is. How they are logged changes nothing else: not what
is sent, not the answers, not what else is logged.
-/

namespace TableMapper

/-- The event is about a statement. Others under the same target are about the connection. -/
def Event.isStatement (e : Event) : Bool :=
  e.target == sqlTarget && e.fields.any (·.1 == "query_type")

theorem Event.isStatement_of_target {e : Event} (h : e.target ≠ sqlTarget) :
    e.isStatement = false := by
  simp [isStatement, h]

namespace Occurrence

def statement? : Occurrence → Option Event
  | logged e => if e.isStatement then some e else none
  | sent _ => none

def sent? : Occurrence → Option String
  | sent sql => some sql
  | logged _ => none

end Occurrence

namespace Database

open Postgres (Client Decoder ServerReply)
open Postgres.Client (holdsNul)

def statements (trace : List Occurrence) : List Event := trace.filterMap Occurrence.statement?

def sent (trace : List Occurrence) : List String := trace.filterMap Occurrence.sent?

def unlogged (trace : List Occurrence) : List Occurrence := trace.filter (·.statement?.isNone)

theorem statements_append (first second : List Occurrence) :
    statements (first ++ second) = statements first ++ statements second :=
  List.filterMap_append

theorem sent_append (first second : List Occurrence) :
    sent (first ++ second) = sent first ++ sent second :=
  List.filterMap_append

theorem unlogged_append (first second : List Occurrence) :
    unlogged (first ++ second) = unlogged first ++ unlogged second :=
  List.filter_append ..

theorem sent_unlogged (trace : List Occurrence) : sent (unlogged trace) = sent trace := by
  rw [sent, unlogged, List.filterMap_filter]
  apply List.filterMap_congr
  intro x _
  cases x with
  | sent sql => rfl
  | logged e => simp [Occurrence.sent?]

/-- How a statement is logged: at the level of the configuration, with its kind, which is told from
the full text, and the text as it is shown. -/
def statementEvent (config : Config) (sql : String) : Event :=
  ⟨config.logLevel, "minorm.sql",
    [("query_type", (StatementKind.ofSql sql).name),
      ("sql", (StatementLogger.mk config.logLevel config.maxSqlLength).shown sql)]⟩

theorem statementTrace_eq (config : Config) (sql : String) :
    statementTrace config sql =
      if config.logSql then [.logged (statementEvent config sql)] else [] := by
  rw [statementTrace, Config.logger?]
  cases config.logSql <;> rfl

theorem statements_statementTrace (config : Config) (sql : String) :
    statements (statementTrace config sql) =
      if config.logSql then [statementEvent config sql] else [] := by
  rw [statementTrace_eq]
  cases config.logSql <;> rfl

theorem sent_statementTrace (config : Config) (sql : String) :
    sent (statementTrace config sql) = [] := by
  rw [statementTrace_eq]
  cases config.logSql <;> rfl

theorem unlogged_statementTrace (config : Config) (sql : String) :
    unlogged (statementTrace config sql) = [] := by
  rw [statementTrace_eq]
  cases config.logSql <;> rfl

theorem lossTrace_cases (before after : Client) :
    lossTrace before after = [] ∨ lossTrace before after = [.logged connectionErrorEvent] := by
  rw [lossTrace]
  split
  · exact .inr rfl
  · exact .inl rfl

theorem statements_lossTrace (before after : Client) :
    statements (lossTrace before after) = [] := by
  rcases lossTrace_cases before after with h | h <;> rw [h] <;> rfl

theorem sent_lossTrace (before after : Client) : sent (lossTrace before after) = [] := by
  rcases lossTrace_cases before after with h | h <;> rw [h] <;> rfl

theorem trace_send (sql : String) (c : Client) :
    (c.send sql).trace = if holdsNul sql || c.closed then [] else [.sent sql] := by
  rw [Client.send]
  cases holdsNul sql with
  | true => rfl
  | false =>
    cases c.closed with
    | true => rfl
    | false =>
      cases hfailure : (c.replies.head?.getD {}).failure with
      | none => simp [hfailure]
      | some failure => cases failure <;> simp [hfailure]

theorem closed_send {sql : String} {c : Client} (h : c.closed = true) :
    (c.send sql).state.closed = true := by
  rw [Client.send, h]
  cases holdsNul sql <;> exact h

theorem statements_send (sql : String) (c : Client) : statements (c.send sql).trace = [] := by
  rw [trace_send]
  split <;> rfl

theorem sent_send (sql : String) (c : Client) :
    sent (c.send sql).trace = if holdsNul sql || c.closed then [] else [sql] := by
  rw [trace_send]
  split <;> rfl

section Runs

variable {α β : Type} {config : Config} {c : Client}

/-- What is recorded of the statements handed to the database. Until the connection is lost they are
sent, unless they cannot be encoded, and from then on none is. -/
structure Recorded (config : Config) (handed : List String) (c : Client) (o : Outcome Client α) :
    Prop where
  logged : statements o.trace = if config.logSql then handed.map (statementEvent config) else []
  lost : c.closed = true → o.state.closed = true ∧ sent o.trace = []
  reached : ∃ front back, handed = front ++ back ∧
    sent o.trace = (front.filter fun sql => !holdsNul sql) ∧ (back = [] ∨ o.state.closed = true)

theorem Recorded.nothing (a : α) (c : Client) : Recorded config [] c ⟨a, c, []⟩ where
  logged := by cases config.logSql <;> rfl
  lost hc := ⟨hc, rfl⟩
  reached := ⟨[], [], rfl, rfl, .inl rfl⟩

theorem Recorded.event {e : Event} (h : e.isStatement = false) (c : Client) :
    Recorded config [] c (⟨(), c, [.logged e]⟩ : Outcome Client Unit) where
  logged := by
    have hnone : statements [.logged e] = [] := by simp [statements, Occurrence.statement?, h]
    rw [hnone]
    cases config.logSql <;> rfl
  lost hc := ⟨hc, rfl⟩
  reached := ⟨[], [], rfl, rfl, .inl rfl⟩

theorem Recorded.after {handed handed' : List String} {o : Outcome Client α}
    {o' : Outcome Client β} (h : Recorded config handed c o)
    (h' : Recorded config handed' o.state o') :
    Recorded config (handed ++ handed') c (o'.after o.trace) where
  logged := by
    rw [Outcome.after, statements_append, h.logged, h'.logged, List.map_append]
    cases config.logSql <;> rfl
  lost hc := by
    obtain ⟨hclosed, hsent⟩ := h.lost hc
    obtain ⟨hclosed', hsent'⟩ := h'.lost hclosed
    refine ⟨hclosed', ?_⟩
    rw [Outcome.after, sent_append, hsent, hsent', List.append_nil]
  reached := by
    obtain ⟨front, back, rfl, hsent, hback⟩ := h.reached
    obtain ⟨front', back', rfl, hsent', hback'⟩ := h'.reached
    rcases hback with rfl | hclosed
    · refine ⟨front ++ front', back', by simp, ?_, hback'⟩
      rw [Outcome.after, sent_append, hsent, hsent', List.filter_append]
    · obtain ⟨hclosed', hnone⟩ := h'.lost hclosed
      refine ⟨front, back ++ (front' ++ back'), by simp, ?_, .inr hclosed'⟩
      rw [Outcome.after, sent_append, hsent, hnone, List.append_nil]

theorem recorded_logged (interpret : ServerReply → Except Error α) (sql : String) (c : Client) :
    Recorded config [sql] c (logged config (Client.ask interpret) sql c) := by
  have hsent : sent (logged config (Client.ask interpret) sql c).trace =
      if holdsNul sql || c.closed then [] else [sql] := by
    simp only [Database.logged, Client.ask, sent_append, sent_statementTrace, sent_lossTrace,
      sent_send, List.nil_append, List.append_nil]
  constructor
  case logged =>
    simp only [Database.logged, Client.ask, statements_append, statements_statementTrace,
      statements_send, statements_lossTrace, List.append_nil, List.map_cons, List.map_nil]
  case lost =>
    intro hc
    refine ⟨closed_send hc, ?_⟩
    rw [hsent, hc, Bool.or_true, if_pos rfl]
  case reached =>
    cases hc : c.closed with
    | true =>
      refine ⟨[], [sql], rfl, ?_, .inr (closed_send hc)⟩
      rw [hsent, hc, Bool.or_true, if_pos rfl, List.filter_nil]
    | false =>
      refine ⟨[sql], [], rfl, ?_, .inl rfl⟩
      rw [hsent, hc]
      cases hnul : holdsNul sql <;> simp [hnul]

/-- What a dialogue logs by itself is not about statements. -/
def Quiet : Dialogue α → Prop
  | .done _ => True
  | .fetch _ next => ∀ answer, Quiet (next answer)
  | .execute _ next => ∀ answer, Quiet (next answer)
  | .insert _ next => ∀ answer, Quiet (next answer)
  | .emit event rest => event.isStatement = false ∧ Quiet rest

/-- The client may be in any state when a statement comes, since those before it may have failed or
lost the connection. -/
theorem recorded_run {decoder : Decoder} {d : Dialogue α} (hd : Quiet d) (c : Client) :
    Recorded config ((d.calls (backend decoder config) c).map Call.sql) c
      (d.run (backend decoder config) c) := by
  -- The client is left open, since the statements before may have failed or lost the connection.
  induction d generalizing c with
  | done a => exact .nothing a c
  | fetch sql next ih => exact (recorded_logged _ sql c).after (ih _ (hd _) _)
  | execute sql next ih => exact (recorded_logged _ sql c).after (ih _ (hd _) _)
  | insert sql next ih => exact (recorded_logged _ sql c).after (ih _ (hd _) _)
  | emit event rest ih => exact (Recorded.event hd.1 c).after (ih hd.2 c)

/-- Two outcomes that differ in the logging of statements only. -/
structure Alike (o o' : Outcome Client α) : Prop where
  answer : o.answer = o'.answer
  state : o.state = o'.state
  unlogged : unlogged o.trace = unlogged o'.trace

theorem Alike.after {o o' : Outcome Client α} (h : Alike o o') {first first' : List Occurrence}
    (hfirst : Database.unlogged first = Database.unlogged first') :
    Alike (o.after first) (o'.after first') where
  answer := h.answer
  state := h.state
  unlogged := by
    rw [Outcome.after, Outcome.after, unlogged_append, unlogged_append, hfirst, h.unlogged]

theorem Alike.sent {o o' : Outcome Client α} (h : Alike o o') : sent o.trace = sent o'.trace := by
  rw [← sent_unlogged o.trace, h.unlogged, sent_unlogged]

theorem unlogged_logged (config config' : Config) (call : String → Client → Outcome Client α)
    (sql : String) (c : Client) :
    unlogged (logged config call sql c).trace = unlogged (logged config' call sql c).trace := by
  simp only [logged, unlogged_append, unlogged_statementTrace]

theorem alike_run (decoder : Decoder) (config config' : Config) (d : Dialogue α) (c : Client) :
    Alike (d.run (backend decoder config) c) (d.run (backend decoder config') c) := by
  induction d generalizing c with
  | done a => exact ⟨rfl, rfl, rfl⟩
  | fetch sql next ih => exact (ih _ _).after (unlogged_logged config config' _ sql c)
  | execute sql next ih => exact (ih _ _).after (unlogged_logged config config' _ sql c)
  | insert sql next ih => exact (ih _ _).after (unlogged_logged config config' _ sql c)
  | emit event rest ih => exact (ih c).after rfl

/-- The same statements are handed over, since the answers to those before are the same. -/
theorem calls_backend (decoder : Decoder) (config config' : Config) (d : Dialogue α) (c : Client) :
    d.calls (backend decoder config) c = d.calls (backend decoder config') c := by
  induction d generalizing c with
  | done a => rfl
  | fetch sql next ih => exact congrArg (Call.fetch sql :: ·) (ih _ _)
  | execute sql next ih => exact congrArg (Call.execute sql :: ·) (ih _ _)
  | insert sql next ih => exact congrArg (Call.insert sql :: ·) (ih _ _)
  | emit event rest ih => exact ih c

end Runs

section Quiet

variable {α β : Type} {m : Model}

theorem Quiet.andThen {d : Dialogue α} {f : α → Dialogue β} (hd : Quiet d) (hf : ∀ a, Quiet (f a)) :
    Quiet (d.andThen f) := by
  induction d with
  | done a => exact hf a
  | fetch sql next ih => exact fun answer => ih answer (hd answer)
  | execute sql next ih => exact fun answer => ih answer (hd answer)
  | insert sql next ih => exact fun answer => ih answer (hd answer)
  | emit event rest ih => exact ⟨hd.1, ih hd.2⟩

theorem Quiet.map {d : Action α} (f : α → β) (hd : Quiet d) : Quiet (d.map f) :=
  hd.andThen fun _ => trivial

theorem Quiet.followedBy {d : Action α} {f : α → Action β} (hd : Quiet d)
    (hf : ∀ a, Quiet (f a)) : Quiet (d.followedBy f) := by
  apply hd.andThen
  intro answer
  cases answer with
  | ok a => exact hf a
  | error e => trivial

theorem quiet_given (a : Except Error α) {f : α → Action β} (hf : ∀ a, Quiet (f a)) :
    Quiet (Action.given a f) := by
  cases a with
  | ok a => exact hf a
  | error e => trivial

theorem modelTarget_ne : modelTarget ≠ sqlTarget := by decide

theorem queryTarget_ne : queryTarget ≠ sqlTarget := by decide

theorem quiet_save (x : Instance m) (dialect : Dialect) : Quiet (x.save dialect) := by
  intro answer
  cases answer with
  | ok id => exact ⟨Event.isStatement_of_target modelTarget_ne, trivial⟩
  | error e => trivial

theorem quiet_update (x : Instance m) : Quiet x.update := quiet_given _ fun _ _ => trivial

theorem quiet_fetch (q : QuerySet m) (dialect : Dialect) : Quiet (q.fetch dialect) :=
  fun _ => trivial

theorem quiet_get (q : QuerySet m) (dialect : Dialect) : Quiet (q.get dialect) := by
  apply (quiet_fetch q dialect).followedBy
  intro xs
  rcases xs with _ | ⟨x, _ | ⟨y, ys⟩⟩
  · trivial
  · trivial
  · exact ⟨Event.isStatement_of_target queryTarget_ne, trivial⟩

theorem quiet_createMissing (x : Instance m) (dialect : Dialect) :
    Quiet (Model.createMissing x dialect) :=
  ⟨Event.isStatement_of_target queryTarget_ne, quiet_save x dialect⟩

theorem quiet_getOrCreate (x : Instance m) (dialect : Dialect) :
    Quiet (Model.getOrCreate x dialect) := by
  rw [Model.getOrCreate]
  cases x.id with
  | none => exact quiet_createMissing x dialect
  | some id =>
    apply (quiet_fetch _ dialect).followedBy
    intro found
    cases found with
    | nil => exact quiet_createMissing x dialect
    | cons y ys => exact ⟨Event.isStatement_of_target queryTarget_ne, trivial⟩

theorem quiet_updateFromJson (m : Model) (text : String) : Quiet (m.updateFromJson text) :=
  quiet_given _ fun x => (quiet_update x).map _

theorem quiet_action (op : Operation m) (dialect : Dialect) : Quiet (op.action dialect) := by
  cases op with
  | fetch q => exact quiet_fetch q dialect
  | size q => exact (quiet_fetch q dialect).map _
  | count q | countAll => exact fun _ => trivial
  | get q => exact quiet_get q dialect
  | getJson q => exact (quiet_get q dialect).map _
  | json q => exact (quiet_fetch q dialect).map _
  | update q changes | updateAll changes => exact quiet_given _ fun _ _ => trivial
  | delete q | deleteWhere fs | deleteRow x => exact quiet_given _ fun _ _ => trivial
  | save x | create x => exact quiet_save x dialect
  | updateRow x | updateInstance x => exact quiet_update x
  | getWhere fs => exact quiet_get _ dialect
  | getJsonWhere fs => exact (quiet_get _ dialect).map _
  | createFromRecord r | createFromJson text =>
    exact quiet_given _ fun x => quiet_save x dialect
  | getOrCreate x => exact quiet_getOrCreate x dialect
  | getOrCreateFromRecord r | getOrCreateFromJson text =>
    exact quiet_given _ fun x => quiet_getOrCreate x dialect
  | updateFromJson text => exact quiet_updateFromJson m text
  | updateFromJsonAsJson text => exact (quiet_updateFromJson m text).map _
  | executeQuery sql => exact fun _ => trivial

end Quiet

/-- What a database is asked for: to run a statement of the caller's own, or an operation. -/
inductive Job
  | fetch (sql : String)
  | execute (sql : String)
  | insert (sql : String)
  | scalar (sql : String)
  | operation (r : Request)

namespace Job

abbrev Answer : Job → Type
  | fetch _ => List Row
  | execute _ => UInt64
  | insert _ | scalar _ => Int64
  | operation r => r.op.Answer

def action (dialect : Dialect) : (j : Job) → Action j.Answer
  | fetch sql => .fetch sql .done
  | execute sql => .execute sql .done
  | insert sql => .insert sql .done
  | scalar sql => fetchScalar sql
  | operation r => r.op.action dialect

theorem quiet (j : Job) (dialect : Dialect) : Quiet (j.action dialect) := by
  cases j with
  | fetch sql => exact fun _ => trivial
  | execute sql => exact fun _ => trivial
  | insert sql => exact fun _ => trivial
  | scalar sql => exact fun _ => trivial
  | operation r => exact quiet_action r.op dialect

end Job

/-- Jobs one after another, each chosen by the answers to those before it. -/
inductive Program
  | stop
  | ask (j : Job) (rest : Except Error j.Answer → Program)

namespace Program

abbrev Report := (j : Job) × Except Error j.Answer

/-- The dialogue of a whole program. It ends with the report of every job. -/
def dialogue (dialect : Dialect) : Program → Dialogue (List Report)
  | stop => .done []
  | ask j rest => (j.action dialect).andThen fun answer =>
    ((rest answer).dialogue dialect).andThen fun reports => .done (⟨j, answer⟩ :: reports)

theorem quiet (p : Program) (dialect : Dialect) : Quiet (p.dialogue dialect) := by
  induction p with
  | stop => trivial
  | ask j rest ih =>
    apply (j.quiet dialect).andThen
    exact fun answer => (ih answer).andThen fun _ => trivial

variable (p : Program) (decoder : Decoder) (config : Config)

/-- Runs the program on a new connection to a server that has the replies. -/
def serve (refuses : Bool) (replies : List ServerReply) :
    Except Error (Outcome Client (List Report)) :=
  (connect refuses replies).map fun o =>
    ((p.dialogue (backend decoder config).dialect).run (backend decoder config) o.state).after o.trace

@[simp] theorem serve_refused (replies : List ServerReply) :
    p.serve decoder config true replies = .error (.connection Client.serverError) := rfl

def handed (replies : List ServerReply) : List String :=
  ((p.dialogue (backend decoder config).dialect).calls (backend decoder config) { replies }).map
    Call.sql

/-- All statements that are handed to a database are logged, in order and one event each, or none is.
Those that can be encoded are sent until the connection is lost. With any other configuration the
same statements are handed over and sent, with the same answers, and whatever else is logged is the
same. -/
theorem logged_without_interference (replies : List ServerReply) :
    ∃ o, p.serve decoder config false replies = .ok o ∧
      statements o.trace =
        (if config.logSql then (p.handed decoder config replies).map (statementEvent config)
          else []) ∧
      (∃ front back, p.handed decoder config replies = front ++ back ∧
        sent o.trace = (front.filter fun sql => !holdsNul sql) ∧
        (back = [] ∨ o.state.closed = true)) ∧
      ∀ config', p.handed decoder config' replies = p.handed decoder config replies ∧
        ∃ o', p.serve decoder config' false replies = .ok o' ∧ o'.answer = o.answer ∧
          o'.state = o.state ∧ sent o'.trace = sent o.trace ∧
          unlogged o'.trace = unlogged o.trace := by
  have hconnected : connectedEvent.isStatement = false := by decide
  have hrecorded : Recorded config (p.handed decoder config replies) { replies }
      (((p.dialogue .postgres).run (backend decoder config) { replies }).after
        [.logged connectedEvent]) :=
    (Recorded.event hconnected { replies }).after (recorded_run (p.quiet .postgres) { replies })
  refine ⟨_, rfl, hrecorded.logged, hrecorded.reached, fun config' => ?_⟩
  have halike : Alike
      (((p.dialogue .postgres).run (backend decoder config') { replies }).after
        [.logged connectedEvent])
      (((p.dialogue .postgres).run (backend decoder config) { replies }).after
        [.logged connectedEvent]) :=
    (alike_run decoder config' config (p.dialogue .postgres) { replies }).after rfl
  have hhanded : p.handed decoder config' replies = p.handed decoder config replies :=
    congrArg (List.map Call.sql) (calls_backend decoder config' config _ _)
  exact ⟨hhanded, _, rfl, halike.answer, halike.state, halike.sent, halike.unlogged⟩

/-- The server rejects a count and hangs up on a change, and the last statement never reaches it.
All three are logged, cut to six bytes, and none of them where logging is off. -/
theorem logged_without_interference_failures :
    let loud : Config := ⟨"postgres://localhost", true, .warn, some 6⟩
    let silent : Config := ⟨"postgres://localhost", false, .warn, some 6⟩
    let replies : List ServerReply := [{ failure := some .rejected }, { failure := some .hangUp }]
    let p : Program := .ask (.operation ⟨measurementModel, .countAll⟩) fun
      | .ok _ => .stop
      | .error _ => .ask (.execute "(delete FROM measurement)") fun _ =>
        .ask (.insert "é") fun _ => .stop
    ∃ o o', p.serve .binary loud false replies = .ok o ∧
      p.serve .binary silent false replies = .ok o' ∧
      statements o.trace =
        [⟨.warn, "minorm.sql", [("query_type", "SELECT"), ("sql", "SELECT...")]⟩,
          ⟨.warn, "minorm.sql", [("query_type", "DELETE"), ("sql", "(delet...")]⟩,
          ⟨.warn, "minorm.sql", [("query_type", "OTHER"), ("sql", "é")]⟩] ∧
      statements o'.trace = [] ∧ o'.answer = o.answer ∧ sent o'.trace = sent o.trace := by
  intro loud silent replies p
  have hhanded : p.handed .binary loud replies =
      ["SELECT COUNT(*) FROM (SELECT id, level, note, taken FROM measurement) AS counted",
        "(delete FROM measurement)", "é"] := by
    decide +kernel
  obtain ⟨o, ho, hlogged, -, hany⟩ := p.logged_without_interference .binary loud replies
  obtain ⟨-, o', ho', hanswer, -, hsent, -⟩ := hany silent
  obtain ⟨own, hown, hsilent, -⟩ := p.logged_without_interference .binary silent replies
  cases ho'.symm.trans hown
  refine ⟨o, o', ho, ho', ?_, hsilent, hanswer, hsent⟩
  rw [hlogged, hhanded]
  decide +kernel

end Program

end Database

end TableMapper
