import TableMapper.Error
import TableMapper.Logging
import TableMapper.Sql.Clause
import TableMapper.Value

/-!
# Dialogues with a backend

An operation on the database is a dialogue: it sends statements one after another, and what it does
next may depend on the answers. A backend answers statements and changes its state; running a
dialogue gives its result, the state in the end, and all that happened on the way.

A script is a backend that answers from a list of prepared replies. When none is left it finds no
rows, changes none, and gives new records the keys 1, 2, 3 and so on.
-/

namespace TableMapper

inductive Dialogue (α : Type)
  | done (a : α)
  | fetch (sql : String) (next : Except Error (List Row) → Dialogue α)
  | execute (sql : String) (next : Except Error UInt64 → Dialogue α)
  | insert (sql : String) (next : Except Error Int64 → Dialogue α)
  | emit (event : Event) (rest : Dialogue α)

/-- A dialogue that may fail. -/
abbrev Action (α : Type) := Dialogue (Except Error α)

def Dialogue.andThen {α β : Type} (d : Dialogue α) (f : α → Dialogue β) : Dialogue β :=
  match d with
  | done a => f a
  | fetch sql next => fetch sql fun answer => (next answer).andThen f
  | execute sql next => execute sql fun answer => (next answer).andThen f
  | insert sql next => insert sql fun answer => (next answer).andThen f
  | emit event rest => emit event (rest.andThen f)

namespace Action

variable {α β : Type}

def fail (e : Error) : Action α := .done (.error e)

/-- Continues after success; a failure ends the dialogue. -/
def followedBy (d : Action α) (f : α → Action β) : Action β :=
  d.andThen fun
    | .ok a => f a
    | .error e => fail e

def map (f : α → β) (d : Action α) : Action β := d.andThen fun a => .done (Except.map f a)

/-- Goes on with a value that had to be computed first, or fails before anything is sent. -/
def given (a : Except Error α) (f : α → Action β) : Action β :=
  match a with
  | .ok a => f a
  | .error e => fail e

end Action

def scalarOf (rows : List Row) : Except Error Int64 :=
  match rows.head?.bind fun row => row.head?.bind Value.asInt? with
  | some n => .ok n
  | none => .error (.notFound "Expected a scalar result, got none")

def fetchScalar (sql : String) : Action Int64 :=
  .fetch sql fun answer => .done (answer.bind scalarOf)

inductive Occurrence
  | sent (sql : String)
  | logged (event : Event)
  deriving DecidableEq, Repr

structure Outcome (σ α : Type) where
  answer : α
  state : σ
  trace : List Occurrence

structure Backend (σ : Type) where
  dialect : Dialect
  fetch : String → σ → Outcome σ (Except Error (List Row))
  execute : String → σ → Outcome σ (Except Error UInt64)
  insert : String → σ → Outcome σ (Except Error Int64)

/-- The same outcome with more that happened before. -/
def Outcome.after {σ α : Type} (trace : List Occurrence) (o : Outcome σ α) : Outcome σ α :=
  { o with trace := trace ++ o.trace }

def Dialogue.run {σ α : Type} (b : Backend σ) (d : Dialogue α) (s : σ) : Outcome σ α :=
  match d with
  | done a => ⟨a, s, []⟩
  | fetch sql next =>
    let o := b.fetch sql s
    ((next o.answer).run b o.state).after o.trace
  | execute sql next =>
    let o := b.execute sql s
    ((next o.answer).run b o.state).after o.trace
  | insert sql next =>
    let o := b.insert sql s
    ((next o.answer).run b o.state).after o.trace
  | emit event rest => (rest.run b s).after [.logged event]

inductive Reply
  | rows (rows : List Row)
  | affected (n : UInt64)
  | inserted (id : Int64)
  | fail (message : String)

structure Script where
  replies : List Reply := []
  nextId : Int64 := 1

namespace Script

def unfit (call : String) : Error := .other ("scripted reply does not answer " ++ call)

def fetch (sql : String) (s : Script) : Outcome Script (Except Error (List Row)) :=
  match s.replies with
  | [] => ⟨.ok [], s, [.sent sql]⟩
  | reply :: replies =>
    let answer := match reply with
      | .rows rows => .ok rows
      | .fail message => .error (.other message)
      | _ => .error (unfit "fetch")
    ⟨answer, { s with replies }, [.sent sql]⟩

def execute (sql : String) (s : Script) : Outcome Script (Except Error UInt64) :=
  match s.replies with
  | [] => ⟨.ok 0, s, [.sent sql]⟩
  | reply :: replies =>
    let answer := match reply with
      | .affected n => .ok n
      | .fail message => .error (.other message)
      | _ => .error (unfit "execute")
    ⟨answer, { s with replies }, [.sent sql]⟩

def insert (sql : String) (s : Script) : Outcome Script (Except Error Int64) :=
  match s.replies with
  | [] => ⟨.ok s.nextId, { s with nextId := s.nextId + 1 }, [.sent sql]⟩
  | reply :: replies =>
    let answer := match reply with
      | .inserted id => .ok id
      | .fail message => .error (.other message)
      | _ => .error (unfit "insert")
    ⟨answer, { s with replies }, [.sent sql]⟩

def backend (dialect : Dialect) : Backend Script := ⟨dialect, fetch, execute, insert⟩

end Script

end TableMapper
