import TableMapper.Backend
import TableMapper.Postgres.Cell

/-!
# A client of a scripted PostgreSQL server

The server answers each statement with columns, rows of cells and a tag, or fails. A server that
hangs up ends the connection, and no later statement reaches it. The texts of a message end in a NUL,
so a statement that holds one is not sent, and a tag that holds one cannot be read.
-/

namespace TableMapper.Postgres

inductive Failure
  | rejected
  | hangUp
  deriving DecidableEq, Repr

structure ServerReply where
  columns : List Column := []
  rows : List (List Cell) := []
  tag : String := "SELECT 0"
  failure : Option Failure := none

/-- An open or closed connection, and what the server will answer. -/
structure Client where
  replies : List ServerReply := []
  closed : Bool := false

namespace Client

def serverError : String := "db error"

def closedError : Error := .query "connection closed"

def encodingError : Error := .query "error encoding message to server"

def parsingError : Error := .query "error parsing response from server"

def holdsNul (s : String) : Bool := s.toList.contains '\x00'

def connect (refuses : Bool) (replies : List ServerReply) : Except Error Client :=
  if refuses then .error (.query serverError) else .ok { replies }

def send (sql : String) (c : Client) : Outcome Client (Except Error ServerReply) :=
  if holdsNul sql then ⟨.error encodingError, c, []⟩
  else if c.closed then ⟨.error closedError, c, []⟩
  else
    let reply := c.replies.head?.getD {}
    let replies := c.replies.tail
    match reply.failure with
    | none =>
      let answer := if holdsNul reply.tag then .error parsingError else .ok reply
      ⟨answer, { c with replies }, [.sent sql]⟩
    | some .rejected => ⟨.error (.query serverError), { c with replies }, [.sent sql]⟩
    | some .hangUp => ⟨.error closedError, { replies, closed := true }, [.sent sql]⟩

/-- The number of affected rows: the last word of the tag, if it is a number of 64 bits. -/
def affected (tag : String) : UInt64 :=
  let word := (tag.toList.reverse.takeWhile (· ≠ ' ')).reverse
  let number? := Decimal.digitRun? (if word.head? = some '+' then word.tail else word)
  match number? with
  | some n => if n < UInt64.size then UInt64.ofNat n else 0
  | none => 0

/-- The cells of all rows, of which each must have as many as there are columns. -/
def cellsOf (r : ServerReply) : Except Error (List (List Cell)) :=
  if r.rows.all (·.length == r.columns.length) then .ok r.rows else .error parsingError

def rowsOf (decoder : Decoder) (r : ServerReply) : Except Error (List Row) :=
  (cellsOf r).bind (·.mapM (readRow decoder r.columns))

def insertedId (decoder : Decoder) (r : ServerReply) : Except Error Int64 := do
  match ← cellsOf r with
  | [] => .error (.other "INSERT returned no id")
  | cells :: _ =>
    let row ← readRow decoder r.columns cells
    match row.head?.bind Value.asInt? with
    | some id => .ok id
    | none => .error (.decode "id" "INSERT did not return an integer id")

def ask {α : Type} (interpret : ServerReply → Except Error α) (sql : String) (c : Client) :
    Outcome Client (Except Error α) :=
  let o := c.send sql
  ⟨o.answer.bind interpret, o.state, o.trace⟩

def backend (decoder : Decoder) : Backend Client :=
  ⟨.postgres, ask (rowsOf decoder), ask fun r => .ok (affected r.tag), ask (insertedId decoder)⟩

def readAll (decoder : Decoder) (sql : String) (index : Nat) (wanted : WireType) (nullable : Bool)
    (c : Client) : Outcome Client (Except Error (List (Except Error Value))) :=
  c.ask (fun r => (cellsOf r).map (·.map fun cells =>
    readColumn decoder r.columns cells index wanted nullable)) sql

end Client

end TableMapper.Postgres
