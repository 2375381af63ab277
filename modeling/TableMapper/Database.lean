import TableMapper.Error
import TableMapper.Logging
import TableMapper.Postgres.Client

/-!
# Databases

The configuration has the address of the database and says how its statements are logged; it is given
by the program or taken from environment variables. A database is a client whose statements are
logged before they are sent, if the configuration asks for it. When the server hangs up, that is
logged in any case.
-/

namespace TableMapper

structure Config where
  url : String
  logSql : Bool := true
  logLevel : Level := .debug
  maxSqlLength : Option Nat := some 200
  deriving DecidableEq, Repr

namespace Config

def urlVariable : String := "DATABASE_URL"

def logVariable : String := "MINORM_LOG_SQL"

/-- Every text switches a flag on except for four words, which ignore case and blanks around. -/
def readFlag (text : String) : Bool :=
  let word := String.ofList ((Text.trim text.toList).map Char.toLower)
  !(["0", "false", "no", "off"].contains word)

def ofEnvironment (read? : String → Option String) : Except Error Config :=
  match read? urlVariable with
  | none => .error (.connection (urlVariable ++ " is not set"))
  | some url =>
    match read? logVariable with
    | none => .ok { url }
    | some flag => .ok { url, logSql := readFlag flag }

def logger? (c : Config) : Option StatementLogger :=
  if c.logSql then some ⟨c.logLevel, c.maxSqlLength⟩ else none

end Config

end TableMapper

namespace TableMapper.Database

open Postgres (Client Decoder ServerReply)

def connectedEvent : Event := ⟨.debug, sqlTarget, [("message", "connected")]⟩

def connectionErrorEvent : Event :=
  ⟨.error, sqlTarget, [("message", "connection error"),
    ("error", "error communicating with the server")]⟩

def connect (refuses : Bool) (replies : List ServerReply) :
    Except Error (Outcome Client Unit) :=
  match Client.connect refuses replies with
  | .ok c => .ok ⟨(), c, [.logged connectedEvent]⟩
  | .error _ => .error (.connection Client.serverError)

def statementTrace (config : Config) (sql : String) : List Occurrence :=
  match config.logger? with
  | some logger => [.logged (logger.event sql)]
  | none => []

/-- What is logged when a connection has just been lost. -/
def lossTrace (before after : Client) : List Occurrence :=
  if !before.closed && after.closed then [.logged connectionErrorEvent] else []

def logged {α : Type} (config : Config) (call : String → Client → Outcome Client α)
    (sql : String) (c : Client) : Outcome Client α :=
  let o := call sql c
  ⟨o.answer, o.state, statementTrace config sql ++ o.trace ++ lossTrace c o.state⟩

def backend (decoder : Decoder) (config : Config) : Backend Client where
  dialect := .postgres
  fetch := logged config (Client.backend decoder).fetch
  execute := logged config (Client.backend decoder).execute
  insert := logged config (Client.backend decoder).insert

def isConnected (c : Client) : Bool := !c.closed

/-- Reads a column with the bare client, whose statements are not logged. -/
def readAll (decoder : Decoder) (sql : String) (index : Nat) (wanted : Postgres.WireType)
    (nullable : Bool) (c : Client) : Outcome Client (Except Error (List (Except Error Value))) :=
  let o := c.readAll decoder sql index wanted nullable
  ⟨o.answer, o.state, o.trace ++ lossTrace c o.state⟩

end TableMapper.Database
