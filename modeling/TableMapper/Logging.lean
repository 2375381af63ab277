import TableMapper.Text.Basic

/-!
# The log

An event has a level, a target and named fields in order. A statement is logged with its kind, told
from its first word, and its text, which may be cut to a number of bytes.
-/

namespace TableMapper

inductive Level
  | error
  | warn
  | info
  | debug
  | trace
  deriving DecidableEq, Repr

namespace Level

def name : Level → String
  | error => "ERROR"
  | warn => "WARN"
  | info => "INFO"
  | debug => "DEBUG"
  | trace => "TRACE"

def ofName? (s : String) : Option Level :=
  [error, warn, info, debug, trace].find? (·.name == s)

end Level

structure Event where
  level : Level
  target : String
  fields : List (String × String)
  deriving DecidableEq, Repr

inductive StatementKind
  | select
  | insert
  | update
  | delete
  | other
  deriving DecidableEq, Repr

namespace StatementKind

/-- The first word of a statement, in capitals: the letters after blanks and opening brackets. -/
def keyword (cs : List Char) : List Char :=
  ((cs.dropWhile fun c => Text.isBlank c || c == '(').takeWhile Char.isAlpha).map Char.toUpper

def ofSql (sql : String) : StatementKind :=
  let word := String.ofList (keyword sql.toList)
  if word = "SELECT" ∨ word = "WITH" then select
  else if word = "INSERT" then insert
  else if word = "UPDATE" then update
  else if word = "DELETE" then delete
  else other

def name : StatementKind → String
  | select => "SELECT"
  | insert => "INSERT"
  | update => "UPDATE"
  | delete => "DELETE"
  | other => "OTHER"

def describe : StatementKind → String
  | select => "Select"
  | insert => "Insert"
  | update => "Update"
  | delete => "Delete"
  | other => "Other"

end StatementKind

def sqlTarget : String := "minorm.sql"

/-- How statements are logged: at which level, and cut to how many bytes, if at all. -/
structure StatementLogger where
  level : Level := .debug
  maxLength : Option Nat := some 200
  deriving DecidableEq, Repr

namespace StatementLogger

/-- The statement as it is logged; dots mark one that was cut. -/
def shown (l : StatementLogger) (sql : String) : String :=
  match l.maxLength with
  | none => sql
  | some limit =>
    if Text.byteLength sql.toList ≤ limit then sql
    else String.ofList (Text.cut limit sql.toList) ++ "..."

def event (l : StatementLogger) (sql : String) : Event :=
  ⟨l.level, sqlTarget, [("query_type", (StatementKind.ofSql sql).name), ("sql", l.shown sql)]⟩

end StatementLogger

end TableMapper
