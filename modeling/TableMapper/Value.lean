import TableMapper.Calendar.Timestamp
import TableMapper.Decimal.Layout
import TableMapper.Decimal.Numeral
import TableMapper.Error
import TableMapper.Json.Basic
import TableMapper.Text.Basic
import TableMapper.Text.Quoted

/-!
# Column values

A row of a table is a list of values, one for each column. A value has a plain text, two forms inside
a statement, and a description in messages; nothing is escaped, so a text goes into a statement as it
is. In JSON dates and times are written as texts in their ISO form, so only scalars come out and only
scalars are read.
-/

namespace TableMapper

open Calendar (Date Timestamp Instant)

inductive Value
  | null
  | bool (b : Bool)
  | int (n : Int64)
  | float (x : Float)
  | text (s : String)
  | date (d : Date)
  | timestamp (t : Timestamp)
  | instant (i : Instant)

abbrev Row := List Value

namespace Value

def isNull : Value → Bool
  | null => true
  | _ => false

/-- A required field must not hold an empty value: NULL or the empty text. -/
def isEmpty : Value → Bool
  | null => true
  | text s => s.toList.isEmpty
  | _ => false

/-- The value as a whole number. Booleans count as 1 and 0, and texts are read. -/
def asInt? : Value → Option Int64
  | int n => some n
  | bool b => some (if b then 1 else 0)
  | text s => Decimal.readInt64? (Text.trim s.toList)
  | _ => none

def eqv : Value → Value → Bool
  | null, null => true
  | bool a, bool b => a == b
  | int a, int b => a == b
  | float a, float b => a == b
  | text a, text b => a == b
  | date a, date b => a == b
  | timestamp a, timestamp b => a == b
  | instant a, instant b => a == b
  | _, _ => false

instance : BEq Value := ⟨eqv⟩

end Value

end TableMapper

namespace TableMapper.Value

def display : Value → String
  | null => "NULL"
  | bool true => "true"
  | bool false => "false"
  | int n => Decimal.intText n.toInt
  | float x => String.ofList (Decimal.Layout.plain.render x)
  | text s => s
  | date d => String.ofList d.text
  | timestamp t => String.ofList (t.text ' ')
  | instant i => String.ofList (i.text ' ')

/-- What stands between the quotes of a condition or an assignment; booleans are numbers. -/
def quotedText : Value → String
  | bool true => "1"
  | bool false => "0"
  | v => v.display

/-- The form in conditions and assignments: everything but NULL stands between quotes. -/
def quoted : Value → String
  | null => "NULL"
  | v => "'" ++ v.quotedText ++ "'"

/-- The form in the values of an insert: texts and times stand between quotes. -/
def sqlLiteral : Value → String
  | null => "NULL"
  | bool true => "TRUE"
  | bool false => "FALSE"
  | int n => Decimal.intText n.toInt
  | float x => String.ofList (Decimal.Layout.plain.render x)
  | v => v.quoted

/-- The form in messages for developers. -/
def describe : Value → String
  | null => "Null"
  | bool b => Text.describeHolding "Bool" (Text.describeBool b)
  | int n => Text.describeHolding "Int" (Decimal.intText n.toInt)
  | float x => Text.describeHolding "Float" (String.ofList (Decimal.Layout.detailed.render x))
  | text s => Text.describeHolding "Text" (Text.quoted s)
  | date d => Text.describeHolding "Date" (String.ofList d.text)
  | timestamp t => Text.describeHolding "DateTime" (String.ofList (t.text 'T'))
  | instant i => Text.describeHolding "DateTimeUtc" (String.ofList (i.utc.text 'T' ++ ['Z']))

end TableMapper.Value

namespace TableMapper

/-- A number as a whole number of 64 bits with a sign. -/
def Json.asInt64? : Json → Option Int64
  | int n => Decimal.int64? n
  | _ => none

/-- A number as a double, to which a whole number is rounded. -/
def Json.asFloat? : Json → Option Float
  | int n => some (Float.ofInt n)
  | float x => some x
  | _ => none

namespace Value

def toJson : Value → Json
  | null => .null
  | bool b => .bool b
  | int n => .int n.toInt
  | float x => if Json.isFinite x then .float x else .null
  | text s => .text s
  | date d => .text (String.ofList d.text)
  | timestamp t => .text (String.ofList (t.text 'T'))
  | instant i => .text (String.ofList (i.text 'T'))

/-- The value of a number: a whole one of 64 bits, or else a double. -/
def ofNumber (column : String) (j : Json) : Except Error Value :=
  match j.asInt64? with
  | some n => .ok (int n)
  | none =>
    match j.asFloat? with
    | some x => .ok (float x)
    | none => .error (.decode column ("unsupported number " ++ j.render))

def ofJson (column : String) : Json → Except Error Value
  | .null => .ok null
  | .bool b => .ok (bool b)
  | .int n => ofNumber column (.int n)
  | .float x => ofNumber column (.float x)
  | .text s => .ok (text s)
  | j => .error (.decode column ("expected a JSON scalar, got " ++ j.canonical.render))

end Value

end TableMapper
