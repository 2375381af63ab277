import TableMapper.Calendar.Reader
import TableMapper.Record
import TableMapper.Text.Quoted

/-!
# Fields

The schema of a model says of a column its name, its kind and how it may be empty. A field has a base
type and may be optional. Every type writes its contents as a column value and reads them back;
several other values are read as well, such as the text of a date.
-/

namespace TableMapper

inductive FieldKind
  | integer
  | float
  | boolean
  | text
  | date
  | dateTime
  | dateTimeUtc
  deriving DecidableEq, Repr

def FieldKind.name : FieldKind → String
  | integer => "Integer"
  | float => "Float"
  | boolean => "Boolean"
  | text => "Text"
  | date => "Date"
  | dateTime => "DateTime"
  | dateTimeUtc => "DateTimeUtc"

structure FieldDef where
  name : String
  kind : FieldKind
  nullable : Bool
  blank : Bool
  primaryKey : Bool
  deriving DecidableEq, Repr

namespace FieldDef

def new (name : String) (kind : FieldKind) (nullable : Bool) : FieldDef :=
  ⟨name, kind, nullable, true, false⟩

def id : FieldDef := ⟨"id", .integer, true, true, true⟩

/-- The same column, which now must not be empty. -/
def required (d : FieldDef) : FieldDef := { d with blank := false }

def describe (d : FieldDef) : String :=
  Text.describeStructure "FieldDef" [("name", Text.quoted d.name), ("kind", d.kind.name),
    ("nullable", Text.describeBool d.nullable), ("blank", Text.describeBool d.blank),
    ("primary_key", Text.describeBool d.primaryKey)]

end FieldDef

open Calendar (Date Timestamp Instant)

inductive BaseType
  | int64
  | int32
  | float
  | bool
  | text
  | date
  | timestamp
  | instant
  deriving DecidableEq, Repr

/-- Why a value is not read as contents of a field. -/
inductive Mismatch
  | unexpected (wanted : String) (got : Value)
  | tooWide (n : Int64)
  | unreadable (fault : Calendar.ReadFault) (text : String)

def Mismatch.message : Mismatch → String
  | unexpected wanted .null => "expected " ++ wanted ++ ", got NULL"
  | unexpected wanted got => "expected " ++ wanted ++ ", got " ++ got.describe
  | tooWide n => "integer " ++ Decimal.intText n.toInt ++ " out of range for i32"
  | unreadable fault text => fault.message ++ ": " ++ Text.quoted text

namespace BaseType

abbrev Carrier : BaseType → Type
  | int64 => Int64
  | int32 => Int32
  | float => Float
  | bool => Bool
  | text => String
  | date => Date
  | timestamp => Timestamp
  | instant => Instant

def kind : BaseType → FieldKind
  | int64 | int32 => .integer
  | float => .float
  | bool => .boolean
  | text => .text
  | date => .date
  | timestamp => .dateTime
  | instant => .dateTimeUtc

def toValue : (t : BaseType) → t.Carrier → Value
  | int64, n => .int n
  | int32, n => .int n.toInt64
  | float, x => .float x
  | bool, b => .bool b
  | text, s => .text s
  | date, d => .date d
  | timestamp, t => .timestamp t
  | instant, i => .instant i

def readInt64 (v : Value) : Except Mismatch Int64 :=
  match v.asInt? with
  | some n => .ok n
  | none => .error (.unexpected "integer" v)

def readInt32 (v : Value) : Except Mismatch Int32 := do
  let n ← readInt64 v
  if Int32.minValue.toInt ≤ n.toInt ∧ n.toInt ≤ Int32.maxValue.toInt then
    .ok (Int32.ofInt n.toInt)
  else .error (.tooWide n)

def readFloat : Value → Except Mismatch Float
  | .float x => .ok x
  | .int n => .ok (Float.ofInt n.toInt)
  | .text s =>
    match Decimal.readFloat? (Text.trim s.toList) with
    | some x => .ok x
    | none => .error (.unexpected "float" (.text s))
  | v => .error (.unexpected "float" v)

def readBool : Value → Except Mismatch Bool
  | .bool b => .ok b
  | .int n => .ok (n != 0)
  | v => .error (.unexpected "boolean" v)

def readText : Value → Except Mismatch String
  | .text s => .ok s
  | .null => .error (.unexpected "text" .null)
  | v => .ok v.display

def readTime {α : Type} (read : List Char → Except Calendar.ReadFault α) (s : String) :
    Except Mismatch α :=
  (read s.toList).mapError (.unreadable · s)

def readDate : Value → Except Mismatch Date
  | .date d => .ok d
  | .timestamp t => .ok t.date
  | .instant i => .ok i.utc.date
  | .text s => readTime Calendar.readDate s
  | v => .error (.unexpected "date" v)

def readTimestamp : Value → Except Mismatch Timestamp
  | .timestamp t => .ok t
  | .instant i => .ok i.utc
  | .date d => .ok d.atMidnight
  | .text s => readTime Calendar.readTimestamp s
  | v => .error (.unexpected "timestamp" v)

def readInstant : Value → Except Mismatch Instant
  | .instant i => .ok i
  | .timestamp t => .ok ⟨t⟩
  | .date d => .ok ⟨d.atMidnight⟩
  | .text s => readTime Calendar.readInstant s
  | v => .error (.unexpected "timestamptz" v)

def ofValue : (t : BaseType) → Value → Except Mismatch t.Carrier
  | int64, v => readInt64 v
  | int32, v => readInt32 v
  | float, v => readFloat v
  | bool, v => readBool v
  | text, v => readText v
  | date, v => readDate v
  | timestamp, v => readTimestamp v
  | instant, v => readInstant v

end BaseType

structure FieldType where
  base : BaseType
  nullable : Bool
  deriving DecidableEq, Repr

namespace FieldType

abbrev Carrier : FieldType → Type
  | ⟨base, true⟩ => Option base.Carrier
  | ⟨base, false⟩ => base.Carrier

def toValue : (t : FieldType) → t.Carrier → Value
  | ⟨_, true⟩, none => .null
  | ⟨base, true⟩, some a => base.toValue a
  | ⟨base, false⟩, a => base.toValue a

/-- Reads a value; an optional field reads NULL as nothing. -/
def ofValue : (t : FieldType) → Value → Except Mismatch t.Carrier
  | ⟨base, true⟩, v => if v.isNull then .ok none else (base.ofValue v).map some
  | ⟨base, false⟩, v => base.ofValue v

def column (t : FieldType) (name : String) (blank : Bool) : FieldDef :=
  ⟨name, t.base.kind, t.nullable, blank, false⟩

/-- The type of a primary key that the database assigns. -/
def key : FieldType := ⟨.int64, true⟩

end FieldType

/-- Reads the value under a name of a record; a missing name reads as NULL. -/
def Record.decode (r : Record) (t : FieldType) (name : String) : Except Error t.Carrier :=
  (t.ofValue (r.get name)).mapError fun m => .decode name m.message

end TableMapper
