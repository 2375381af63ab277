import TableMapper.Error
import TableMapper.Value

/-!
# Cells of PostgreSQL

A column has a type, by number and name, and a cell is either NULL or bytes in the order of the
network. The number tells as what a column is read. Whether its type is accepted for that, and what
the bytes of a cell then hold, is up to the decoder of the connection's library.
-/

namespace TableMapper.Postgres

open Calendar (Date Timestamp Instant)

/-- What a column can be read as. -/
inductive WireType
  | bool
  | int2
  | int4
  | int8
  | oid
  | float4
  | float8
  | date
  | timestamp
  | timestamptz
  | text
  deriving DecidableEq, Repr

namespace WireType

abbrev Content : WireType → Type
  | bool => Bool
  | int2 => Int16
  | int4 => Int32
  | int8 => Int64
  | oid => UInt32
  | float4 => Float32
  | float8 => Float
  | date => Date
  | timestamp => Timestamp
  | timestamptz => Instant
  | text => String

def toValue : (t : WireType) → t.Content → Value
  | bool, b => .bool b
  | int2, n => .int n.toInt64
  | int4, n => .int n.toInt64
  | int8, n => .int n
  | oid, n => .int n.toUInt64.toInt64
  | float4, x => .float x.toFloat
  | float8, x => .float x
  | date, d => .date d
  | timestamp, t => .timestamp t
  | timestamptz, i => .instant i
  | text, s => .text s

/-- A column is read as a text if its number tells nothing else. -/
def ofOid (number : Nat) : WireType :=
  match number with
  | 16 => bool
  | 20 => int8
  | 21 => int2
  | 23 => int4
  | 26 => oid
  | 700 => float4
  | 701 => float8
  | 1082 => date
  | 1114 => timestamp
  | 1184 => timestamptz
  | _ => text

end WireType

structure ColumnType where
  oid : Nat
  name : String
  deriving DecidableEq, Repr

structure Column where
  name : String
  type : ColumnType
  deriving DecidableEq, Repr

def Column.wireType (c : Column) : WireType := .ofOid c.type.oid

/-- Nothing stands for NULL. -/
abbrev Cell := Option (List UInt8)

/-- How a library decodes cells. It accepts a column's type for what is wanted or refuses the whole
column, NULL included; the bytes of a cell in a column it accepts hold a content of that kind or
cannot be decoded, whatever else stands in the row. -/
structure Decoder where
  accepts : WireType → ColumnType → Bool
  decode? (t : WireType) : ColumnType → List UInt8 → Option t.Content

namespace Decoder

variable (decoder : Decoder)

/-- The content of a cell, if it can be read as what is wanted. NULL has none. -/
def content? (t : WireType) (type : ColumnType) (cell : Cell) : Option (Option t.Content) :=
  if decoder.accepts t type then cell.mapM (decoder.decode? t type) else none

def value? (t : WireType) (type : ColumnType) (cell : Cell) : Option Value :=
  (decoder.content? t type cell).map fun content => (content.map t.toValue).getD .null

end Decoder

def cellError (name : String) (index : Nat) : Error :=
  .decode name ("error deserializing column " ++ toString index)

section Reading

variable (decoder : Decoder)

/-- Reads cells from left to right; `index` is the number of the first one. -/
def readCells (index : Nat) : List (Column × Cell) → Except Error Row
  | [] => .ok []
  | (c, cell) :: rest =>
    match decoder.value? c.wireType c.type cell with
    | none => .error (cellError c.name index)
    | some v => (readCells (index + 1) rest).map (v :: ·)

def readRow (columns : List Column) (cells : List Cell) : Except Error Row :=
  readCells decoder 0 (columns.zip cells)

/-- Reads one column of a row as what is wanted, where NULL may be wanted or not. -/
def readColumn (columns : List Column) (cells : List Cell) (index : Nat) (wanted : WireType)
    (nullable : Bool) : Except Error Value :=
  match columns[index]? with
  | none =>
    .error (.decode (toString index) ("invalid column `" ++ toString index ++ "`"))
  | some c =>
    match decoder.content? wanted c.type (cells[index]?.getD none) with
    | some (some content) => .ok (wanted.toValue content)
    | some none => if nullable then .ok .null else .error (cellError c.name index)
    | none => .error (cellError c.name index)

end Reading

/-- The number that bytes denote, the highest first. -/
def unsigned (bytes : List UInt8) : Nat := bytes.foldl (fun n b => 256 * n + b.toNat) 0

def signed (bytes : List UInt8) : Int :=
  (unsigned bytes : Int).bmod (Nat.pow 256 bytes.length)

def sized? (n : Nat) (bytes : List UInt8) : Option (List UInt8) :=
  if bytes.length = n then some bytes else none

/-- The types with labelled trees, whose texts have their version number in front. -/
def isVersioned (type : ColumnType) : Bool :=
  type.name == "ltree" || type.name == "lquery" || type.name == "ltxtquery"

def decodeText? (type : ColumnType) (bytes : List UInt8) : Option String :=
  if isVersioned type then
    match bytes with
    | 1 :: rest => String.fromUTF8? ⟨rest.toArray⟩
    | _ => none
  else String.fromUTF8? ⟨bytes.toArray⟩

/-- The binary format. Times count from the start of the year 2000. -/
def decodeBinary? : (t : WireType) → ColumnType → List UInt8 → Option t.Content
  | .bool, _, bytes => (sized? 1 bytes).map fun bs => unsigned bs != 0
  | .int2, _, bytes => (sized? 2 bytes).map fun bs => Int16.ofInt (signed bs)
  | .int4, _, bytes => (sized? 4 bytes).map fun bs => Int32.ofInt (signed bs)
  | .int8, _, bytes => (sized? 8 bytes).map fun bs => Int64.ofInt (signed bs)
  | .oid, _, bytes => (sized? 4 bytes).map fun bs => UInt32.ofNat (unsigned bs)
  | .float4, _, bytes => (sized? 4 bytes).map fun bs => Float32.ofBits (UInt32.ofNat (unsigned bs))
  | .float8, _, bytes => (sized? 8 bytes).map fun bs => Float.ofBits (UInt64.ofNat (unsigned bs))
  | .date, _, bytes => (sized? 4 bytes).bind fun bs => Date.fromMillennium? (signed bs)
  | .timestamp, _, bytes => (sized? 8 bytes).bind fun bs => Timestamp.fromMillennium? (signed bs)
  | .timestamptz, _, bytes =>
    (sized? 8 bytes).bind fun bs => (Timestamp.fromMillennium? (signed bs)).map Instant.mk
  | .text, type, bytes => decodeText? type bytes

/-- The types of the server's own, each for one kind of content but several for texts, and some types
of extensions that are told by their names. -/
def acceptsBinary (t : WireType) (type : ColumnType) : Bool :=
  match t with
  | .text =>
    [19, 25, 705, 1042, 1043].contains type.oid || type.name == "citext" || isVersioned type
  | _ => WireType.ofOid type.oid == t

def Decoder.binary : Decoder := ⟨acceptsBinary, decodeBinary?⟩

end TableMapper.Postgres
