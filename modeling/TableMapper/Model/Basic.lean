import TableMapper.Declaration.Outline
import TableMapper.Field

/-!
# Models

A model maps a record type to a table. The fields of the record type stand in the order of
declaration and are referred to by position; one of them, of the type of a key, holds the primary
key. The schema describes the columns with the key first, and the lists of written and of read
fields say which field each column belongs to.
-/

namespace TableMapper

structure FieldCheck (n : Nat) where
  name : String
  field : Fin n
  rule : Declaration.Rule

structure Model where
  name : String
  table : String
  fields : List (String × FieldType)
  schema : List FieldDef
  key : Fin fields.length
  keyType : fields[key].2 = .key
  written : List (Fin fields.length)
  read : List (Fin fields.length × String)
  complete : ∀ i, i ∈ read.map Prod.fst
  shown : Option (Fin fields.length)
  checks : List (FieldCheck fields.length)

namespace Model

abbrev Field (m : Model) := Fin m.fields.length

def typeOf (m : Model) (i : m.Field) : FieldType := m.fields[i].2

def columnNames (m : Model) : List String := m.schema.map (·.name)

def selectList (m : Model) : String := String.intercalate ", " m.columnNames

def selectSql (m : Model) : String := "SELECT " ++ m.selectList ++ " FROM " ++ m.table

end Model

structure Instance (m : Model) where
  get : (i : m.Field) → (m.typeOf i).Carrier

namespace Instance

variable {m : Model}

def valueOf (x : Instance m) (i : m.Field) : Value := (m.typeOf i).toValue (x.get i)

theorem carrier_key (m : Model) : (m.typeOf m.key).Carrier = Option Int64 := by
  rw [Model.typeOf, m.keyType]
  rfl

/-- The primary key, which is unset until the record is stored. -/
def id (x : Instance m) : Option Int64 := cast (carrier_key m) (x.get m.key)

def setId (x : Instance m) (id : Option Int64) : Instance m where
  get i := if h : i = m.key then cast (h ▸ (carrier_key m).symm) id else x.get i

theorem id_setId (x : Instance m) (id : Option Int64) : (x.setId id).id = id := by
  simp [Instance.id, setId]

theorem get_setId_of_ne (x : Instance m) (id : Option Int64) {i : m.Field} (h : i ≠ m.key) :
    (x.setId id).get i = x.get i := by
  simp [setId, h]

theorem valueOf_key (x : Instance m) :
    x.valueOf m.key = match x.id with | some n => .int n | none => .null := by
  have carrier : ∀ (t : FieldType) (_ : t = .key) (a : t.Carrier) (e : t.Carrier = Option Int64),
      t.toValue a = match cast e a with | some n => .int n | none => .null := by
    intro t h a e
    subst h
    cases a <;> rfl
  exact carrier _ m.keyType _ _

def values (x : Instance m) : List Value := m.written.map x.valueOf

def toRecord (x : Instance m) : Record := .ofPairs (m.columnNames.zip x.values)

def passes (x : Instance m) (c : FieldCheck m.fields.length) : Bool :=
  match c.rule with
  | .always => true
  | .nonEmpty => !(x.valueOf c.field).isEmpty

/-- The text of the displayed field, nothing for NULL; without such a field, a fixed word. -/
def display (x : Instance m) : String :=
  match m.shown with
  | none => "Object"
  | some i => if (x.valueOf i).isNull then "" else (x.valueOf i).display

def describe (x : Instance m) : String := "<" ++ m.name ++ ": " ++ x.display ++ ">"

/-- Names of the columns that must not be empty and are. -/
def invalidFields (x : Instance m) : List String :=
  ((m.schema.zip x.values).filter fun c => !c.1.blank && c.2.isEmpty).map (·.1.name)

def isValid (x : Instance m) : Bool := x.invalidFields.isEmpty

def validate (x : Instance m) : Except Error Unit :=
  if x.isValid then .ok ()
  else .error (.validation (m.name ++ ": required fields are empty: " ++
    String.intercalate ", " x.invalidFields))

end Instance

namespace Model

variable {m : Model}

def readFields (m : Model) (r : Record) : (entries : List (m.Field × String)) →
    Except Error ((i : m.Field) → i ∈ entries.map Prod.fst → (m.typeOf i).Carrier)
  | [] => .ok fun _ h => nomatch h
  | (i, column) :: entries => do
    let a ← r.decode (m.typeOf i) column
    let others ← m.readFields r entries
    .ok fun j h =>
      if e : j = i then e ▸ a
      else others j ((List.mem_cons.1 h).resolve_left e)

/-- Builds a record from a mapping. Only the columns of the model are looked at, and a column that
is missing reads as NULL. -/
def ofRecord (m : Model) (r : Record) : Except Error (Instance m) :=
  (m.readFields r m.read).map fun get => ⟨fun i => get i (m.complete i)⟩

/-- Pairs a row with the schema. Values beyond the schema are dropped. -/
def rowRecord (m : Model) (row : Row) : Record := .ofPairs (m.columnNames.zip row)

def ofRow (m : Model) (row : Row) : Except Error (Instance m) := m.ofRecord (m.rowRecord row)

/-- Reads a record from the text of a JSON object; members that are no columns are dropped. -/
def ofJson (m : Model) (text : String) : Except Error (Instance m) :=
  (Record.ofJson text).bind m.ofRecord

end Model

namespace Instance

variable {m : Model}

def json (x : Instance m) : String := x.toRecord.json

def jsonList (xs : List (Instance m)) : String :=
  (Json.list (xs.map fun x => x.toRecord.toJson)).render

end Instance

end TableMapper
