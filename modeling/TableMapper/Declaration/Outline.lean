import TableMapper.Declaration.Options
import TableMapper.Declaration.Written
import TableMapper.Text.Lowercase

/-!
# Outlines of models

A declaration gives a name, attributes and fields with types. Its outline says what the model does:
which columns its schema has, which field holds the key, in which order fields are written and
read, what is displayed, and which validators there are. The key always comes first, under the
column `id`; the other columns have the names of their fields and keep the order of declaration.
-/

namespace TableMapper.Declaration

structure DeclaredField where
  name : String
  type : List Token
  attributes : List (List Token) := []

inductive Shape
  | fields (fs : List DeclaredField)
  | tuple
  | unit
  | choice

structure Item where
  name : String
  attributes : List (List Token) := []
  shape : Shape

structure Column where
  name : String
  type : String
  blank : Bool
  deriving DecidableEq, Repr

inductive Rule
  | always
  | nonEmpty
  deriving DecidableEq, Repr

structure Validator where
  name : String
  field : String
  rule : Rule
  deriving DecidableEq, Repr

structure Outline where
  name : String
  table : String
  key : String
  columns : List Column
  values : List String
  decode : List (String × String)
  display : Option String
  validators : List Validator
  deriving DecidableEq, Repr

structure MarkedField where
  name : String
  type : String
  mark : FieldMark
  deriving DecidableEq, Repr

def markField (f : DeclaredField) : Except Refusal MarkedField :=
  (readFieldMark f.attributes).map fun mark => ⟨f.name, typeText f.type, mark⟩

def Shape.fields? : Shape → Except Refusal (List DeclaredField)
  | fields fs => .ok fs
  | tuple | unit => .error .unnamedFields
  | choice => .error .notStructure

/-- The field that holds the key: the one marked so, or else the one called `id`. -/
def keyField (fs : List MarkedField) : Except Refusal String :=
  match fs.filter (·.mark.isKey) with
  | [f] => .ok f.name
  | _ :: _ :: _ => .error .severalKeys
  | [] => if fs.any (·.name == "id") then .ok "id" else .error .missingKey

def plainName (name : String) : String :=
  match name.toList with
  | 'r' :: '#' :: cs => String.ofList cs
  | _ => name

def MarkedField.column (f : MarkedField) : Column := ⟨f.name, f.type, f.mark.blank⟩

def MarkedField.validator (f : MarkedField) : Validator :=
  ⟨"valid_" ++ plainName f.name, f.name, if f.mark.blank then .always else .nonEmpty⟩

def checkDisplay (columns : List MarkedField) : Option String → Except Refusal Unit
  | none => .ok ()
  | some target =>
    if columns.any (·.name == target) then .ok () else .error (.unknownDisplay target)

/-- The outline of a declaration, or the first thing that is wrong with it. -/
def Item.outline (d : Item) : Except Refusal Outline := do
  let mark ← readModelMark d.attributes
  let declared ← d.shape.fields?
  let fs ← declared.mapM markField
  let key ← keyField fs
  let columns := fs.filter (·.name ≠ key)
  if columns.any (·.name == "id") then .error .columnNamedId
  else do
    checkDisplay columns mark.display
    .ok {
      name := d.name
      table := mark.table.getD (Text.lowercase d.name)
      key
      columns := columns.map (·.column)
      values := key :: columns.map (·.name)
      decode := (key, "id") :: columns.map fun f => (f.name, f.name)
      display := mark.display
      validators := columns.map (·.validator) }

end TableMapper.Declaration
