import TableMapper.Model.Basic

/-!
# Models from outlines

An outline becomes a model once the types of its fields are known. Every name in it must be that
of a field, and every field must be read from some column.
-/

namespace TableMapper

def fieldPosition? (fields : List (String × FieldType)) (name : String) :
    Option (Fin fields.length) :=
  fields.findFinIdx? (·.1 == name)

def shownPosition? (fields : List (String × FieldType)) :
    Option String → Option (Option (Fin fields.length))
  | none => some none
  | some name => (fieldPosition? fields name).map some

def resolveFields? (typeOf? : String → Option FieldType) :
    List (String × String) → Option (List (String × FieldType))
  | [] => some []
  | (name, type) :: fs => do
    let t ← typeOf? type
    let ts ← resolveFields? typeOf? fs
    return (name, t) :: ts

def Declaration.Column.descriptor? (typeOf? : String → Option FieldType)
    (c : Declaration.Column) : Option FieldDef :=
  (typeOf? c.type).map fun t => t.column c.name c.blank

/-- The model with an outline, over fields that are given by name and type. -/
def Declaration.Outline.model? (typeOf? : String → Option FieldType) (o : Declaration.Outline)
    (declared : List (String × String)) : Option Model := do
  let fields ← resolveFields? typeOf? declared
  let columns ← o.columns.mapM (·.descriptor? typeOf?)
  let key ← fieldPosition? fields o.key
  let written ← o.values.mapM (fieldPosition? fields)
  let read ← o.decode.mapM fun e => (fieldPosition? fields e.1).map (·, e.2)
  let shown ← shownPosition? fields o.display
  let checks ← o.validators.mapM fun v =>
    (fieldPosition? fields v.field).map fun i => (⟨v.name, i, v.rule⟩ : FieldCheck fields.length)
  if h : (fields.get key).2 = .key ∧ ∀ i, i ∈ read.map Prod.fst then
    some {
      name := o.name
      table := o.table
      fields
      schema := .id :: columns
      key
      keyType := h.1
      written
      read
      complete := h.2
      shown
      checks }
  else none

def Declaration.Shape.named : Declaration.Shape → List (String × String)
  | .fields fs => fs.map fun f => (f.name, Declaration.typeText f.type)
  | _ => []

def Declaration.Item.model? (typeOf? : String → Option FieldType) (d : Declaration.Item) :
    Option Model :=
  match d.outline with
  | .ok o => o.model? typeOf? d.shape.named
  | .error _ => none

end TableMapper
