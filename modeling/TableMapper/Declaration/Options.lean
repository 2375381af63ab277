import TableMapper.Declaration.Scan

/-!
# Options in attributes

Only attributes by the name of `orm` count, with their options in brackets of any kind. Options
are separated by single commas, and one more may end the list. A refusal says why a declaration is
not accepted as a model.
-/

namespace TableMapper.Declaration

inductive Refusal
  | bareOptions
  | assignedOptions
  | expectedIdent
  | foundKeyword (word : String)
  | expectedEquals
  | expectedText (atEnd : Bool)
  | expectedBool (atEnd : Bool)
  | unexpectedToken
  | unknownModelOption
  | unknownFieldOption
  | notStructure
  | unnamedFields
  | severalKeys
  | missingKey
  | columnNamedId
  | unknownDisplay (target : String)
  deriving DecidableEq, Repr

def atEndText (atEnd : Bool) : String := if atEnd then "unexpected end of input, " else ""

def Refusal.message : Refusal → String
  | bareOptions => "expected attribute arguments in parentheses: #[orm(...)]"
  | assignedOptions => "expected parentheses: #[orm(...)]"
  | expectedIdent => "expected identifier"
  | foundKeyword word => "expected identifier, found keyword `" ++ word ++ "`"
  | expectedEquals => "expected `=`"
  | expectedText atEnd => atEndText atEnd ++ "expected string literal"
  | expectedBool atEnd => atEndText atEnd ++ "expected boolean literal"
  | unexpectedToken => "unexpected token"
  | unknownModelOption => "unknown #[orm] attribute; expected `table` or `display`"
  | unknownFieldOption => "unknown #[orm] field attribute; expected `id` or `blank = ...`"
  | notStructure => "Model can only be derived for structs"
  | unnamedFields => "Model can only be derived for structs with named fields"
  | severalKeys => "Model supports exactly one #[orm(id)] field"
  | missingKey => "Model requires an `id: Option<i64>` field (or one marked #[orm(id)])"
  | columnNamedId => "a field named `id` must be the primary key"
  | unknownDisplay target =>
    "#[orm(display = \"" ++ target ++ "\")] does not name a declared field"

inductive FieldOption
  | key
  | blank (allowed : Bool)
  deriving DecidableEq, Repr

inductive ModelOption
  | table (name : String)
  | display (field : String)
  deriving DecidableEq, Repr

def Token.bool? : Token → Option Bool
  | ident name => if name = "true" then some true else if name = "false" then some false else none
  | _ => none

def readName : Token → Except Refusal String
  | .ident name => if keywords.contains name then .error (.foundKeyword name) else .ok name
  | _ => .error .expectedIdent

def readFieldOptions : List Token → Except Refusal (List FieldOption)
  | [] => .ok []
  | t :: ts => do
    let name ← readName t
    if name = "id" then
      match ts with
      | [] => .ok [.key]
      | .punct ',' _ :: r => (readFieldOptions r).map (.key :: ·)
      | _ => .error .unexpectedToken
    else if name = "blank" then
      match ts with
      | .punct '=' _ :: [] => .error (.expectedBool true)
      | .punct '=' _ :: b :: r =>
        match b.bool? with
        | none => .error (.expectedBool false)
        | some allowed =>
          match r with
          | [] => .ok [.blank allowed]
          | .punct ',' _ :: r => (readFieldOptions r).map (.blank allowed :: ·)
          | _ => .error .unexpectedToken
      | _ => .error .expectedEquals
    else .error .unknownFieldOption

def modelOption (name value : String) : Except Refusal ModelOption :=
  if name = "table" then .ok (.table value)
  else if name = "display" then .ok (.display value)
  else .error .unknownModelOption

def readModelOptions : List Token → Except Refusal (List ModelOption)
  | [] => .ok []
  | t :: ts => do
    let name ← readName t
    match ts with
    | .punct '=' _ :: [] => .error (.expectedText true)
    | .punct '=' _ :: .text _ value :: r => do
      let option ← modelOption name value
      match r with
      | [] => .ok [option]
      | .punct ',' _ :: r => (readModelOptions r).map (option :: ·)
      | _ => .error .unexpectedToken
    | .punct '=' _ :: _ => .error (.expectedText false)
    | _ => .error .expectedEquals

/-- The tokens between the brackets of an attribute that counts; nothing for any other. -/
def arguments? : List Token → Option (Except Refusal (List Token))
  | [.ident "orm"] => some (.error .bareOptions)
  | .ident "orm" :: .punct '=' _ :: _ => some (.error .assignedOptions)
  | [.ident "orm", .group _ inner] => some (.ok inner)
  | _ => none

structure FieldMark where
  isKey : Bool := false
  blank : Bool := true
  deriving DecidableEq, Repr

/-- Inside one attribute a later option overrides an earlier one. -/
def FieldMark.ofOptions (options : List FieldOption) : FieldMark :=
  options.foldl (fun mark option => match option with
    | .key => { mark with isKey := true }
    | .blank allowed => { mark with blank := allowed }) {}

/-- Across attributes a field is the key if one says so, and blank if all allow it. -/
def FieldMark.merge (a b : FieldMark) : FieldMark := ⟨a.isKey || b.isKey, a.blank && b.blank⟩

structure ModelMark where
  table : Option String := none
  display : Option String := none
  deriving DecidableEq, Repr

def ModelMark.ofOptions (options : List ModelOption) : ModelMark :=
  options.foldl (fun mark option => match option with
    | .table name => { mark with table := some name }
    | .display field => { mark with display := some field }) {}

/-- A later attribute overrides an earlier one. -/
def ModelMark.merge (a b : ModelMark) : ModelMark :=
  ⟨b.table.or a.table, b.display.or a.display⟩

def readFieldMark (attributes : List (List Token)) : Except Refusal FieldMark :=
  attributes.foldlM (fun mark tokens =>
    match arguments? tokens with
    | none => .ok mark
    | some arguments => do
      let options ← readFieldOptions (← arguments)
      .ok (mark.merge (.ofOptions options))) {}

def readModelMark (attributes : List (List Token)) : Except Refusal ModelMark :=
  attributes.foldlM (fun mark tokens =>
    match arguments? tokens with
    | none => .ok mark
    | some arguments => do
      let options ← readModelOptions (← arguments)
      .ok (mark.merge (.ofOptions options))) {}

end TableMapper.Declaration
