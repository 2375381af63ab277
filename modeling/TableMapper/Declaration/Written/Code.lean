import TableMapper.Declaration.Written.Definition

/-!
# Written code

Expressions, statements, and fields with their types. Tokens keep their order; only the types,
paths and definitions in between have a form of their own. Whether an angle bracket opens a type or
compares depends on whether an operand is expected.
-/

namespace TableMapper.Declaration

/-- Where in a run of code the next token stands. -/
structure Place where
  /-- An operand is expected, as opposed to an operator. -/
  operand : Bool := true
  /-- A statement begins. -/
  start : Bool := false
  /-- The next block belongs to the statement and ends it. -/
  header : Bool := false
  /-- A name is bound, and a type may follow after a colon. -/
  binding : Bool := false
  deriving DecidableEq, Repr

namespace Place

def first : Code → Place
  | .expression | .expressions => {}
  | .statements | .members => { start := true }
  | .fields => { binding := true }

def afterOperand (place : Place) : Place := { place with operand := false, start := false }

def afterOperator (place : Place) : Place := { place with operand := true, start := false }

def afterHeaderWord (place : Place) : Place :=
  { place.afterOperator with header := place.header || place.start }

/-- After a group, which ends a statement if it is its block. -/
def afterGroup (place : Place) (code : Code) (b : Bracket) (rest : List Token) : Place :=
  if b ≠ .curly || place.binding || !(place.start || place.header) then place.afterOperand
  else if wordFirst ["else"] rest then { header := true }
  else if signsFirst ['?'] rest || (signsFirst ['.'] rest && !signsFirst ['.', '.'] rest) then
    { operand := false }
  else first code

end Place

def pathWords : List String := ["Self", "self", "super", "crate", "try"]

namespace Parts

def takeClosureInputs (p : Parts) : Nat → Writing
  | 0 => pure []
  | n + 1 => do
    let ts ← get
    if ts.isEmpty || ['|', '=', ';'].any (fun c => signsFirst [c] ts) then pure []
    else
      let text ←
        if colonFirst ts then do
          let colon ← take 1
          pure (colon ++ (← p.type true))
        else match ts with
          | .punct '<' _ :: _ => p.takeQualified false
          | .group _ _ :: _ => takeGroup fun _ => p.code .expressions
          | _ =>
            if attributeFirst ts then p.takeAttributes
            else do
              let path ← p.takePath false
              if path.isEmpty then take 1 else pure path
      pure (text ++ (← takeClosureInputs p n))

def takeClosure (p : Parts) : Writing := do
  let opening ← takeSigns ['|']
  let inputs ← p.takeClosureInputs (← get).length
  let closing ← takeSigns ['|']
  pure (opening ++ inputs ++ closing ++ (← p.takeOutput true))

/-- A path that is an operand. What a macro is called with stays as it stands. -/
def takeNamed (p : Parts) (code : Code) (place : Place) : Taking (List Char × Place) := do
  let path ← p.takePath false
  match ← get with
  | .punct '!' _ :: .group b _ :: rest =>
    pure (path ++ (← take 2), place.afterGroup code b rest)
  | .punct '!' _ :: .ident _ :: .group b _ :: rest =>
    pure (path ++ (← take 3), place.afterGroup code b rest)
  | _ => pure (path, place.afterOperand)

def builtinCallFirst : List Token → Bool
  | .ident "builtin" :: .punct '#' _ :: .ident _ :: .group _ _ :: _ => true
  | _ => false

def unionFirst : List Token → Bool
  | .ident "union" :: .ident name :: _ => !keywords.contains name
  | _ => false

def takeCodeWord (p : Parts) (code : Code) (place : Place) (word : String) (rest : List Token) :
    Taking (List Char × Place) := do
  let isBlock := groupFirst .curly rest
  let standing? := if place.start && code = .statements && !isBlock then standingLength word rest
    else none
  if let some n := standing? then pure (← take n, Place.first code)
  else if definitionWords.contains word || (place.start && unionFirst (← get)) then
    pure (← p.takeDefinition, Place.first code)
  else if word = "extern" && (isBlock || groupFirst .curly (rest.drop 1)) then
    let words ← take (if isBlock then 1 else 2)
    pure (words ++ (← takeGroup fun _ => p.code .members), Place.first code)
  else if word = "pub" then pure (← takeVisibility, place)
  else if word = "for" && signsFirst ['<'] rest then pure (← p.takeBinder, place)
  else if word = "for" then
    pure (← take 1, { place.afterHeaderWord with binding := true })
  else if word = "in" then pure (← take 1, { place.afterOperator with binding := false })
  else if ["let", "static"].contains word || (word = "const" && !isBlock) then
    pure (← take 1, { place.afterOperator with binding := true })
  else if ["if", "while", "match", "loop", "unsafe", "mod", "extern", "const"].contains word
      || (word = "try" && isBlock) then
    pure (← take 1, place.afterHeaderWord)
  else if word = "box" then
    let pattern := do pure ((← take 1) ++ (← p.takePath false) ++ (← takeGroup fun _ => pure []))
    pure (← standing pattern, place.afterOperand)
  else if word = "become" then
    let value := do pure ((← take 1) ++ (← p.code .expression))
    pure (← standing value, place.afterOperand)
  else if ["true", "false", "_"].contains word then pure (← take 1, place.afterOperand)
  else if builtinCallFirst (← get) then pure (← take 4, place.afterOperand)
  else if keywords.contains word && !pathWords.contains word then
    pure (← take 1, place.afterOperator)
  else p.takeNamed code place

/-- The next tokens where an operand is expected, and the place after them. -/
def takeOperand (p : Parts) (code : Code) (place : Place) : Taking (List Char × Place) := do
  let ts ← get
  if attributeFirst ts then pure (← p.takeAttribute, place)
  else if signsFirst ['\''] ts then
    let lifetime ← take 2
    if colonFirst (ts.drop 2) then pure (lifetime ++ (← take 1), place)
    else pure (lifetime, place.afterOperator)
  else if signsFirst ['<'] ts then pure (← p.takeQualified false, place.afterOperand)
  else if signsFirst ['|'] ts then pure (← p.takeClosure, place.afterOperator)
  else if segmentFirst ts then p.takeNamed code place
  else if signsFirst [','] ts || signsFirst [';'] ts then pure (← take 1, Place.first code)
  else if signsFirst ['=', '>'] ts then pure (← take 2, Place.first code)
  else if signsFirst ['.', '.', '='] ts then pure (← take 3, place.afterOperator)
  else if signsFirst ['='] ts then
    pure (← take 1, { place.afterOperator with binding := false })
  else match ts with
    | .ident word :: rest => p.takeCodeWord code place word rest
    | .group b _ :: rest =>
      let text ← takeGroup fun b => p.code (if b = .curly then .statements else .expressions)
      pure (text, place.afterGroup code b rest)
    | .punct _ _ :: _ => pure (← take 1, place.afterOperator)
    | _ => pure (← take 1, place.afterOperand)

def takeOperator (p : Parts) (code : Code) (place : Place) : Taking (List Char × Place) := do
  let ts ← get
  if signsFirst ['?'] ts then pure (← take 1, place)
  else if signsFirst ['.', '.', '='] ts then pure (← take 3, place.afterOperator)
  else if signsFirst ['.', '.'] ts then pure (← take 2, place.afterOperator)
  else if signsFirst ['.'] ts then
    let name ← take 2
    pure (name ++ (← p.takeArguments false), place)
  else if signsFirst ['|', '|'] ts || signsFirst ['<', '<'] ts then
    pure (← take 2, place.afterOperator)
  else if signsFirst ['|'] ts || signsFirst ['<'] ts then pure (← take 1, place.afterOperator)
  else if place.binding && colonFirst ts then
    let colon ← take 1
    pure (colon ++ (← p.type true), { place with binding := false })
  else if wordFirst ["as"] ts then
    let word ← take 1
    pure (word ++ (← p.type false), place)
  else p.takeOperand code place

/-- Whether a run of code ends here. Commas and semicolons only separate, unless there is to be one
expression. -/
def codeEnds (code : Code) (ts : List Token) : Bool :=
  ts.isEmpty || (code = .expression && [',', ';'].any fun c => signsFirst [c] ts)

def takeCode (p : Parts) (code : Code) (place : Place) : Nat → Writing
  | 0 => pure []
  | n + 1 => do
    if codeEnds code (← get) then pure []
    else
      let (text, next) ←
        if place.operand then p.takeOperand code place else p.takeOperator code place
      pure (text ++ (← takeCode p code next n))

end Parts

end TableMapper.Declaration
