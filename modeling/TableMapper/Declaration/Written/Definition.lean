import TableMapper.Declaration.Written.Path

/-!
# Written definitions

Definitions that stand among statements. Parameters that are lifetimes come first; an empty list of
parameters, of conditions or of bounds is left out.
-/

namespace TableMapper.Declaration

/-- The words that begin a definition with parameters, with inputs or with a body of its own. -/
def definitionWords : List String := ["fn", "struct", "enum", "trait", "type", "impl"]

namespace Parts

def takeVisibility : Writing := do
  let word ← takeWord ["pub"]
  match ← get with
  | .group .round inner :: _ =>
    if !word.isEmpty && wordFirst ["crate", "self", "super", "in"] inner then
      pure (word ++ (← take 1))
    else pure word
  | _ => pure word

def takePlainField (p : Parts) : Writing := do
  let attributes ← p.takeAttributes
  let visibility ← takeVisibility
  pure (attributes ++ visibility ++ (← p.type true))

def takeChoice (p : Parts) : Writing := do
  let attributes ← p.takeAttributes
  let name ← take 1
  let fields ← takeGroup fun b =>
    if b = .round then separated p.takePlainField else p.code .fields
  let sign ← takeSigns ['=']
  if sign.isEmpty then pure (attributes ++ name ++ fields)
  else pure (attributes ++ name ++ fields ++ sign ++ (← p.code .expression))

def takeCondition (p : Parts) : Writing := do
  let ts ← get
  let subject ← if signsFirst ['\''] ts then take 2 else p.type true
  let colon ← takeSigns [':']
  pure (subject ++ colon ++ (← p.bounds true))

def conditionsEnd (ts : List Token) : Bool :=
  ts.isEmpty || groupFirst .curly ts || signsFirst [';'] ts || signsFirst ['='] ts

def takeConditionsWithin (p : Parts) : Nat → Writing
  | 0 => pure []
  | n + 1 => do
    if conditionsEnd (← get) then pure []
    else
      let condition ← p.takeCondition
      let comma ← takeSigns [',']
      if comma.isEmpty then pure condition
      else pure (condition ++ comma ++ (← takeConditionsWithin p n))

/-- The conditions after their word, which is left out if there are none. -/
def takeConditions (p : Parts) : Writing := do
  let word ← takeWord ["where"]
  let conditions ← p.takeConditionsWithin (← get).length
  pure (if conditions.isEmpty then [] else word ++ conditions)

/-- Parameters between angle brackets, which are left out if there are none. -/
def takeParameters (p : Parts) : Writing := do
  let text ← takeAngled lifetimesFirst p.takeParameter
  pure (if text = ['<', '>'] then [] else text)

def takeHeaderPart (p : Parts) (word : String) : Writing := do
  let ts ← get
  if signsFirst ['<'] ts then p.takeParameters
  else if signsFirst ['-', '>'] ts then p.takeOutput true
  else if colonFirst ts then p.takeColonBounds
  else if signsFirst ['='] ts then p.takeAssigned
  else if wordFirst ["where"] ts then p.takeConditions
  else if word = "impl" && !wordFirst ["for"] ts && !signsFirst ['!'] ts then p.type true
  else if groupFirst .round ts then
    takeGroup fun _ => if word = "fn" then p.code .fields else separated p.takePlainField
  else take 1

def takeBody (p : Parts) (word : String) : Writing :=
  takeGroup fun _ =>
    if word = "enum" then separated p.takeChoice
    else if word = "struct" || word = "union" then p.code .fields
    else if word = "trait" then p.code .members
    else p.code .statements

def takeHeader (p : Parts) (word : String) : Nat → Writing
  | 0 => pure []
  | n + 1 => do
    let ts ← get
    if groupFirst .curly ts then p.takeBody word
    else if ts.isEmpty || signsFirst [';'] ts then takeSigns [';']
    else
      let part ← p.takeHeaderPart word
      pure (part ++ (← takeHeader p word n))

def takeDefinition (p : Parts) : Writing := do
  match ← get with
  | .ident word :: ts =>
    let text ← take 1
    pure (text ++ (← p.takeHeader word ts.length))
  | _ => pure []

end Parts

/-- How many tokens a definition among statements has that stays as it stands: one that lacks its
body or its value, one that holds only for constants, and one of a macro. -/
def standingLength (word : String) (rest : List Token) : Option Nat :=
  let toEnd := rest.takeWhile (!signsFirst [';'] [·])
  let toBody := toEnd.takeWhile (!groupFirst .curly [·])
  let name := if wordFirst ["mut"] rest then rest.drop 1 else rest
  let after := name.drop 1
  let lacksValue := !toEnd.any (signsFirst ['='] [·])
  let stands : Bool := match word with
    | "fn" => toBody.length == toEnd.length
    | "type" => lacksValue || Parts.colonFirst after
    | "const" => (lacksValue && Parts.colonFirst after) || signsFirst ['<'] after
    | "static" => lacksValue && Parts.colonFirst after
    | _ => false
  if stands then some (toEnd.length + 2)
  else if word = "macro" || (word = "impl" && (wordFirst ["const"] rest || signsFirst ['?'] rest))
  then some (toBody.length + 2)
  else none

end TableMapper.Declaration
