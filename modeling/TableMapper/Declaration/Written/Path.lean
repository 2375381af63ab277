import TableMapper.Declaration.Written.Taken

/-!
# Written paths

Paths with their arguments, the bounds of types, and the parameters of definitions. Arguments that
are lifetimes come first. A bound that holds only for constants stays as it stands.
-/

namespace TableMapper.Declaration

/-- What a run of code is made of: one expression or several with commas between them, the
statements of a block, the members of a trait, or fields. -/
inductive Code
  | expression
  | expressions
  | statements
  | members
  | fields
  deriving DecidableEq, Repr

/-- How the parts are written that other parts contain. A type or a bound may be one of several
with a plus sign between them. -/
structure Parts where
  type : (several : Bool) → Writing
  bounds : (several : Bool) → Writing
  code : Code → Writing

namespace Parts

def colonFirst (ts : List Token) : Bool :=
  signsFirst [':'] ts && !signsFirst [':', ':'] ts

def constantFirst : List Token → Bool
  | .literal _ :: _ => true
  | .text _ _ :: _ => true
  | .group .curly _ :: _ => true
  | .punct '-' _ :: .literal _ :: _ => true
  | _ => false

def takeConstant (p : Parts) : Writing := do
  let ts ← get
  if groupFirst .curly ts then takeGroup fun _ => p.code .statements
  else if signsFirst ['-'] ts then take 2
  else take 1

def takeAssigned (p : Parts) : Writing := do
  let sign ← takeSigns ['=']
  if sign.isEmpty then pure []
  else if constantFirst (← get) then pure (sign ++ (← p.takeConstant))
  else pure (sign ++ (← p.type true))

/-- An argument, and whether it is a lifetime; with further bounds a lifetime is a type. -/
def takeArgument (p : Parts) : Taking (Bool × List Char) := do
  let ts ← get
  if signsFirst ['\''] ts && !signsFirst ['+'] (ts.drop 2) then pure (true, ← take 2)
  else if constantFirst ts then pure (false, ← p.takeConstant)
  else do
    let argument ← p.type true
    if colonFirst (← get) then
      let colon ← take 1
      pure (false, argument ++ colon ++ (← p.bounds true))
    else pure (false, argument ++ (← p.takeAssigned))

/-- In a type arguments follow a name at once, in an expression only after two colons. -/
def takeArguments (p : Parts) (inType : Bool) : Writing := do
  let ts ← get
  if inType && signsFirst ['<'] ts then takeAngled lifetimesFirst p.takeArgument
  else if signsFirst [':', ':'] ts && signsFirst ['<'] (ts.drop 2) then
    let colons ← take 2
    pure (colons ++ (← takeAngled lifetimesFirst p.takeArgument))
  else pure []

def takeOutput (p : Parts) (several : Bool) : Writing := do
  let arrow ← takeSigns ['-', '>']
  if arrow.isEmpty then pure [] else pure (arrow ++ (← p.type several))

def inputsFirst (ts : List Token) : Bool :=
  groupFirst .round ts || (signsFirst [':', ':'] ts && groupFirst .round (ts.drop 2))

/-- The types in round brackets after a name, and the result. Colons before them are dropped. -/
def takeInputs (p : Parts) : Writing := do
  let _ ← takeSigns [':', ':']
  let inputs ← takeGroup fun _ => separated (p.type true)
  pure (inputs ++ (← p.takeOutput false))

def segmentFirst : List Token → Bool
  | .punct ':' true :: .punct ':' _ :: .ident _ :: _ => true
  | _ => false

/-- A path from a name on. Of a name with types in round brackets an empty list is dropped. -/
def takeSegments (p : Parts) (inType : Bool) : Nat → Writing
  | 0 => pure []
  | n + 1 => do
    let name ← take 1
    let arguments ← p.takeArguments inType
    let called := inType && arguments.all [':', '<', '>'].contains && inputsFirst (← get)
    let held ← if called then p.takeInputs else pure arguments
    if segmentFirst (← get) then
      let colons ← take 2
      pure (name ++ held ++ colons ++ (← takeSegments p inType n))
    else pure (name ++ held)

def takePath (p : Parts) (inType : Bool) : Writing := do
  let ts ← get
  match ts with
  | .ident _ :: _ => p.takeSegments inType ts.length
  | _ =>
    if segmentFirst ts then
      let colons ← take 2
      pure (colons ++ (← p.takeSegments inType ts.length))
    else pure []

def takeQualified (p : Parts) (inType : Bool) : Writing := do
  let opening ← takeSigns ['<']
  let type ← p.type true
  let word ← takeWord ["as"]
  let parent ← if word.isEmpty then pure [] else p.takePath true
  let closing ← takeSigns ['>']
  pure (opening ++ type ++ word ++ parent ++ closing ++ (← p.takePath inType))

/-- The content of an attribute. Only a value after an equals sign is read as an expression. -/
def takeOptions (p : Parts) : Writing := do
  let ts ← get
  let name := ts.takeWhile fun t => match t with
    | .ident _ => true
    | .punct c _ => c = ':'
    | _ => false
  let path ← take name.length
  let sign ← takeSigns ['=']
  if sign.isEmpty then pure (path ++ (← take ts.length))
  else pure (path ++ sign ++ (← p.code .expression))

def attributeFirst : List Token → Bool
  | .punct '#' _ :: .group .square _ :: _ => true
  | .punct '#' _ :: .punct '!' _ :: .group .square _ :: _ => true
  | _ => false

def takeAttribute (p : Parts) : Writing := do
  let sign ← takeSigns ['#']
  let mark ← takeSigns ['!']
  pure (sign ++ mark ++ (← takeGroup fun _ => p.takeOptions))

def takeAttributesWithin (p : Parts) : Nat → Writing
  | 0 => pure []
  | n + 1 => do
    if attributeFirst (← get) then
      let text ← p.takeAttribute
      pure (text ++ (← takeAttributesWithin p n))
    else pure []

def takeAttributes (p : Parts) : Writing := do p.takeAttributesWithin (← get).length

/-- A colon and bounds; without any bound the colon is dropped. -/
def takeColonBounds (p : Parts) : Writing := do
  if colonFirst (← get) then
    let colon ← take 1
    let bounds ← p.bounds true
    pure (if bounds.isEmpty then [] else colon ++ bounds)
  else pure []

def takeParameter (p : Parts) : Taking (Bool × List Char) := do
  let attributes ← p.takeAttributes
  let ts ← get
  if signsFirst ['\''] ts then
    let name ← take 2
    pure (true, attributes ++ name ++ (← p.takeColonBounds))
  else if wordFirst ["const"] ts then
    let name ← take 3
    let type ← p.type true
    pure (false, attributes ++ name ++ type ++ (← p.takeAssigned))
  else
    let name ← take 1
    let bounds ← p.takeColonBounds
    pure (false, attributes ++ name ++ bounds ++ (← p.takeAssigned))

def takeBinder (p : Parts) : Writing := do
  let ts ← get
  if wordFirst ["for"] ts && signsFirst ['<'] (ts.drop 1) then
    let word ← take 1
    pure (word ++ (← takeAngled id p.takeParameter))
  else pure []

def markLength : List Token → Nat
  | .group .square _ :: _ => 1
  | .punct '~' _ :: _ => 2
  | ts => if wordFirst ["const", "async"] ts then 1 else 0

def takeTrait (p : Parts) : Taking (Bool × List Char) := do
  let outer ← p.takeBinder
  let mark ← take (markLength (← get))
  let optional ← takeSigns ['?']
  let binder ← p.takeBinder
  pure (!mark.isEmpty, optional ++ outer ++ binder ++ (← p.takePath true))

def takeCaptured : Taking (Bool × List Char) := do
  if signsFirst ['\''] (← get) then pure (true, ← take 2) else pure (false, ← take 1)

def takeBound (p : Parts) : Writing := do
  let ts ← get
  if signsFirst ['\''] ts then take 2
  else if wordFirst ["use"] ts then
    let word ← take 1
    pure (word ++ (← takeAngled lifetimesFirst takeCaptured))
  else if groupFirst .round ts then takeGroup fun _ => standingIf p.takeTrait
  else standingIf p.takeTrait

def boundFirst (ts : List Token) : Bool :=
  match ts with
  | .ident name :: _ => name ≠ "where"
  | .group b _ :: _ => b ≠ .curly
  | _ => segmentFirst ts || ['\'', '?', '~'].any fun c => signsFirst [c] ts

def takeBounds (p : Parts) (several : Bool) : Nat → Writing
  | 0 => pure []
  | n + 1 => do
    if boundFirst (← get) then
      let bound ← p.takeBound
      let plus ← if several then takeSigns ['+'] else pure []
      if plus.isEmpty then pure bound
      else pure (bound ++ plus ++ (← takeBounds p several n))
    else pure []

end Parts

end TableMapper.Declaration
