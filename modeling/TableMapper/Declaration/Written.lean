import TableMapper.Declaration.Written.Code
import TableMapper.Declaration.Written.Path

/-!
# Text of types

The text of a type of any kind from its tokens, without spaces. Among the arguments of a path the
lifetimes come first, with a comma after each argument but the last. What a macro is called with, and
a type that only the compiler knows, stay as they stand.
-/

namespace TableMapper.Declaration

namespace Parts

/-- An input of a function type: perhaps a name and a colon, then a type. Dots stand for further
inputs. -/
def takeInput (p : Parts) : Writing := do
  let attributes ← p.takeAttributes
  let ts ← get
  if wordFirst ["mut"] ts && wordFirst ["self"] (ts.drop 1) then
    let self ← standing do
      let name ← take 2
      if colonFirst (← get) then pure (name ++ (← take 1) ++ (← p.type true)) else pure name
    pure (attributes ++ self)
  else
    let name ← match ts with
      | .ident _ :: r => if colonFirst r then take 2 else pure []
      | _ => pure []
    pure (attributes ++ name ++ (← p.type true))

def takeFunctionType (p : Parts) : Writing := do
  let ts ← get
  let words ← take (ts.takeWhile (!groupFirst .round [·])).length
  let inputs ← takeGroup fun _ => separated p.takeInput
  pure (words ++ inputs ++ (← p.takeOutput false))

def takeFurtherBounds (p : Parts) (several : Bool) : Writing := do
  let plus ← if several then takeSigns ['+'] else pure []
  if plus.isEmpty then pure [] else pure (plus ++ (← p.bounds true))

/-- A path, a macro call or bounds. Lifetimes that a macro call holds for are dropped. -/
def takeNamedType (p : Parts) (binder : List Char) (several : Bool) : Writing := do
  let path ← p.takePath true
  match ← get with
  | .punct '!' _ :: .group _ _ :: _ => pure (path ++ (← take 2))
  | _ => pure (binder ++ path ++ (← p.takeFurtherBounds several))

/-- The tokens of a bound in brackets that stand in brackets again. -/
def doubleBrackets? : List Token → Option (List Token)
  | [.group .round inner] => if signsFirst ['?'] inner then some inner else none
  | _ => none

/-- Types in round brackets. Of two pairs of brackets around a first bound one is dropped. -/
def takeBracketed (p : Parts) (several : Bool) : Writing := do
  match ← get with
  | .group .round inner :: ts =>
    set ts
    let further ← p.takeFurtherBounds several
    let kept := if further.isEmpty then inner else (doubleBrackets? inner).getD inner
    let held := if signsFirst ['?'] kept then p.bounds false else separated (p.type true)
    pure (inside .round kept held ++ further)
  | _ => pure []

def takeElements (p : Parts) : Writing := do
  let element ← p.type true
  let sign ← takeSigns [';']
  if sign.isEmpty then pure element
  else pure (element ++ sign ++ (← p.code .expression))

def functionWords : List String := ["fn", "unsafe", "extern"]

def builtinFirst : List Token → Bool
  | .ident "builtin" :: .punct '#' _ :: .ident _ :: .group .round _ :: _ => true
  | _ => false

def takeType (p : Parts) (several : Bool) : Writing := do
  let ts ← get
  if wordFirst ["for"] ts then
    let binder ← p.takeBinder
    if wordFirst functionWords (← get) then pure (binder ++ (← p.takeFunctionType))
    else p.takeNamedType binder several
  else if wordFirst functionWords ts then p.takeFunctionType
  else if builtinFirst ts then take 4
  else if wordFirst ["dyn"] ts && signsFirst ['*'] (ts.drop 1) then
    standing do
      let words ← take 2
      pure (words ++ (← p.bounds several))
  else if wordFirst ["dyn", "impl"] ts then
    let word ← take 1
    pure (word ++ (← p.bounds several))
  else if wordFirst ["_"] ts || signsFirst ['!'] ts then take 1
  else if groupFirst .round ts then p.takeBracketed several
  else if groupFirst .square ts then takeGroup fun _ => p.takeElements
  else if signsFirst ['*'] ts then
    let pointer ← take 2
    pure (pointer ++ (← p.type false))
  else if signsFirst ['&'] ts then
    let sign ← take 1
    let lifetime ← if signsFirst ['\''] (← get) then take 2 else pure []
    let word ← takeWord ["mut"]
    pure (sign ++ lifetime ++ word ++ (← p.type false))
  else if signsFirst ['\''] ts then p.bounds true
  else if signsFirst ['<'] ts then p.takeQualified true
  else p.takeNamedType [] several

def empty : Parts where
  type _ := pure []
  bounds _ := pure []
  code _ := pure []

def around (p : Parts) : Parts where
  type several := p.takeType several
  bounds several := do p.takeBounds several (← get).length
  code c := do p.takeCode c (Place.first c) (← get).length

/-- The parts in which others nest at most so deep. -/
def ofDepth : Nat → Parts
  | 0 => empty
  | depth + 1 => (ofDepth depth).around

end Parts

/-- The text of a type. No part nests deeper than the text is long, and each adds two at most. -/
def typeText (tokens : List Token) : String :=
  let (text, rest) := ((Parts.ofDepth (2 * (plainText tokens).length + 2)).type true).run tokens
  String.ofList ((text ++ plainText rest).filter (· ≠ ' '))

end TableMapper.Declaration
