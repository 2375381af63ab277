import TableMapper.Declaration.Scan

/-!
# Taking tokens

A writing takes tokens from the front of a list and gives the text for them. What it leaves stays
in the list, so that no token is lost.
-/

namespace TableMapper.Declaration

mutual

def plainToken : Token → List Char
  | .ident name => name.toList
  | .text written _ => written.toList
  | .literal written => written.toList
  | .punct c _ => [c]
  | .group b inner => b.opening :: plainText inner ++ [b.closing]

def plainText : List Token → List Char
  | [] => []
  | t :: ts => plainToken t ++ plainText ts

end

/-- Whether the signs come first, each following the one before it at once. -/
def signsFirst : List Char → List Token → Bool
  | [], _ => true
  | [c], .punct d _ :: _ => c == d
  | c :: cs, .punct d joint :: ts => c == d && joint && signsFirst cs ts
  | _, _ => false

def wordFirst (words : List String) : List Token → Bool
  | .ident name :: _ => words.contains name
  | _ => false

def groupFirst (b : Bracket) : List Token → Bool
  | .group a _ :: _ => a = b
  | _ => false

abbrev Taking := StateM (List Token)

abbrev Writing := Taking (List Char)

def take (n : Nat) : Writing := do
  let ts ← get
  set (ts.drop n)
  pure (plainText (ts.take n))

def takeSigns (signs : List Char) : Writing := do
  if signsFirst signs (← get) then take signs.length else pure []

def takeWord (words : List String) : Writing := do
  if wordFirst words (← get) then take 1 else pure []

/-- The text that a writing gives, or the tokens that it takes as they stand. -/
def standingIf (w : Taking (Bool × List Char)) : Writing := do
  let ts ← get
  let (standing, text) ← w
  let rest ← get
  pure (if standing then plainText (ts.take (ts.length - rest.length)) else text)

def standing (w : Writing) : Writing := standingIf (w.map (true, ·))

/-- Writes the tokens in brackets, of which none may be left over. -/
def inside (b : Bracket) (inner : List Token) (w : Writing) : List Char :=
  let (text, rest) := w.run inner
  b.opening :: text ++ plainText rest ++ [b.closing]

def takeGroup (w : Bracket → Writing) : Writing := do
  match ← get with
  | .group b inner :: ts =>
    set ts
    pure (inside b inner (w b))
  | _ => pure []

/-- Writes parts with commas between them; a comma may end the list. -/
def separatedWithin (w : Writing) : Nat → Writing
  | 0 => pure []
  | n + 1 => do
    if (← get).isEmpty then pure []
    else do
      let text ← w
      let comma ← takeSigns [',']
      if comma.isEmpty then pure text
      else pure (text ++ comma ++ (← separatedWithin w n))

def separated (w : Writing) : Writing := do separatedWithin w (← get).length

structure Entry where
  text : List Char
  lifetime : Bool
  comma : Bool
  deriving DecidableEq, Repr

/-- Entries with commas between them; the last one keeps its comma if it has one. -/
def entriesText : List Entry → List Char
  | [] => []
  | [e] => e.text ++ if e.comma then [','] else []
  | e :: es => e.text ++ ',' :: entriesText es

def lifetimesFirst (es : List Entry) : List Entry :=
  es.filter (·.lifetime) ++ es.filter (!·.lifetime)

/-- Entries up to a closing angle bracket. A part says as well whether it is a lifetime. -/
def takeEntries (w : Taking (Bool × List Char)) : Nat → Taking (List Entry)
  | 0 => pure []
  | n + 1 => do
    let ts ← get
    if ts.isEmpty || signsFirst ['>'] ts then pure []
    else do
      let (lifetime, text) ← w
      let comma ← takeSigns [',']
      if comma.isEmpty then pure [⟨text, lifetime, false⟩]
      else pure (⟨text, lifetime, true⟩ :: (← takeEntries w n))

def takeAngled (arrange : List Entry → List Entry) (w : Taking (Bool × List Char)) : Writing := do
  let opening ← takeSigns ['<']
  let es ← takeEntries w (← get).length
  let closing ← takeSigns ['>']
  pure (opening ++ entriesText (arrange es) ++ closing)

end TableMapper.Declaration
