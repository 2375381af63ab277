import TableMapper.Text.Basic
import TableMapper.Text.Quoted

/-!
# Tokens of declarations

The text inside the brackets of an attribute, like that of a type, is a list of tokens, in which
groups nest. Blanks and comments separate tokens; a comment that documents is itself an attribute.
The text is taken to be well formed: what follows an unclosed group or literal is not looked at.
-/

namespace TableMapper.Declaration

inductive Bracket
  | round
  | square
  | curly
  deriving DecidableEq, Repr

def Bracket.opening : Bracket → Char
  | round => '('
  | square => '['
  | curly => '\x7b'

def Bracket.closing : Bracket → Char
  | round => ')'
  | square => ']'
  | curly => '\x7d'

/-- A literal keeps the form in which it is written; that of a text has a value as well. A sign is
joint if another sign follows it at once. -/
inductive Token
  | ident (name : String)
  | text (written value : String)
  | literal (written : String)
  | punct (c : Char) (joint : Bool)
  | group (bracket : Bracket) (inner : List Token)

def keywords : List String :=
  ["_", "abstract", "as", "async", "await", "become", "box", "break", "const", "continue", "crate",
    "do", "dyn", "else", "enum", "extern", "false", "final", "fn", "for", "if", "impl", "in", "let",
    "loop", "macro", "match", "mod", "move", "mut", "override", "priv", "pub", "ref", "return",
    "Self", "self", "static", "struct", "super", "trait", "true", "try", "type", "typeof",
    "unsafe", "unsized", "use", "virtual", "where", "while", "yield"]

/-- Blanks between tokens; the two marks that set a direction of writing count as well. -/
def isGap (c : Char) : Bool := Text.isBlank c || c == '\u200e' || c == '\u200f'

/-- Names may hold any character beyond ASCII that separates no tokens. -/
def isNameStart (c : Char) : Bool :=
  c.isAlpha || c == '_' || (decide (128 ≤ c.toNat) && !isGap c)

def isNameChar (c : Char) : Bool := isNameStart c || c.isDigit

def afterName (cs : List Char) : List Char := cs.dropWhile isNameChar

def upTo (rest cs : List Char) : String := String.ofList (cs.take (cs.length - rest.length))

def scanEscape : List Char → Option Char × List Char
  | 'n' :: r => (some '\n', r)
  | 'r' :: r => (some '\r', r)
  | 't' :: r => (some '\t', r)
  | '0' :: r => (some '\x00', r)
  | 'x' :: a :: b :: r => (some (Char.ofNat (Text.hexNumber [a, b])), r)
  | 'u' :: '\x7b' :: r =>
    (some (Char.ofNat (Text.hexNumber (r.takeWhile (· ≠ '\x7d')))),
      (r.dropWhile (· ≠ '\x7d')).drop 1)
  | '\n' :: r => (none, r.dropWhile fun c => c == ' ' || c == '\n' || c == '\t' || c == '\r')
  | '\r' :: r => (none, r.dropWhile fun c => c == ' ' || c == '\n' || c == '\t' || c == '\r')
  | c :: r => (some c, r)
  | [] => (none, [])

def scanString : Nat → List Char → List Char × List Char
  | 0, cs => ([], cs)
  | _ + 1, [] => ([], [])
  | _ + 1, '"' :: r => ([], r)
  | fuel + 1, '\\' :: r =>
    let (c, r) := scanEscape r
    let (cs, r) := scanString fuel r
    (c.toList ++ cs, r)
  | fuel + 1, '\r' :: '\n' :: r =>
    let (cs, r) := scanString fuel r
    ('\n' :: cs, r)
  | fuel + 1, c :: r =>
    let (cs, r) := scanString fuel r
    (c :: cs, r)

/-- The contents of a raw string up to a quote with so many hashes after it. -/
def scanRaw (hashes : Nat) : List Char → List Char × List Char
  | [] => ([], [])
  | c :: r =>
    if c = '"' && (r.take hashes == List.replicate hashes '#') then ([], r.drop hashes)
    else
      let (cs, rest) := scanRaw hashes r
      (c :: cs, rest)

def afterCharacter : List Char → List Char
  | '\\' :: _ :: r => (r.dropWhile (· ≠ '\'')).drop 1
  | _ :: r => r.drop 1
  | [] => []

def isCharacter : List Char → Bool
  | '\\' :: _ => true
  | _ :: '\'' :: _ => true
  | _ => false

def opensRaw (cs : List Char) : Bool := (cs.dropWhile (· == '#')).head? == some '"'

def rawHashes (cs : List Char) : Nat := (cs.takeWhile (· == '#')).length

def literalBefore (rest cs : List Char) : Token × List Char := (.literal (upTo rest cs), rest)

def textBefore (value rest cs : List Char) : Token × List Char :=
  (.text (upTo rest cs) (String.ofList value), rest)

def scanWord (cs : List Char) : Token × List Char :=
  let name := String.ofList (cs.takeWhile isNameChar)
  let r := afterName cs
  if (name == "r" || name == "br" || name == "cr") && opensRaw r then
    let (inner, rest) := scanRaw (rawHashes r) (r.drop (rawHashes r + 1))
    if name == "r" then textBefore inner (afterName rest) cs else literalBefore (afterName rest) cs
  else if name == "r" && r.head? == some '#' then
    (.ident (name ++ "#" ++ String.ofList ((r.drop 1).takeWhile isNameChar)), afterName (r.drop 1))
  else if (name == "b" || name == "c") && r.head? == some '"' then
    literalBefore (afterName (scanString r.length (r.drop 1)).2) cs
  else if name == "b" && r.head? == some '\'' then
    literalBefore (afterName (afterCharacter (r.drop 1))) cs
  else (.ident name, r)

def afterNumber (cs : List Char) : List Char :=
  match afterName cs with
  | '.' :: c :: r => if c.isDigit then afterName (c :: r) else '.' :: c :: r
  | r => r

def signs : List Char := "~!@#$%^&*-=+|;:,<.>/?'".toList

/-- Whether a sign comes first; a comment is none. -/
def startsSign : List Char → Bool
  | '/' :: '/' :: _ => false
  | '/' :: '*' :: _ => false
  | c :: _ => signs.contains c
  | [] => false

/-- One token that is no group, from a text that is not empty and starts with no blank. -/
def scanSingle (c : Char) (r : List Char) : Token × List Char :=
  if c = '"' then
    let (inner, rest) := scanString (r.length + 1) r
    textBefore inner (afterName rest) (c :: r)
  else if c = '\'' && isCharacter r then literalBefore (afterName (afterCharacter r)) (c :: r)
  else if c.isDigit then literalBefore (afterNumber (c :: r)) (c :: r)
  else if isNameStart c then scanWord (c :: r)
  else (.punct c (startsSign r), r)

def scanLine : List Char → List Char × List Char
  | [] => ([], [])
  | '\n' :: r => ([], '\n' :: r)
  | '\r' :: '\n' :: r => ([], '\n' :: r)
  | c :: r =>
    let (cs, rest) := scanLine r
    (c :: cs, rest)

/-- A comment between slash and star, in which further ones nest, and what is left after it. -/
def scanBlock : Nat → List Char → List Char × List Char
  | 0, '*' :: '/' :: r => ([], r)
  | depth + 1, '*' :: '/' :: r =>
    let (cs, rest) := scanBlock depth r
    ('*' :: '/' :: cs, rest)
  | depth, '/' :: '*' :: r =>
    let (cs, rest) := scanBlock (depth + 1) r
    ('/' :: '*' :: cs, rest)
  | depth, c :: r =>
    let (cs, rest) := scanBlock depth r
    (c :: cs, rest)
  | _, [] => ([], [])

/-- The attribute for which a comment stands that documents: what follows, or what surrounds it. -/
def documenting (mark : List Token) (text : List Char) : List Token :=
  let s := String.ofList text
  .punct '#' false :: mark ++
    [.group .square [.ident "doc", .punct '=' false, .text (Text.quoted s) s]]

def lineTokens : List Char → List Token
  | '!' :: text => documenting [.punct '!' false] text
  | '/' :: '/' :: _ => []
  | '/' :: text => documenting [] text
  | _ => []

/-- The tokens of a comment between slash and star, which are not part of what is given. -/
def blockTokens : List Char → List Token
  | '!' :: text => documenting [.punct '!' false] text
  | ['*'] => []
  | '*' :: '*' :: _ => []
  | '*' :: text => documenting [] text
  | _ => []

def comment? : List Char → Option (List Token × List Char)
  | '/' :: '/' :: r =>
    let (text, rest) := scanLine r
    some (lineTokens text, rest)
  | '/' :: '*' :: r =>
    let (text, rest) := scanBlock 0 r
    some (blockTokens text, rest)
  | _ => none

def opening? (c : Char) : Option Bracket :=
  [Bracket.round, .square, .curly].find? (·.opening == c)

def isClosing (c : Char) : Bool := [Bracket.round, .square, .curly].any (·.closing == c)

/-- The tokens up to a closing bracket or the end, and what is left from there. -/
def scanTokens : Nat → List Char → List Token × List Char
  | 0, cs => ([], cs)
  | _ + 1, [] => ([], [])
  | fuel + 1, c :: r =>
    if isGap c then scanTokens fuel r
    else if isClosing c then ([], c :: r)
    else match comment? (c :: r) with
      | some (documentation, rest) =>
        let (ts, rest) := scanTokens fuel rest
        (documentation ++ ts, rest)
      | none =>
        match opening? c with
        | some bracket =>
          let (inner, rest) := scanTokens fuel r
          let (ts, rest) := scanTokens fuel (rest.drop 1)
          (.group bracket inner :: ts, rest)
        | none =>
          let (t, rest) := scanSingle c r
          let (ts, rest) := scanTokens fuel rest
          (t :: ts, rest)

def scan (s : String) : List Token := (scanTokens (s.toList.length + 1) s.toList).1

/-- The name in a text, which may stand between blanks and comments. -/
def scanName (s : String) : String :=
  match scan s with
  | .ident name :: _ => name
  | _ => s

end TableMapper.Declaration
