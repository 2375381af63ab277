import TableMapper.Json.Number
import TableMapper.Text.Basic

/-!
# Reading JSON

A reader takes the text that is left and answers with a value and what is left after it. Lists and
objects nest up to a limit. The readers of nested values spend a unit of fuel on every call; a
whole text is given more fuel than it has characters to spend it on.
-/

namespace TableMapper.Json

open Text (hexValue?)

def isSpace (c : Char) : Bool := c == ' ' || c == '\n' || c == '\t' || c == '\r'

def skipSpace (cs : List Char) : List Char := cs.dropWhile isSpace

def hexNumber? (a b c d : Char) : Option Nat := do
  let a ← hexValue? a
  let b ← hexValue? b
  let c ← hexValue? c
  let d ← hexValue? d
  return 4096 * a + 256 * b + 16 * c + d

def readHex (cs : List Char) : Except Fault (Nat × List Char) :=
  let found := match cs with
    | a :: b :: c :: d :: r => (hexNumber? a b c d).map (·, r)
    | _ => none
  match found with
  | some p => .ok p
  | none =>
    if Text.byteLength cs < 4 then .error (faultAt .endInString [])
    else .error ⟨.invalidEscape, Text.byteLength cs - 4⟩

/-- Reads the second half of a surrogate pair, which must follow the first at once. -/
def readLowSurrogate (cs : List Char) : Except Fault (Nat × List Char) :=
  match cs with
  | [] => .error (faultAt .endInString [])
  | '\\' :: [] => .error (faultAt .endInString [])
  | '\\' :: 'u' :: r => do
    let (low, rest) ← readHex r
    if 0xDC00 ≤ low ∧ low ≤ 0xDFFF then .ok (low, rest) else .error (faultAt .loneSurrogate rest)
  | '\\' :: r => .error (faultOn .endOfHexEscape r)
  | r => .error (faultOn .endOfHexEscape r)

def readUnicode (cs : List Char) : Except Fault (Char × List Char) := do
  let (n, rest) ← readHex cs
  if 0xDC00 ≤ n ∧ n ≤ 0xDFFF then .error (faultAt .loneSurrogate rest)
  else if 0xD800 ≤ n ∧ n ≤ 0xDBFF then
    let (low, rest) ← readLowSurrogate rest
    .ok (Char.ofNat (0x10000 + (n - 0xD800) * 0x400 + (low - 0xDC00)), rest)
  else .ok (Char.ofNat n, rest)

def readEscape : List Char → Except Fault (Char × List Char)
  | [] => .error (faultAt .endInString [])
  | '"' :: r => .ok ('"', r)
  | '\\' :: r => .ok ('\\', r)
  | '/' :: r => .ok ('/', r)
  | 'b' :: r => .ok ('\x08', r)
  | 'f' :: r => .ok ('\x0c', r)
  | 'n' :: r => .ok ('\n', r)
  | 'r' :: r => .ok ('\r', r)
  | 't' :: r => .ok ('\t', r)
  | 'u' :: r => readUnicode r
  | cs => .error (faultOn .invalidEscape cs)

def readCharacters : Nat → List Char → Except Fault (List Char × List Char)
  | 0, cs => .error (faultAt .endInString cs)
  | _ + 1, [] => .error (faultAt .endInString [])
  | fuel + 1, c :: r =>
    if c = '"' then .ok ([], r)
    else if c = '\\' then do
      let (d, r) ← readEscape r
      let (ds, r) ← readCharacters fuel r
      .ok (d :: ds, r)
    else if c.toNat < 32 then .error (faultAt .controlCharacter r)
    else do
      let (ds, r) ← readCharacters fuel r
      .ok (c :: ds, r)

def readString (cs : List Char) : Except Fault (String × List Char) := do
  let (ds, rest) ← readCharacters (cs.length + 1) cs
  .ok (String.ofList ds, rest)

def readWord (j : Json) : List Char → List Char → Except Fault (Json × List Char)
  | [], cs => .ok (j, cs)
  | _ :: _, [] => .error (faultAt .endInValue [])
  | w :: ws, c :: cs =>
    if c = w then readWord j ws cs else .error (faultOn .expectedIdent (c :: cs))

def readColon (cs : List Char) : Except Fault (List Char) :=
  match skipSpace cs with
  | [] => .error (faultAt .endInObject [])
  | ':' :: r => .ok r
  | r => .error (faultOn .expectedColon r)

/-- Finds the start of the next item of a list, or nothing after the last. -/
def nextItem (first : Bool) (cs : List Char) : Except Fault (Option (List Char) × List Char) :=
  match skipSpace cs with
  | [] => .error (faultAt .endInList [])
  | ']' :: r => .ok (none, r)
  | ',' :: r =>
    if first then .ok (some (',' :: r), [])
    else match skipSpace r with
      | [] => .error (faultAt .endInValue [])
      | ']' :: r => .error (faultOn .trailingComma (']' :: r))
      | r => .ok (some r, [])
  | r => if first then .ok (some r, []) else .error (faultOn .expectedCommaOrBracket r)

def nextKey (first : Bool) (cs : List Char) : Except Fault (Option (List Char) × List Char) :=
  match skipSpace cs with
  | [] => .error (faultAt .endInObject [])
  | '\x7d' :: r => .ok (none, r)
  | '"' :: r =>
    if first then .ok (some r, []) else .error (faultOn .expectedCommaOrBrace ('"' :: r))
  | ',' :: r =>
    if first then .error (faultOn .keyNotString (',' :: r))
    else match skipSpace r with
      | [] => .error (faultAt .endInValue [])
      | '"' :: r => .ok (some r, [])
      | '\x7d' :: r => .error (faultOn .trailingComma ('\x7d' :: r))
      | r => .error (faultOn .keyNotString r)
  | r =>
    .error (faultOn (if first then .keyNotString else .expectedCommaOrBrace) r)

mutual

/-- Reads a value, in which lists and objects may nest less than `depth` deep. -/
def readValue (fuel depth : Nat) (cs : List Char) : Except Fault (Json × List Char) :=
  match fuel with
  | 0 => .error (faultAt .tooDeep cs)
  | fuel + 1 =>
    match skipSpace cs with
    | [] => .error (faultAt .endInValue [])
    | 'n' :: r => readWord .null ['u', 'l', 'l'] r
    | 't' :: r => readWord (.bool true) ['r', 'u', 'e'] r
    | 'f' :: r => readWord (.bool false) ['a', 'l', 's', 'e'] r
    | '-' :: r => readNumber true r
    | '"' :: r => (readString r).map fun (s, rest) => (.text s, rest)
    | '[' :: r =>
      if depth ≤ 1 then .error (faultOn .tooDeep ('[' :: r))
      else (readItems fuel (depth - 1) true r).map fun (js, rest) => (.list js, rest)
    | '\x7b' :: r =>
      if depth ≤ 1 then .error (faultOn .tooDeep ('\x7b' :: r))
      else (readMembers fuel (depth - 1) true r).map fun (ms, rest) => (.object ms, rest)
    | c :: r => if c.isDigit then readNumber false (c :: r) else .error (faultOn .expectedValue (c :: r))

def readItems (fuel depth : Nat) (first : Bool) (cs : List Char) :
    Except Fault (List Json × List Char) :=
  match fuel with
  | 0 => .error (faultAt .tooDeep cs)
  | fuel + 1 => do
    match ← nextItem first cs with
    | (none, rest) => .ok ([], rest)
    | (some start, _) =>
      let (j, rest) ← readValue fuel depth start
      let (js, rest) ← readItems fuel depth false rest
      .ok (j :: js, rest)

def readMembers (fuel depth : Nat) (first : Bool) (cs : List Char) :
    Except Fault (List (String × Json) × List Char) :=
  match fuel with
  | 0 => .error (faultAt .tooDeep cs)
  | fuel + 1 => do
    match ← nextKey first cs with
    | (none, rest) => .ok ([], rest)
    | (some start, _) =>
      let (k, rest) ← readString start
      let rest ← readColon rest
      let (j, rest) ← readValue fuel depth rest
      let (ms, rest) ← readMembers fuel depth false rest
      .ok ((k, j) :: ms, rest)

end

def depthLimit : Nat := 128

def parseChars (cs : List Char) : Except Fault Json := do
  let (j, rest) ← readValue (2 * cs.length + 2) depthLimit cs
  match skipSpace rest with
  | [] => .ok j
  | r => .error (faultOn .trailingCharacters r)

def parse (s : String) : Except Fault Json := parseChars s.toList

end TableMapper.Json
