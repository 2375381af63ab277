import TableMapper.Decimal.Layout
import TableMapper.Text.Basic

/-!
# JSON values

A value is kept as it was written: members of an object in the order of the text, repeated keys
included. The canonical form sorts the members of every object by key and keeps of a repeated key
only the last.

In the compact text of a value, strings escape the quote, the backslash and the characters below the
space; a number that is no finite number is written as null.
-/

namespace TableMapper

inductive Json
  | null
  | bool (b : Bool)
  | int (n : Int)
  | float (x : Float)
  | text (s : String)
  | list (items : List Json)
  | object (members : List (String × Json))

namespace Json

variable {α : Type}

/-- Puts a member in its place by key; it takes the place of one with the same key. -/
def insertMember (key : String) (a : α) : List (String × α) → List (String × α)
  | [] => [(key, a)]
  | (k, b) :: ms =>
    if k = key then (key, a) :: ms
    else if Text.before key k then (key, a) :: (k, b) :: ms
    else (k, b) :: insertMember key a ms

def sortMembers (ms : List (String × α)) : List (String × α) :=
  ms.foldl (fun sorted m => insertMember m.1 m.2 sorted) []

mutual

def canonical : Json → Json
  | list items => list (canonicalItems items)
  | object ms => object (sortMembers (canonicalMembers ms))
  | j => j

def canonicalItems : List Json → List Json
  | [] => []
  | j :: js => canonical j :: canonicalItems js

def canonicalMembers : List (String × Json) → List (String × Json)
  | [] => []
  | (k, j) :: ms => (k, canonical j) :: canonicalMembers ms

end

end Json

end TableMapper

namespace TableMapper.Json

def escape (c : Char) : List Char :=
  if c = '"' then ['\\', '"']
  else if c = '\\' then ['\\', '\\']
  else if c = '\x08' then ['\\', 'b']
  else if c = '\x0c' then ['\\', 'f']
  else if c = '\n' then ['\\', 'n']
  else if c = '\r' then ['\\', 'r']
  else if c = '\t' then ['\\', 't']
  else if c.toNat < 32 then
    ['\\', 'u', '0', '0', (c.toNat / 16).digitChar, (c.toNat % 16).digitChar]
  else [c]

def printText (s : String) : List Char := '"' :: s.toList.flatMap escape ++ ['"']

def isFinite (x : Float) : Bool :=
  match Decimal.Binary.ofFloat x with
  | .finite .. => true
  | _ => false

def printFloat (x : Float) : List Char :=
  if isFinite x then Decimal.Layout.json.render x else ['n', 'u', 'l', 'l']

mutual

def print : Json → List Char
  | null => ['n', 'u', 'l', 'l']
  | bool true => ['t', 'r', 'u', 'e']
  | bool false => ['f', 'a', 'l', 's', 'e']
  | int n => Decimal.intDigits n
  | float x => printFloat x
  | text s => printText s
  | list [] => ['[', ']']
  | list (j :: js) => '[' :: print j ++ printItems js
  | object [] => ['\x7b', '\x7d']
  | object ((k, j) :: ms) => '\x7b' :: printText k ++ ':' :: print j ++ printMembers ms

/-- The further items of a list, each after a comma, and the closing bracket. -/
def printItems : List Json → List Char
  | [] => [']']
  | j :: js => ',' :: print j ++ printItems js

def printMembers : List (String × Json) → List Char
  | [] => ['\x7d']
  | (k, j) :: ms => ',' :: printText k ++ ':' :: print j ++ printMembers ms

end

def render (j : Json) : String := String.ofList (print j)

end TableMapper.Json
