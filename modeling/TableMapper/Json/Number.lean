import TableMapper.Decimal.Digits
import TableMapper.Json.Basic
import TableMapper.Json.Fault

/-!
# Reading JSON numbers

A number is read into a significand of 64 bits and a power of ten. One without fraction and
exponent stays a whole number if it fits; any other becomes a double, by rounding the significand
and then scaling it once.
-/

namespace TableMapper.Json

open Decimal (digitValue spanDigits)

def faultAt (cause : Cause) (rest : List Char) : Fault := ⟨cause, Text.byteLength rest⟩

def faultOn (cause : Cause) (rest : List Char) : Fault := ⟨cause, Text.byteLength rest - 1⟩

/-- Reads digits into `n` as long as the result stays within the limit. -/
def absorb (limit n : Nat) : List Char → Nat × List Char
  | [] => (n, [])
  | c :: cs =>
    if c.isDigit && decide (10 * n + digitValue c ≤ limit) then
      absorb limit (10 * n + digitValue c) cs
    else (n, c :: cs)

def startsWithDigit : List Char → Bool
  | [] => false
  | c :: _ => c.isDigit

/-- The significand, rounded to a double, times a power of ten; nothing if that is too large. -/
def scale (significand : Nat) (e : Int) : Option Float :=
  let x := Float.ofNat significand
  if significand = 0 then some x
  else if 308 < e then none
  else if 0 ≤ e then
    let y := x * Float.ofScientific 1 false e.toNat
    if y.isInf then none else some y
  else if -308 ≤ e then some (x / Float.ofScientific 1 false (-e).toNat)
  else if -616 ≤ e then
    some (x / Float.ofScientific 1 false 308 / Float.ofScientific 1 false (-e - 308).toNat)
  else some 0

def signedFloat (negative : Bool) (x : Float) : Json := .float (if negative then -x else x)

def ofParts (negative : Bool) (significand : Nat) (e : Int) (rest : List Char) :
    Except Fault (Json × List Char) :=
  match scale significand e with
  | some x => .ok (signedFloat negative x, rest)
  | none => .error (faultAt .numberOutOfRange rest)

def exponentSign : List Char → Bool × List Char
  | '+' :: cs => (false, cs)
  | '-' :: cs => (true, cs)
  | cs => (false, cs)

/-- Reads the digits of an exponent of at most 31 bits. A larger one leaves only zero, or nothing
if it would make the number too large. -/
def readExponent (negative : Bool) (significand : Nat) (e : Int) (cs : List Char) :
    Except Fault (Json × List Char) :=
  let (down, cs) := exponentSign cs
  match cs with
  | [] => .error (faultAt .endInValue [])
  | c :: _ =>
    if c.isDigit then
      match absorb (Nat.pow 2 31 - 1) 0 cs with
      | (n, []) => ofParts negative significand (if down then e - n else e + n) []
      | (n, d :: r) =>
        if d.isDigit then
          if significand ≠ 0 && !down then .error (faultAt .numberOutOfRange r)
          else .ok (signedFloat negative 0, (spanDigits r).2)
        else ofParts negative significand (if down then e - n else e + n) (d :: r)
    else .error (faultOn .invalidNumber cs)

def readTail (negative : Bool) (significand : Nat) (e : Int) (cs : List Char) :
    Except Fault (Json × List Char) :=
  match cs with
  | 'e' :: r | 'E' :: r => readExponent negative significand e r
  | _ => ofParts negative significand e cs

/-- Reads the digits after the point; those that no longer fit into the significand are dropped. -/
def readFraction (negative : Bool) (significand : Nat) (e : Int) (cs : List Char) :
    Except Fault (Json × List Char) :=
  if startsWithDigit cs then
    let (n, rest) := absorb (UInt64.size - 1) significand cs
    readTail negative n (e - (cs.length - rest.length : Nat)) (spanDigits rest).2
  else .error (faultOn (if cs = [] then .endInValue else .invalidNumber) cs)

/-- A whole number; minus zero and what is below 64 bits with a sign are doubles. -/
def ofWhole (negative : Bool) (n : Nat) : Json :=
  if negative then
    if n = 0 ∨ Nat.pow 2 63 < n then signedFloat true (Float.ofNat n) else .int (-(n : Int))
  else .int n

/-- Reads what follows the leading digits, of which `dropped` did not fit into the significand. -/
def readAfterWhole (negative : Bool) (significand dropped : Nat) (cs : List Char) :
    Except Fault (Json × List Char) :=
  match cs with
  | '.' :: r => readFraction negative significand dropped r
  | 'e' :: r | 'E' :: r => readExponent negative significand dropped r
  | _ =>
    if dropped = 0 then .ok (ofWhole negative significand, cs)
    else ofParts negative significand dropped cs

/-- Reads a number after its sign. Only zero itself may begin with the digit zero. -/
def readNumber (negative : Bool) (cs : List Char) : Except Fault (Json × List Char) :=
  match cs with
  | [] => .error (faultAt .endInValue [])
  | '0' :: r =>
    if startsWithDigit r then .error (faultOn .invalidNumber r) else readAfterWhole negative 0 0 r
  | c :: _ =>
    if c.isDigit then
      let (n, rest) := absorb (UInt64.size - 1) 0 cs
      readAfterWhole negative n (spanDigits rest).1.length (spanDigits rest).2
    else .error (faultOn .invalidNumber cs)

end TableMapper.Json
