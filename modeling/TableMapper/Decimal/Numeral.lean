import TableMapper.Decimal.Digits

/-!
# Reading numbers

Texts of whole and of floating-point numbers. A number is read exactly as a significand and a
power of ten, and rounded once, to the nearest number of the wanted width.
-/

namespace TableMapper.Decimal

/-- A number as it is written: a finite one is `± significand · 10 ^ exponent`. -/
inductive Numeral
  | nan
  | infinite (negative : Bool)
  | finite (negative : Bool) (significand : Nat) (exponent : Int)
  deriving DecidableEq, Repr

/-- Splits off one optional sign; `true` stands for minus. -/
def splitSign : List Char → Bool × List Char
  | '-' :: cs => (true, cs)
  | '+' :: cs => (false, cs)
  | cs => (false, cs)

def signedInt (negative : Bool) (n : Nat) : Int := if negative then -(n : Int) else n

def digitRun? (cs : List Char) : Option Nat :=
  if cs ≠ [] ∧ cs.all Char.isDigit then some (value cs) else none

def readInt? (cs : List Char) : Option Int :=
  (digitRun? (splitSign cs).2).map (signedInt (splitSign cs).1)

def readExponent? : List Char → Option Int
  | [] => some 0
  | 'e' :: cs | 'E' :: cs => readInt? cs
  | _ => none

/-- Digits with an optional point, at least one digit in all, and an optional power of ten. -/
def readFinite? (negative : Bool) (cs : List Char) : Option Numeral :=
  let whole := (spanDigits cs).1
  let rest := (spanDigits cs).2
  let fraction := match rest with
    | '.' :: r => (spanDigits r).1
    | _ => []
  let tail := match rest with
    | '.' :: r => (spanDigits r).2
    | r => r
  if whole = [] ∧ fraction = [] then none
  else (readExponent? tail).map fun e =>
    .finite negative (value (whole ++ fraction)) (e - fraction.length)

def readNumeral? (cs : List Char) : Option Numeral :=
  let (negative, body) := splitSign cs
  let word := body.map Char.toLower
  if word = "inf".toList ∨ word = "infinity".toList then some (.infinite negative)
  else if word = "nan".toList then some .nan
  else readFinite? negative body

/-- The significand and exponent of a decimal that is far above or below every double are brought
near the end of the range, where they round the same way. -/
def clamp (significand : Nat) (exponent : Int) : Nat × Int :=
  let top := exponent + (digits significand).length
  if significand = 0 then (0, 0)
  else if 400 < top then (1, 400)
  else if top < -400 then (1, -400)
  else (significand, exponent)

def Numeral.toFloat : Numeral → Float
  | .nan => 0.0 / 0.0
  | .infinite negative => if negative then -1.0 / 0.0 else 1.0 / 0.0
  | .finite negative significand exponent =>
    let (m, e) := clamp significand exponent
    let x := Float.ofScientific m (decide (e < 0)) e.natAbs
    if negative then -x else x

def Numeral.toFloat32 : Numeral → Float32
  | .nan => 0.0 / 0.0
  | .infinite negative => if negative then -1.0 / 0.0 else 1.0 / 0.0
  | .finite negative significand exponent =>
    let (m, e) := clamp significand exponent
    let x := Float32.ofScientific m (decide (e < 0)) e.natAbs
    if negative then -x else x

def readFloat? (cs : List Char) : Option Float := (readNumeral? cs).map Numeral.toFloat

def int64? (n : Int) : Option Int64 :=
  if Int64.minValue.toInt ≤ n ∧ n ≤ Int64.maxValue.toInt then some (Int64.ofInt n) else none

def readInt64? (cs : List Char) : Option Int64 := (readInt? cs).bind int64?

theorem toInt_of_int64? {n : Int} {x : Int64} (h : int64? n = some x) : x.toInt = n := by
  rw [int64?] at h
  split at h
  · rename_i bounds
    cases h
    have hlow := Int64.toInt_minValue
    have hhigh := Int64.toInt_maxValue
    exact Int64.toInt_ofInt_of_le (by omega) (by omega)
  · simp at h

end TableMapper.Decimal
