import TableMapper.Decimal.Digits

/-!
# Texts of floating-point numbers

A double is a whole number times a power of two. Of all decimals that round to it, the ones with
the fewest digits are kept, and of those the nearest. A layout says which exponents are written in
positional notation, whether a whole number keeps a point, and how an exponent is marked.
-/

namespace TableMapper.Decimal

/-- A double taken apart: a finite one is `± m · 2 ^ q`. -/
inductive Binary
  | nan
  | infinite (negative : Bool)
  | finite (negative : Bool) (m : Nat) (q : Int)
  deriving DecidableEq, Repr

def Binary.ofBits (bits : Nat) : Binary :=
  let negative := decide (Nat.pow 2 63 ≤ bits)
  let exponent : Nat := bits / Nat.pow 2 52 % Nat.pow 2 11
  let fraction : Nat := bits % Nat.pow 2 52
  if exponent = 2047 then
    if fraction = 0 then .infinite negative else .nan
  else if exponent = 0 then .finite negative fraction (-1074)
  else .finite negative (fraction + Nat.pow 2 52) ((exponent : Int) - 1075)

def Binary.ofFloat (x : Float) : Binary := .ofBits x.toBits.toNat

inductive Tie
  | even
  | up
  deriving DecidableEq, Repr

/-- Whether the number below `m · 2 ^ q` is only half as far away as the one above. -/
def narrowBelow (m : Nat) (q : Int) : Bool := m == Nat.pow 2 52 && decide (-1074 < q)

/-- The multiple `n` of `10 ^ e` that rounds to `m · 2 ^ q`, if there is one; the nearer of two. -/
def onGrid (tie : Tie) (m : Nat) (q e : Int) : Option Nat :=
  let step := Nat.pow 10 e.toNat * Nat.pow 2 (2 - q).toNat
  let unit := Nat.pow 10 (-e).toNat * Nat.pow 2 (q - 2).toNat
  let exact := 4 * m * unit
  let low := (4 * m - if narrowBelow m q then 1 else 2) * unit
  let high := (4 * m + 2) * unit
  let inside (n : Nat) : Bool :=
    if m % 2 = 0 then decide (low ≤ n * step) && decide (n * step ≤ high)
    else decide (low < n * step) && decide (n * step < high)
  let n := exact / step
  match inside n, inside (n + 1) with
  | false, false => none
  | true, false => some n
  | false, true => some (n + 1)
  | true, true =>
    let below := exact - n * step
    let above := (n + 1) * step - exact
    if below < above then some n
    else if above < below then some (n + 1)
    else match tie with
      | .up => some (n + 1)
      | .even => some (if n % 2 = 0 then n else n + 1)

def topExponent (m : Nat) (q : Int) : Int := (q + m.log2 + 1) * 30103 / 100000 + 1

/-- The fewest digits `n` and the exponent `e` with `n · 10 ^ e` rounding to `m · 2 ^ q`, tried on
ever finer grids. Seventeen digits always suffice. -/
def shortest (tie : Tie) (m : Nat) (q : Int) : Nat × Int :=
  let top := topExponent m q
  ((List.range 20).findSome? fun (i : Nat) =>
    (onGrid tie m q (top - i)).map fun n => (n, top - i)).getD (0, 0)

structure Layout where
  positional : Int → Bool
  pointZero : Bool
  plusSign : Bool
  tie : Tie

/-- Always positional, and a whole number has no point. -/
def Layout.plain : Layout := ⟨fun _ => true, false, false, .up⟩

/-- Positional from `0.0001` to below `1e16`, and a whole number ends in `.0`. -/
def Layout.detailed : Layout := ⟨fun s => decide (-4 ≤ s) && decide (s < 16), true, false, .up⟩

/-- Positional from `0.00001` to below `1e16`, with a sign on every exponent. -/
def Layout.json : Layout := ⟨fun s => decide (-5 ≤ s) && decide (s < 16), true, true, .even⟩

/-- Sets out `ds · 10 ^ e` with a decimal point and no exponent. -/
def Layout.setPositional (l : Layout) (ds : List Char) (e : Int) : List Char :=
  if 0 ≤ e then
    ds ++ List.replicate e.toNat '0' ++ if l.pointZero then ['.', '0'] else []
  else
    let before := (ds.length + e).toNat
    if before = 0 then
      ['0', '.'] ++ List.replicate (-e - ds.length).toNat '0' ++ ds
    else ds.take before ++ '.' :: ds.drop before

def Layout.setScientific (l : Layout) (ds : List Char) (s : Int) : List Char :=
  let fraction := if ds.length ≤ 1 then [] else '.' :: ds.drop 1
  let sign := if s < 0 then ['-'] else if l.plusSign then ['+'] else []
  ds.take 1 ++ fraction ++ 'e' :: sign ++ digits s.natAbs

def Layout.magnitude (l : Layout) (m : Nat) (q : Int) : List Char :=
  if m = 0 then
    '0' :: if l.pointZero then ['.', '0'] else []
  else
    let (n, e) := shortest l.tie m q
    let ds := digits n
    let s := e + ds.length - 1
    if l.positional s then l.setPositional ds e else l.setScientific ds s

def signed (negative : Bool) (cs : List Char) : List Char := if negative then '-' :: cs else cs

def Layout.render (l : Layout) (x : Float) : List Char :=
  match Binary.ofFloat x with
  | .nan => ['N', 'a', 'N']
  | .infinite negative => signed negative ['i', 'n', 'f']
  | .finite negative m q => signed negative (l.magnitude m q)

end TableMapper.Decimal
