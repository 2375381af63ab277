/-!
# Decimal digits

Whole numbers as runs of decimal digits: writing them, padding them to a width, and reading the
value of a run.
-/

namespace TableMapper.Decimal

def digits (n : Nat) : List Char := Nat.toDigits 10 n

/-- The digits of a number with leading zeros up to a width. -/
def padded (width n : Nat) : List Char :=
  List.replicate (width - (digits n).length) '0' ++ digits n

def digitValue (c : Char) : Nat := c.toNat - '0'.toNat

def value (ds : List Char) : Nat := ds.foldl (fun n c => 10 * n + digitValue c) 0

def intDigits (n : Int) : List Char :=
  if n < 0 then '-' :: digits n.natAbs else digits n.natAbs

def intText (n : Int) : String := String.ofList (intDigits n)

def spanDigits (cs : List Char) : List Char × List Char :=
  (cs.takeWhile Char.isDigit, cs.dropWhile Char.isDigit)

theorem isDigit_of_mem_digits {n : Nat} {c : Char} (h : c ∈ digits n) : c.isDigit = true :=
  Nat.isDigit_of_mem_toDigits (by omega) (by omega) h

theorem digits_ne_nil (n : Nat) : digits n ≠ [] := Nat.toDigits_ne_nil

theorem value_append_singleton (ds : List Char) (c : Char) :
    value (ds ++ [c]) = 10 * value ds + digitValue c := by
  simp [value, List.foldl_append]

theorem digitValue_digitChar {d : Nat} (h : d < 10) : digitValue d.digitChar = d := by
  have := Nat.toNat_digitChar_of_lt_ten h
  have zero : '0'.toNat = 48 := by decide
  simp only [digitValue, zero]
  omega

theorem value_digits (n : Nat) : value (digits n) = n := by
  induction n using Nat.strongRecOn with
  | _ n ih =>
    unfold digits at *
    rw [Nat.toDigits_eq_if (by omega)]
    split
    · rename_i small
      have := value_append_singleton [] n.digitChar
      simp only [List.nil_append] at this
      rw [this, digitValue_digitChar small]
      simp [value]
    · rw [value_append_singleton, ih (n / 10) (by omega),
        digitValue_digitChar (Nat.mod_lt _ (by omega))]
      omega

end TableMapper.Decimal
