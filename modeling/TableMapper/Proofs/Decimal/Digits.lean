import Mathlib.Data.List.Induction
import TableMapper.Decimal.Digits
import TableMapper.Proofs.Text.Basic

/-!
# Runs of digits inside a text

A run of digits that was written can be split off again from the text that follows it, as long as
that text does not go on with a digit.
-/

namespace TableMapper.Decimal

/-- The text does not begin with a digit, so a run of digits before it ends there. -/
def EndsDigits (rest : List Char) : Prop := ∀ c ∈ rest.head?, c.isDigit = false

@[simp] theorem endsDigits_nil : EndsDigits [] := by simp [EndsDigits]

@[simp] theorem endsDigits_cons {c : Char} {rest : List Char} :
    EndsDigits (c :: rest) ↔ c.isDigit = false := by simp [EndsDigits]

theorem value_eq_ofDigitChars (ds : List Char) : value ds = Nat.ofDigitChars 10 ds 0 := rfl

theorem digits_cons (n : Nat) :
    ∃ c cs, digits n = c :: cs ∧ c.isDigit = true ∧ ∀ d ∈ cs, d.isDigit = true := by
  obtain ⟨c, cs, he⟩ := List.exists_cons_of_ne_nil (digits_ne_nil n)
  have hd : ∀ d ∈ c :: cs, d.isDigit = true := fun d hm => isDigit_of_mem_digits (he ▸ hm)
  exact ⟨c, cs, he, hd c (by simp), fun d hm => hd d (by simp [hm])⟩

theorem length_digits_le {n width : Nat} (hw : 0 < width) (hn : n < Nat.pow 10 width) :
    (digits n).length ≤ width :=
  (Nat.length_toDigits_le_iff (by omega) hw).2 hn

theorem head?_digits_ne_zero {n : Nat} (hn : 0 < n) : (digits n).head? ≠ some '0' := by
  induction n using Nat.strongRecOn with
  | _ n ih =>
    unfold digits at *
    rw [Nat.toDigits_eq_if (by omega)]
    split
    · simp only [List.head?_cons, ne_eq, Option.some.injEq, Nat.digitChar_eq_zero]
      omega
    · obtain ⟨c, cs, he⟩ := List.exists_cons_of_ne_nil (digits_ne_nil (n / 10))
      rw [digits] at he
      have := ih (n / 10) (by omega) (by omega)
      simpa [he] using this

theorem isDigit_of_mem_padded {width n : Nat} {c : Char} (h : c ∈ padded width n) :
    c.isDigit = true := by
  rcases List.mem_append.1 h with hz | hd
  · rw [List.eq_of_mem_replicate hz]
    decide
  · exact isDigit_of_mem_digits hd

theorem padded_ne_nil (width n : Nat) : padded width n ≠ [] := by
  simp [padded, digits_ne_nil]

theorem length_padded {width n : Nat} (hw : 0 < width) (hn : n < Nat.pow 10 width) :
    (padded width n).length = width := by
  have := length_digits_le hw hn
  simp only [padded, List.length_append, List.length_replicate]
  omega

@[simp] theorem value_padded (width n : Nat) : value (padded width n) = n := by
  have h := value_digits n
  rw [value_eq_ofDigitChars] at h ⊢
  rw [padded, Nat.ofDigitChars_append, Nat.ofDigitChars_replicate_zero, Nat.mul_zero, h]

theorem digitValue_le {c : Char} (h : c.isDigit = true) : digitValue c ≤ 9 := by
  have hcode : 48 ≤ c.toNat ∧ c.toNat ≤ 57 := Char.isDigit_iff_toNat.1 h
  have hzero : '0'.toNat = 48 := by decide
  rw [digitValue, hzero]
  omega

theorem value_lt {ds : List Char} (h : ∀ c ∈ ds, c.isDigit = true) :
    value ds < Nat.pow 10 ds.length := by
  induction ds using List.reverseRecOn with
  | nil => decide
  | append_singleton ds c ih =>
    have hfront : value ds < Nat.pow 10 ds.length := by
      apply ih
      intro d hd
      exact h d (List.mem_append_left [c] hd)
    have hlast : digitValue c ≤ 9 := digitValue_le (h c (by simp))
    have hpow : Nat.pow 10 (ds.length + 1) = Nat.pow 10 ds.length * 10 :=
      Nat.pow_succ 10 ds.length
    rw [value_append_singleton, List.length_append, List.length_singleton, hpow]
    omega

theorem spanDigits_append {ds rest : List Char} (hd : ∀ c ∈ ds, c.isDigit = true)
    (hr : EndsDigits rest) : spanDigits (ds ++ rest) = (ds, rest) := by
  rw [spanDigits, List.takeWhile_append_of_pos hd, List.dropWhile_append_of_pos hd]
  cases rest with
  | nil => simp
  | cons c cs => simp [endsDigits_cons.1 hr]

theorem spanDigits_of_endsDigits {rest : List Char} (hr : EndsDigits rest) :
    spanDigits rest = ([], rest) := by
  have h := spanDigits_append (List.forall_mem_nil _) hr
  rwa [List.nil_append] at h

theorem isBlank_of_isDigit {c : Char} (h : c.isDigit = true) : Text.isBlank c = false := by
  have hd : 48 ≤ c.toNat ∧ c.toNat ≤ 57 := Char.isDigit_iff_toNat.1 h
  simp only [Text.isBlank, Text.within, Text.blankRanges, List.any_cons, List.any_nil,
    Bool.or_eq_false_iff, Bool.and_eq_false_iff, decide_eq_false_iff_not, and_true]
  omega

theorem trimStart_append {ds rest : List Char} (hd : ∀ c ∈ ds, c.isDigit = true) (hne : ds ≠ []) :
    Text.trimStart (ds ++ rest) = ds ++ rest :=
  Text.trimStart_of_noBlank hne fun c hc => isBlank_of_isDigit (hd c hc)

end TableMapper.Decimal
