import TableMapper.Json.Basic
import TableMapper.Proofs.Decimal.Layout
import TableMapper.Proofs.Json.Tokens

/-!
# Numbers without an exponent

The plain layout writes a finite number as digits, perhaps with a point and more digits behind it, and
a minus before it where it is negative. A number that is not finite is written as a word.
-/

namespace TableMapper.Decimal

open Json (IsFraction isFinite)

/-- Digits behind an optional minus, and perhaps a point with more digits. -/
inductive IsPlain : List Char → Prop
  | parts {negative : Bool} {ds fraction : List Char} (hne : ds ≠ [])
      (hds : ∀ c ∈ ds, c.isDigit = true) (hfraction : IsFraction fraction) :
      IsPlain (signed negative (ds ++ fraction))

def isPlainChar (c : Char) : Bool := c.isDigit || c == '-' || c == '.'

theorem isPlainChar_of_isDigit {c : Char} (h : c.isDigit = true) : isPlainChar c = true := by
  rw [isPlainChar, h, Bool.true_or, Bool.true_or]

theorem IsPlain.isPlainChar {cs : List Char} (h : IsPlain cs) : ∀ c ∈ cs, isPlainChar c = true := by
  intro c hc
  cases h with
  | parts hne hds hfraction =>
    rcases mem_signed hc with rfl | hc
    · decide
    rcases List.mem_append.1 hc with hc | hc
    · exact isPlainChar_of_isDigit (hds c hc)
    cases hfraction with
    | none => cases hc
    | point hne hds =>
      rcases List.mem_cons.1 hc with rfl | hc
      · decide
      · exact isPlainChar_of_isDigit (hds c hc)

theorem isPlain_intDigits (n : Int) : IsPlain (intDigits n) := by
  have hdigits : ∀ negative, IsPlain (signed negative (digits n.natAbs)) := by
    intro negative
    have hparts : IsPlain (signed negative (digits n.natAbs ++ [])) :=
      .parts (digits_ne_nil _) (fun _ => isDigit_of_mem_digits) .none
    rwa [List.append_nil] at hparts
  rw [intDigits]
  split
  · exact hdigits true
  · exact hdigits false

namespace Layout

theorem replicate_zero_digits {n : Nat} : ∀ c ∈ List.replicate n '0', c.isDigit = true := by
  intro c hc
  rw [List.eq_of_mem_replicate hc]
  decide

theorem zero_isDigit : ∀ c ∈ ['0'], c.isDigit = true :=
  List.forall_mem_singleton.2 (by decide)

theorem setPositional_plain {ds : List Char} (hne : ds ≠ []) (hds : ∀ c ∈ ds, c.isDigit = true)
    (e : Int) : ∃ whole fraction, plain.setPositional ds e = whole ++ fraction ∧ whole ≠ [] ∧
      (∀ c ∈ whole, c.isDigit = true) ∧ IsFraction fraction := by
  rw [setPositional]
  split
  · refine ⟨ds ++ List.replicate e.toNat '0', [], rfl, by simp [hne], fun c hc => ?_, .none⟩
    rcases List.mem_append.1 hc with hc | hc
    · exact hds c hc
    · exact replicate_zero_digits c hc
  · rename_i he
    have hlength := List.length_pos_of_ne_nil hne
    simp only
    split
    · refine ⟨['0'], '.' :: (List.replicate (-e - ds.length).toNat '0' ++ ds), by simp, by simp,
        zero_isDigit, .point (by simp [hne]) fun c hc => ?_⟩
      rcases List.mem_append.1 hc with hc | hc
      · exact replicate_zero_digits c hc
      · exact hds c hc
    · rename_i hbefore
      refine ⟨_, _, rfl, ?_, fun c hc => hds c (List.mem_of_mem_take hc),
        .point ?_ fun c hc => hds c (List.mem_of_mem_drop hc)⟩
      · rw [← List.length_pos_iff, List.length_take]
        omega
      · rw [← List.length_pos_iff, List.length_drop]
        omega

theorem plain_magnitude {m : Nat} (hm : m ≠ 0) (q : Int) : plain.magnitude m q =
    plain.setPositional (digits (shortest .up m q).1) (shortest .up m q).2 := by
  rw [magnitude, if_neg hm]
  rfl

theorem isPlain_magnitude (negative : Bool) (m : Nat) (q : Int) :
    IsPlain (signed negative (plain.magnitude m q)) := by
  by_cases hm : m = 0
  · have hzero : IsPlain (signed negative (['0'] ++ [])) := .parts (by simp) zero_isDigit .none
    rw [magnitude, if_pos hm]
    exact hzero
  · obtain ⟨whole, fraction, he, hne, hds, hfraction⟩ := setPositional_plain
      (digits_ne_nil (shortest .up m q).1) (fun _ => isDigit_of_mem_digits) (shortest .up m q).2
    rw [plain_magnitude hm, he]
    exact .parts hne hds hfraction

theorem isPlain_render {x : Float} (h : isFinite x = true) : IsPlain (plain.render x) := by
  rw [isFinite] at h
  rw [render]
  cases hb : Binary.ofFloat x with
  | nan => simp [hb] at h
  | infinite negative => simp [hb] at h
  | finite negative m q => exact isPlain_magnitude negative m q

theorem render_of_not_finite {x : Float} (h : isFinite x = false) :
    plain.render x ∈ [['N', 'a', 'N'], ['i', 'n', 'f'], ['-', 'i', 'n', 'f']] := by
  rw [isFinite] at h
  rw [render]
  cases hb : Binary.ofFloat x with
  | nan => simp
  | infinite negative => cases negative <;> simp [signed]
  | finite negative m q => simp [hb] at h

end Layout

end TableMapper.Decimal
