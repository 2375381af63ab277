import Mathlib.Data.List.Forall2
import TableMapper.Text.Basic

/-!
# Trimming, and the case of letters

Trimming takes blanks off both ends of a text and nothing else, so a word without blanks is left
whole, however many blanks stand around it.

Only the letters of ASCII are put into another case, and each has its place in the alphabet in both.
So a text in capitals is the same whatever case its letters had, and no other character changes.
-/

namespace TableMapper.Text

/-- The text is the word with blanks, or nothing, on either side. -/
def Padded (word cs : List Char) : Prop :=
  ∃ before after, cs = before ++ word ++ after ∧ (∀ c ∈ before, isBlank c = true) ∧
    ∀ c ∈ after, isBlank c = true

theorem trimStart_padded {before cs : List Char} (h : ∀ c ∈ before, isBlank c = true) :
    trimStart (before ++ cs) = trimStart cs :=
  List.dropWhile_append_of_pos h

theorem trimEnd_padded {cs after : List Char} (h : ∀ c ∈ after, isBlank c = true) :
    trimEnd (cs ++ after) = trimEnd cs := by
  have hafter : ∀ c ∈ after.reverse, isBlank c = true := fun c hc => h c (List.mem_reverse.1 hc)
  rw [trimEnd, List.reverse_append, List.dropWhile_append_of_pos hafter, trimEnd]

theorem padded_trim (cs : List Char) : Padded (trim cs) cs := by
  refine ⟨cs.takeWhile isBlank, ((trimStart cs).reverse.takeWhile isBlank).reverse, ?_, ?_, ?_⟩
  · have hend : trim cs ++ ((trimStart cs).reverse.takeWhile isBlank).reverse = trimStart cs := by
      rw [trim, trimEnd, ← List.reverse_append, List.takeWhile_append_dropWhile,
        List.reverse_reverse]
    rw [List.append_assoc, hend, trimStart, List.takeWhile_append_dropWhile]
  · exact fun c hc => List.all_eq_true.1 List.all_takeWhile c hc
  · exact fun c hc => List.all_eq_true.1 List.all_takeWhile c (List.mem_reverse.1 hc)

theorem trimStart_of_noBlank {cs after : List Char} (hne : cs ≠ [])
    (h : ∀ c ∈ cs, isBlank c = false) : trimStart (cs ++ after) = cs ++ after := by
  obtain ⟨c, cs, rfl⟩ := List.exists_cons_of_ne_nil hne
  exact trimStart_of_not_blank (h c List.mem_cons_self)

theorem trimEnd_append_of_not_blank {cs : List Char} {c : Char} (h : isBlank c = false) :
    trimEnd (cs ++ [c]) = cs ++ [c] := by
  have hc : ¬isBlank c = true := by simp [h]
  rw [trimEnd, List.reverse_append, List.reverse_singleton, List.singleton_append,
    List.dropWhile_cons_of_neg hc, List.reverse_cons, List.reverse_reverse]

theorem Padded.trim_eq {word cs : List Char} (h : Padded word cs) (hne : word ≠ [])
    (hword : ∀ c ∈ word, isBlank c = false) : trim cs = word := by
  obtain ⟨before, after, rfl, hbefore, hafter⟩ := h
  have hlast := List.dropLast_concat_getLast hne
  rw [trim, List.append_assoc, trimStart_padded hbefore, trimStart_of_noBlank hne hword,
    trimEnd_padded hafter, ← hlast]
  exact trimEnd_append_of_not_blank (hword _ (List.getLast_mem hne))

variable {c d : Char}

theorem isAlpha_iff (c : Char) :
    c.isAlpha = true ↔ 65 ≤ c.toNat ∧ c.toNat ≤ 90 ∨ 97 ≤ c.toNat ∧ c.toNat ≤ 122 := by
  delta Char.isAlpha Char.isUpper Char.isLower
  simp only [Bool.or_eq_true, Bool.and_eq_true, decide_eq_true_eq, ge_iff_le,
    UInt32.le_iff_toNat_le]
  exact Iff.rfl

theorem toNat_toUpper (c : Char) :
    c.toUpper.toNat = if 97 ≤ c.toNat ∧ c.toNat ≤ 122 then c.toNat - 32 else c.toNat := by
  have hcode : c.val.toNat = c.toNat := rfl
  have hshift : ('A'.val - 'a'.val).toNat = 2 ^ 32 - 32 := by decide
  have hlower : 'a'.val ≤ c.val ∧ c.val ≤ 'z'.val ↔ 97 ≤ c.toNat ∧ c.toNat ≤ 122 := by
    simp only [UInt32.le_iff_toNat_le]
    exact Iff.rfl
  delta Char.toUpper
  split
  · rename_i h
    have hsum := UInt32.toNat_add c.val ('A'.val - 'a'.val)
    have hbounds := hlower.1 h
    rw [hcode, hshift] at hsum
    rw [if_pos hbounds]
    exact hsum.trans (by omega)
  · rename_i h
    rw [if_neg (mt hlower.2 h)]

theorem toNat_toLower (c : Char) :
    c.toLower.toNat = if 65 ≤ c.toNat ∧ c.toNat ≤ 90 then c.toNat + 32 else c.toNat := by
  have hcode : c.val.toNat = c.toNat := rfl
  have hshift : ('a'.val - 'A'.val).toNat = 32 := by decide
  have hupper : c.val ≥ 'A'.val ∧ c.val ≤ 'Z'.val ↔ 65 ≤ c.toNat ∧ c.toNat ≤ 90 := by
    simp only [ge_iff_le, UInt32.le_iff_toNat_le]
    exact Iff.rfl
  delta Char.toLower
  split
  · rename_i h
    have hsum := UInt32.toNat_add c.val ('a'.val - 'A'.val)
    have hbounds := hupper.1 h
    rw [hcode, hshift] at hsum
    rw [if_pos hbounds]
    exact hsum.trans (by omega)
  · rename_i h
    rw [if_neg (mt hupper.2 h)]

theorem toUpper_toUpper (c : Char) : c.toUpper.toUpper = c.toUpper := by
  apply Char.toNat_inj.1
  rw [toNat_toUpper c.toUpper, toNat_toUpper c]
  grind

theorem toUpper_toLower (c : Char) : c.toLower.toUpper = c.toUpper := by
  apply Char.toNat_inj.1
  rw [toNat_toUpper, toNat_toUpper, toNat_toLower]
  grind

theorem isAlpha_toUpper (c : Char) : c.toUpper.isAlpha = c.isAlpha := by
  rw [Bool.eq_iff_iff, isAlpha_iff, isAlpha_iff, toNat_toUpper]
  split <;> omega

theorem toUpper_eq_iff (hd : d.isAlpha = false) : c.toUpper = d ↔ c = d := by
  have hcode := mt (isAlpha_iff d).2 (Bool.eq_false_iff.1 hd)
  rw [← Char.toNat_inj, ← Char.toNat_inj, toNat_toUpper]
  split <;> omega

theorem isBlank_toUpper (c : Char) : isBlank c.toUpper = isBlank c := by
  rw [Bool.eq_iff_iff]
  simp only [isBlank, within_iff, blankRanges, List.mem_cons, List.not_mem_nil, or_false,
    exists_eq_or_imp, exists_eq_left, toNat_toUpper]
  split <;> omega

/-- The second text is the first one with letters of ASCII put into the one or the other case. -/
def Recased (s t : String) : Prop :=
  List.Forall₂ (fun c d => d = c ∨ d = c.toUpper ∨ d = c.toLower) s.toList t.toList

instance (s t : String) : Decidable (Recased s t) :=
  inferInstanceAs (Decidable (List.Forall₂ _ _ _))

theorem map_toUpper_of_recased {s t : String} (h : Recased s t) :
    t.toList.map Char.toUpper = s.toList.map Char.toUpper := by
  rw [Recased] at h
  generalize s.toList = cs, t.toList = ds at h ⊢
  induction h with
  | nil => rfl
  | cons hcd _ ih =>
    rw [List.map_cons, List.map_cons, ih]
    rcases hcd with rfl | rfl | rfl
    · rfl
    · rw [toUpper_toUpper]
    · rw [toUpper_toLower]

end TableMapper.Text
