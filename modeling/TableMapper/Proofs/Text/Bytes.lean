import Mathlib.Data.List.Infix
import Mathlib.Data.List.Lex
import TableMapper.Text.Basic

/-!
# Texts by their bytes

Texts are ordered by the code points of their characters. This is the order of their bytes in UTF-8,
since an encoding that is longer begins with a greater byte, and in encodings of one length the
higher bits come first.

A text is cut behind as many whole characters as fit into a number of bytes. The same place is found
from the bytes alone, by going back from the limit to the next byte that begins a character.
-/

namespace TableMapper.Text

def bytes (s : String) : List UInt8 := s.toUTF8.data.toList

theorem bytes_eq (s : String) : bytes s = s.toList.flatMap String.utf8EncodeChar := by
  have hutf8 : s.toUTF8 = (s.toList.flatMap String.utf8EncodeChar).toByteArray := by
    conv_lhs => rw [← String.ofList_toList (s := s)]
    rfl
  rw [bytes, hutf8, List.toList_data_toByteArray]

theorem first_group_lt {v w : Nat} (h : v < w) :
    v / 262144 < w / 262144 ∨ v / 262144 = w / 262144 ∧
      (v / 4096 % 64 < w / 4096 % 64 ∨ v / 4096 % 64 = w / 4096 % 64 ∧
        (v / 64 % 64 < w / 64 % 64 ∨ v / 64 % 64 = w / 64 % 64 ∧ v % 64 < w % 64)) := by
  omega

theorem utf8EncodeChar_append_lt {c d : Char} (h : c < d) (xs ys : List UInt8) :
    String.utf8EncodeChar c ++ xs < String.utf8EncodeChar d ++ ys := by
  have hlt : c.val.toNat < d.val.toNat := h
  have hd : d.val.toNat < 1114112 := by
    rcases d.valid with hd | ⟨-, hd⟩
    · exact Nat.lt_trans hd (by decide)
    · exact hd
  simp only [String.utf8EncodeChar]
  generalize c.val.toNat = v at *
  generalize d.val.toNat = w at *
  have hgroup := first_group_lt hlt
  split_ifs
  all_goals
    simp only [List.cons_append, List.nil_append, List.cons_lt_cons_iff, UInt8.lt_iff_toNat_lt,
      ← UInt8.toNat_inj, UInt8.toNat_ofNat']
    simp (disch := omega) only [Nat.mod_eq_of_lt, Nat.reducePow]
    omega

theorem flatMap_utf8EncodeChar_lt {cs ds : List Char} (h : cs < ds) :
    cs.flatMap String.utf8EncodeChar < ds.flatMap String.utf8EncodeChar := by
  induction h with
  | @nil d ds =>
    obtain ⟨x, xs, hx⟩ := List.exists_cons_of_ne_nil (String.utf8EncodeChar_ne_nil (c := d))
    rw [List.flatMap_cons, hx]
    exact List.nil_lt_cons _ _
  | cons _ ih => exact List.append_left_lt ih
  | rel hcd => exact utf8EncodeChar_append_lt hcd _ _

theorem bytes_lt_of_before {s t : String} (h : before s t = true) : bytes s < bytes t := by
  rw [bytes_eq, bytes_eq]
  exact flatMap_utf8EncodeChar_lt (of_decide_eq_true h)

theorem byteLength_ofList (cs : List Char) : (String.ofList cs).utf8ByteSize = byteLength cs := by
  induction cs with
  | nil => rfl
  | cons c cs ih =>
    rw [String.ofList_cons, String.utf8ByteSize_append, String.utf8ByteSize_singleton, ih,
      byteLength_cons]

theorem byteLength_toList (s : String) : byteLength s.toList = s.utf8ByteSize := by
  rw [← byteLength_ofList, String.ofList_toList]

theorem cut_prefix (limit : Nat) (cs : List Char) : cut limit cs <+: cs := by
  induction cs generalizing limit with
  | nil => exact List.nil_prefix
  | cons c cs ih =>
    rw [cut]
    split
    · exact (List.prefix_cons_inj c).2 (ih _)
    · exact List.nil_prefix

theorem prefix_cut {limit : Nat} {front cs : List Char} (h : front <+: cs)
    (hfits : byteLength front ≤ limit) : front <+: cut limit cs := by
  induction cs generalizing limit front with
  | nil =>
    rw [List.prefix_nil.1 h]
    exact List.nil_prefix
  | cons c cs ih =>
    cases front with
    | nil => exact List.nil_prefix
    | cons d front =>
      obtain ⟨rfl, hrest⟩ := List.cons_prefix_cons.1 h
      rw [byteLength_cons] at hfits
      have hd : d.utf8Size ≤ limit := by omega
      rw [cut, if_pos hd]
      exact (List.prefix_cons_inj d).2 (ih hrest (by omega))

theorem limit_lt_byteLength_cut {limit : Nat} {cs : List Char} (h : limit < byteLength cs) :
    limit < byteLength (cut limit cs) + 4 := by
  induction cs generalizing limit with
  | nil => exact absurd h (Nat.not_lt_zero _)
  | cons c cs ih =>
    have hc := c.utf8Size_le_four
    rw [byteLength_cons] at h
    rw [cut]
    split
    · rename_i hfits
      have hrest := ih (by omega : limit - c.utf8Size < byteLength cs)
      rw [byteLength_cons]
      omega
    · rw [byteLength_nil]
      omega

theorem cut_eq_nil_iff {limit : Nat} {cs : List Char} :
    cut limit cs = [] ↔ ∀ c ∈ cs.head?, limit < c.utf8Size := by
  cases cs with
  | nil => simp [cut]
  | cons c cs =>
    rw [cut, List.head?_cons]
    by_cases hfits : c.utf8Size ≤ limit
    · simp [hfits]
    · simp [hfits, Nat.lt_of_not_le hfits]

/-- The text ends at this place, or the byte there is the first one of a character. -/
def IsBoundary (s : String) (n : Nat) : Prop :=
  n = s.utf8ByteSize ∨ ∃ h : ⟨n⟩ < s.rawEndPos, (s.getUTF8Byte ⟨n⟩ h).IsUTF8FirstByte

instance (s : String) (n : Nat) : Decidable (IsBoundary s n) :=
  inferInstanceAs (Decidable (_ ∨ ∃ h : _, (s.getUTF8Byte ⟨n⟩ h).IsUTF8FirstByte))

/-- The nearest place, from `n` down, that is not inside of a character. -/
def backOff (s : String) : Nat → Nat
  | 0 => 0
  | n + 1 => if IsBoundary s (n + 1) then n + 1 else backOff s n

theorem isBoundary_iff {s : String} {n : Nat} :
    IsBoundary s n ↔ ∃ front rest, s = front ++ rest ∧ n = front.utf8ByteSize := by
  have hvalid : IsBoundary s n ↔ String.Pos.Raw.IsValid s ⟨n⟩ := by
    rw [String.Pos.Raw.isValid_iff_isUTF8FirstByte, IsBoundary, String.Pos.Raw.ext_iff,
      String.byteIdx_rawEndPos]
  rw [hvalid, String.Pos.Raw.isValid_iff_exists_append]
  simp only [String.Pos.Raw.ext_iff, String.byteIdx_rawEndPos]

theorem isBoundary_zero (s : String) : IsBoundary s 0 :=
  isBoundary_iff.2 ⟨"", s, String.empty_append.symm, rfl⟩

theorem isBoundary_backOff (s : String) (n : Nat) : IsBoundary s (backOff s n) := by
  induction n with
  | zero => exact isBoundary_zero s
  | succ n ih =>
    rw [backOff]
    split
    · assumption
    · exact ih

theorem backOff_le (s : String) (n : Nat) : backOff s n ≤ n := by
  induction n with
  | zero => exact Nat.le_refl 0
  | succ n ih =>
    rw [backOff]
    split
    · exact Nat.le_refl _
    · exact Nat.le_succ_of_le ih

theorem le_backOff {s : String} {k n : Nat} (hk : IsBoundary s k) (hle : k ≤ n) :
    k ≤ backOff s n := by
  induction n with
  | zero => exact hle
  | succ n ih =>
    rw [backOff]
    split
    · exact hle
    · rename_i hinside
      have hne : k ≠ n + 1 := by
        rintro rfl
        exact hinside hk
      exact ih (by omega)

/-- The longest front of a text that fits into so many bytes, without the rest of a character. -/
structure IsLongestFront (limit : Nat) (s p : String) : Prop where
  front : ∃ rest, s = p ++ rest
  fits : p.utf8ByteSize ≤ limit
  longest : ∀ q rest, s = q ++ rest → q.utf8ByteSize ≤ limit → ∃ more, p = q ++ more

theorem exists_append_iff {s p : String} :
    (∃ rest, s = p ++ rest) ↔ p.toList <+: s.toList := by
  constructor
  · rintro ⟨rest, rfl⟩
    rw [String.toList_append]
    exact List.prefix_append _ _
  · rintro ⟨rest, hrest⟩
    refine ⟨String.ofList rest, ?_⟩
    rw [← String.toList_inj, String.toList_append, String.toList_ofList, hrest]

theorem isLongestFront_cut (limit : Nat) (s : String) :
    IsLongestFront limit s (String.ofList (cut limit s.toList)) := by
  constructor
  · rw [exists_append_iff, String.toList_ofList]
    exact cut_prefix limit s.toList
  · rw [byteLength_ofList]
    exact byteLength_cut_le limit s.toList
  · intro q rest hs hfits
    rw [exists_append_iff, String.toList_ofList]
    rw [← byteLength_toList] at hfits
    exact prefix_cut (exists_append_iff.1 ⟨rest, hs⟩) hfits

section IsLongestFront

variable {limit : Nat} {s p : String} (h : IsLongestFront limit s p)

include h

/-- Going back over the bytes ends behind the longest front. -/
theorem IsLongestFront.backOff_eq : backOff s limit = p.utf8ByteSize := by
  apply Nat.le_antisymm
  · obtain ⟨q, rest, hs, hplace⟩ := isBoundary_iff.1 (isBoundary_backOff s limit)
    have hfits := backOff_le s limit
    rw [hplace] at hfits ⊢
    obtain ⟨more, rfl⟩ := h.longest q rest hs hfits
    rw [String.utf8ByteSize_append]
    omega
  · obtain ⟨rest, hs⟩ := h.front
    exact le_backOff (isBoundary_iff.2 ⟨p, rest, hs, rfl⟩) h.fits

theorem IsLongestFront.bytes_eq : p.toByteArray = s.toByteArray.extract 0 (backOff s limit) := by
  obtain ⟨rest, hs⟩ := h.front
  rw [h.backOff_eq, hs, String.toByteArray_append,
    ByteArray.extract_append_eq_left String.size_toByteArray.symm]

end IsLongestFront

end TableMapper.Text
