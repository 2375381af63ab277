import TableMapper.Decimal.Layout
import TableMapper.Decimal.Numeral
import TableMapper.Proofs.Decimal.Digits

/-!
# Texts of whole numbers

A whole number is written with digits, of which each counts ten times what it would count one place
further to the right, and with one sign or none. The reader of whole numbers takes exactly these
texts, however long they are, and gives the number that they denote.
-/

namespace TableMapper.Decimal

/-- The digits, one at least, denote the number; leading zeros are among them. -/
inductive Denotes : List Char → Nat → Prop
  | digit {d : Nat} (hd : d < 10) : Denotes [d.digitChar] d
  | push {ds : List Char} {n d : Nat} (h : Denotes ds n) (hd : d < 10) :
      Denotes (ds ++ [d.digitChar]) (10 * n + d)

theorem digitChar_digitValue {c : Char} (h : c.isDigit = true) :
    (digitValue c).digitChar = c := by
  have hcode : 48 ≤ c.toNat ∧ c.toNat ≤ 57 := Char.isDigit_iff_toNat.1 h
  have hzero : '0'.toNat = 48 := by decide
  have hd : digitValue c < 10 := Nat.lt_succ_of_le (digitValue_le h)
  apply Char.toNat_inj.1
  rw [Nat.toNat_digitChar_of_lt_ten hd, digitValue, hzero]
  omega

theorem isDigit_digitChar {d : Nat} (h : d < 10) : d.digitChar.isDigit = true := by
  rw [Nat.isDigit_digitChar, decide_eq_true h]

theorem value_nil : value [] = 0 := rfl

theorem value_singleton (c : Char) : value [c] = digitValue c := by
  have h := value_append_singleton [] c
  rwa [List.nil_append, value_nil, Nat.mul_zero, Nat.zero_add] at h

/-- What the digits denote is read from them one by one, from the left. -/
theorem denotes_iff {ds : List Char} {n : Nat} :
    Denotes ds n ↔ (ds ≠ [] ∧ ∀ c ∈ ds, c.isDigit = true) ∧ value ds = n := by
  constructor
  · intro h
    induction h with
    | digit hd =>
      refine ⟨⟨List.cons_ne_nil _ _, ?_⟩, ?_⟩
      · intro c hc
        rw [List.mem_singleton.1 hc]
        exact isDigit_digitChar hd
      · rw [value_singleton, digitValue_digitChar hd]
    | push h hd ih =>
      obtain ⟨⟨-, hdigits⟩, hvalue⟩ := ih
      refine ⟨⟨List.append_ne_nil_of_right_ne_nil _ (List.cons_ne_nil _ _), ?_⟩, ?_⟩
      · intro c hc
        rcases List.mem_append.1 hc with hc | hc
        · exact hdigits c hc
        · rw [List.mem_singleton.1 hc]
          exact isDigit_digitChar hd
      · rw [value_append_singleton, hvalue, digitValue_digitChar hd]
  · rintro ⟨⟨hne, hdigits⟩, rfl⟩
    -- From the end, since the last digit is the one that was pushed last.
    induction ds using List.reverseRecOn with
    | nil => exact absurd rfl hne
    | append_singleton ds c ih =>
      have hc : c.isDigit = true := hdigits c (by simp)
      have hd : digitValue c < 10 := Nat.lt_succ_of_le (digitValue_le hc)
      by_cases hds : ds = []
      · have hlast := Denotes.digit hd
        rw [digitChar_digitValue hc, ← value_singleton] at hlast
        rw [hds]
        exact hlast
      · have hfront : ∀ d ∈ ds, d.isDigit = true :=
          fun d hd => hdigits d (List.mem_append_left [c] hd)
        have hmore := Denotes.push (ih hds hfront) hd
        rwa [digitChar_digitValue hc, ← value_append_singleton] at hmore

theorem denotes_digits (n : Nat) : Denotes (digits n) n :=
  denotes_iff.2 ⟨⟨digits_ne_nil n, fun _ hc => isDigit_of_mem_digits hc⟩, value_digits n⟩

theorem digitRun?_eq_some {cs : List Char} {n : Nat} :
    digitRun? cs = some n ↔ Denotes cs n := by
  rw [digitRun?, denotes_iff, Option.ite_none_right_eq_some, List.all_eq_true, Option.some.injEq]

theorem digitRun?_of_digits {ds : List Char} (h : ∀ c ∈ ds, c.isDigit = true) (hne : ds ≠ []) :
    digitRun? ds = some (value ds) :=
  digitRun?_eq_some.2 (denotes_iff.2 ⟨⟨hne, h⟩, rfl⟩)

theorem digitRun?_eq_none {ds : List Char} {c : Char} (hc : c ∈ ds) (hd : c.isDigit = false) :
    digitRun? ds = none := by
  rw [digitRun?, if_neg]
  rintro ⟨-, hall⟩
  cases (List.all_eq_true.1 hall c hc).symm.trans hd

/-- The text denotes the number: digits alone or behind one sign. -/
inductive DenotesInt : List Char → Int → Prop
  | unsigned {ds : List Char} {n : Nat} (h : Denotes ds n) : DenotesInt ds n
  | plus {ds : List Char} {n : Nat} (h : Denotes ds n) : DenotesInt ('+' :: ds) n
  | minus {ds : List Char} {n : Nat} (h : Denotes ds n) : DenotesInt ('-' :: ds) (-n)

theorem splitSign_signed {negative : Bool} {ds : List Char}
    (h : ∀ c ∈ ds.head?, c.isDigit = true) :
    splitSign (signed negative ds) = (negative, ds) := by
  cases negative with
  | true => rfl
  | false =>
    cases ds with
    | nil => rfl
    | cons c ds =>
      have hc : c.isDigit = true := h c rfl
      have hne : c ≠ '-' ∧ c ≠ '+' := by
        constructor <;> rintro rfl <;> cases hc
      simp [signed, splitSign, hne.1, hne.2]

theorem denotesInt_of_splitSign {cs : List Char} {n : Nat} (h : Denotes (splitSign cs).2 n) :
    DenotesInt cs (signedInt (splitSign cs).1 n) := by
  revert h
  fun_cases splitSign cs with
  | case1 ds => exact .minus
  | case2 ds => exact .plus
  | case3 => exact .unsigned

theorem readInt?_eq_some {cs : List Char} {z : Int} :
    readInt? cs = some z ↔ DenotesInt cs z := by
  rw [readInt?, Option.map_eq_some_iff]
  constructor
  · rintro ⟨n, hn, rfl⟩
    exact denotesInt_of_splitSign (digitRun?_eq_some.1 hn)
  · intro h
    cases h with
    | plus h => exact ⟨_, digitRun?_eq_some.2 h, rfl⟩
    | minus h => exact ⟨_, digitRun?_eq_some.2 h, rfl⟩
    | @unsigned ds n h =>
      have hhead : ∀ c ∈ cs.head?, c.isDigit = true :=
        fun c hc => (denotes_iff.1 h).1.2 c (List.mem_of_mem_head? hc)
      have hsplit : splitSign cs = (false, cs) := @splitSign_signed false cs hhead
      rw [hsplit]
      exact ⟨n, digitRun?_eq_some.2 h, rfl⟩

instance (cs : List Char) (z : Int) : Decidable (DenotesInt cs z) :=
  decidable_of_iff _ readInt?_eq_some

theorem denotesInt_intDigits (z : Int) : DenotesInt (intDigits z) z := by
  rw [intDigits]
  split
  · rename_i hneg
    have hz : -(z.natAbs : Int) = z := by omega
    have h := DenotesInt.minus (denotes_digits z.natAbs)
    rwa [hz] at h
  · rename_i hpos
    have hz : (z.natAbs : Int) = z := by omega
    have h := DenotesInt.unsigned (denotes_digits z.natAbs)
    rwa [hz] at h

theorem DenotesInt.ne_nil {cs : List Char} {z : Int} (h : DenotesInt cs z) : cs ≠ [] := by
  cases h with
  | unsigned h => exact (denotes_iff.1 h).1.1
  | plus h => exact List.cons_ne_nil _ _
  | minus h => exact List.cons_ne_nil _ _

theorem DenotesInt.noBlank {cs : List Char} {z : Int} (h : DenotesInt cs z) :
    ∀ c ∈ cs, Text.isBlank c = false := by
  have hdigits : ∀ {ds : List Char} {n : Nat}, Denotes ds n → ∀ c ∈ ds, Text.isBlank c = false :=
    fun hds c hc => isBlank_of_isDigit ((denotes_iff.1 hds).1.2 c hc)
  have hplus : Text.isBlank '+' = false := by decide
  have hminus : Text.isBlank '-' = false := by decide
  intro c hc
  cases h with
  | unsigned h => exact hdigits h c hc
  | plus h =>
    rcases List.mem_cons.1 hc with rfl | hc
    · exact hplus
    · exact hdigits h c hc
  | minus h =>
    rcases List.mem_cons.1 hc with rfl | hc
    · exact hminus
    · exact hdigits h c hc

end TableMapper.Decimal
