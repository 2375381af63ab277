import TableMapper.Json.Basic
import TableMapper.Json.Number
import TableMapper.Proofs.Decimal.Digits
import TableMapper.Proofs.Except

/-!
# Reading back JSON numbers

Whatever a number reader accepts it accepts in front of any text that cannot continue the number,
and it leaves that text. Whole numbers of 64 bits are read back exactly.
-/

namespace TableMapper.Json

open Decimal (digits value spanDigits EndsDigits)

/-- No digit, point or exponent stands at the start, so a number before the text ends there. -/
def EndsNumber (rest : List Char) : Prop :=
  ∀ c ∈ rest.head?, c.isDigit = false ∧ c ≠ '.' ∧ c ≠ 'e' ∧ c ≠ 'E'

@[simp] theorem endsNumber_nil : EndsNumber [] := by simp [EndsNumber]

@[simp] theorem endsNumber_cons {c : Char} {rest : List Char} :
    EndsNumber (c :: rest) ↔ c.isDigit = false ∧ c ≠ '.' ∧ c ≠ 'e' ∧ c ≠ 'E' := by
  simp [EndsNumber]

theorem EndsNumber.endsDigits {rest : List Char} (h : EndsNumber rest) : EndsDigits rest :=
  fun c hc => (h c hc).1

theorem startsWithDigit_of_endsDigits {rest : List Char} (h : EndsDigits rest) :
    startsWithDigit rest = false := by
  cases rest with
  | nil => rfl
  | cons c cs => exact Decimal.endsDigits_cons.1 h

theorem startsWithDigit_append {cs rest : List Char} (hr : EndsDigits rest) :
    startsWithDigit (cs ++ rest) = startsWithDigit cs := by
  cases cs with
  | nil => exact startsWithDigit_of_endsDigits hr
  | cons c cs => rfl

/-- The reader takes the start of a text, and takes the same start when a text is added that
cannot continue a number. -/
def Stable (read : List Char → Except Fault (Json × List Char)) : Prop :=
  ∀ cs j r, read cs = .ok (j, r) →
    r.IsSuffix cs ∧ ∀ rest, EndsNumber rest → read (cs ++ rest) = .ok (j, r ++ rest)

theorem Stable.after {read : List Char → Except Fault (Json × List Char)} (h : Stable read)
    (c : Char) {cs left : List Char} {j : Json} (hread : read cs = .ok (j, left)) :
    left.IsSuffix (c :: cs) ∧
      ∀ rest, EndsNumber rest → read (cs ++ rest) = .ok (j, left ++ rest) := by
  obtain ⟨hsuffix, happend⟩ := h cs j left hread
  exact ⟨hsuffix.trans (List.suffix_cons c cs), happend⟩

theorem head?_append {P : Char → Prop} {cs rest : List Char} (hcs : ∀ c ∈ cs.head?, P c)
    (hrest : ∀ c ∈ rest.head?, P c) : ∀ c ∈ (cs ++ rest).head?, P c := by
  cases cs with
  | nil => exact hrest
  | cons d cs => exact hcs

theorem spanDigits_append_rest (cs : List Char) {rest : List Char} (h : EndsDigits rest) :
    spanDigits (cs ++ rest) = ((spanDigits cs).1, (spanDigits cs).2 ++ rest) := by
  induction cs with
  | nil => simpa [spanDigits] using Decimal.spanDigits_of_endsDigits h
  | cons c cs ih =>
    simp only [spanDigits, Prod.mk.injEq, List.cons_append, List.takeWhile_cons,
      List.dropWhile_cons] at ih ⊢
    split
    · exact ⟨by rw [ih.1], ih.2⟩
    · exact ⟨rfl, rfl⟩

theorem spanDigits_suffix (cs : List Char) : (spanDigits cs).2.IsSuffix cs :=
  List.dropWhile_suffix _

theorem absorb_suffix (limit n : Nat) (cs : List Char) : (absorb limit n cs).2.IsSuffix cs := by
  induction cs generalizing n with
  | nil => simp [absorb]
  | cons c cs ih =>
    simp only [absorb]
    split
    · exact (ih _).trans (List.suffix_cons c cs)
    · exact List.suffix_refl _

theorem absorb_append (limit n : Nat) (cs : List Char) {rest : List Char} (h : EndsDigits rest) :
    absorb limit n (cs ++ rest) = ((absorb limit n cs).1, (absorb limit n cs).2 ++ rest) := by
  induction cs generalizing n with
  | nil =>
    cases rest with
    | nil => rfl
    | cons c rest => simp [absorb, Decimal.endsDigits_cons.1 h]
  | cons c cs ih =>
    simp only [List.cons_append, absorb]
    split
    · exact ih _
    · rfl

theorem stable_ofParts (negative : Bool) (significand : Nat) (e : Int) :
    Stable (ofParts negative significand e) := by
  intro cs j r h
  unfold ofParts at h ⊢
  cases hs : scale significand e with
  | none => simp [hs] at h
  | some x =>
    simp only [hs, Except.ok.injEq, Prod.mk.injEq] at h
    obtain ⟨rfl, rfl⟩ := h
    exact ⟨List.suffix_refl _, fun _ _ => rfl⟩

theorem exponentSign_suffix (cs : List Char) : (exponentSign cs).2.IsSuffix cs := by
  unfold exponentSign
  split
  · exact List.suffix_cons _ _
  · exact List.suffix_cons _ _
  · exact List.suffix_refl _

theorem exponentSign_append {cs : List Char} (hne : cs ≠ []) (rest : List Char) :
    exponentSign (cs ++ rest) = ((exponentSign cs).1, (exponentSign cs).2 ++ rest) := by
  cases cs with
  | nil => exact absurd rfl hne
  | cons c cs =>
    unfold exponentSign
    split <;> simp_all

/-- What becomes of an exponent with the value of its leading digits and what is left after them. -/
def finishExponent (negative : Bool) (significand : Nat) (e : Int) (down : Bool) (n : Nat)
    (left : List Char) : Except Fault (Json × List Char) :=
  if startsWithDigit left then
    if significand ≠ 0 && !down then .error (faultAt .numberOutOfRange left.tail)
    else .ok (signedFloat negative 0, (spanDigits left.tail).2)
  else ofParts negative significand (if down then e - n else e + n) left

theorem stable_finishExponent (negative : Bool) (significand : Nat) (e : Int) (down : Bool)
    (n : Nat) : Stable (finishExponent negative significand e down n) := by
  intro cs j r h
  rw [finishExponent] at h
  by_cases hstart : startsWithDigit cs = true
  · rw [if_pos hstart] at h
    cases cs with
    | nil => cases hstart
    | cons d cs =>
      by_cases hlarge : (significand ≠ 0 && !down) = true
      · rw [if_pos hlarge] at h
        cases h
      · rw [if_neg hlarge] at h
        cases h
        refine ⟨(spanDigits_suffix cs).trans (List.suffix_cons d cs), fun rest hr => ?_⟩
        rw [finishExponent, startsWithDigit_append hr.endsDigits, if_pos hstart, if_neg hlarge,
          List.cons_append, List.tail_cons, spanDigits_append_rest cs hr.endsDigits, List.tail_cons]
  · rw [if_neg hstart] at h
    obtain ⟨hs, ha⟩ := stable_ofParts _ _ _ _ _ _ h
    refine ⟨hs, fun rest hr => ?_⟩
    rw [finishExponent, startsWithDigit_append hr.endsDigits, if_neg hstart]
    exact ha rest hr

theorem readExponent_eq (negative : Bool) (significand : Nat) (e : Int) (cs : List Char) :
    readExponent negative significand e cs =
      if startsWithDigit (exponentSign cs).2 then
        finishExponent negative significand e (exponentSign cs).1
          (absorb (Nat.pow 2 31 - 1) 0 (exponentSign cs).2).1
          (absorb (Nat.pow 2 31 - 1) 0 (exponentSign cs).2).2
      else .error (faultOn (if (exponentSign cs).2 = [] then .endInValue else .invalidNumber)
        (exponentSign cs).2) := by
  rw [readExponent]
  generalize exponentSign cs = sign
  obtain ⟨down, ds⟩ := sign
  generalize Nat.pow 2 31 - 1 = limit
  cases ds with
  | nil => rfl
  | cons c ds =>
    by_cases hc : c.isDigit = true
    · simp only [startsWithDigit, hc, if_true]
      generalize absorb limit 0 (c :: ds) = absorbed
      obtain ⟨n, left⟩ := absorbed
      cases left with
      | nil => rfl
      | cons d left => rfl
    · simp [startsWithDigit, hc]

theorem stable_readExponent (negative : Bool) (significand : Nat) (e : Int) :
    Stable (readExponent negative significand e) := by
  intro cs j r h
  rw [readExponent_eq] at h
  by_cases hstart : startsWithDigit (exponentSign cs).2 = true
  · rw [if_pos hstart] at h
    obtain ⟨hs, ha⟩ := stable_finishExponent _ _ _ _ _ _ _ _ h
    refine ⟨(hs.trans (absorb_suffix _ _ _)).trans (exponentSign_suffix cs), fun rest hr => ?_⟩
    have hne : cs ≠ [] := by
      rintro rfl
      cases hstart
    rw [readExponent_eq, exponentSign_append hne, startsWithDigit_append hr.endsDigits,
      if_pos hstart, absorb_append _ _ _ hr.endsDigits]
    exact ha rest hr
  · rw [if_neg hstart] at h
    cases h

theorem readTail_of_head {negative : Bool} {significand : Nat} {e : Int} {cs : List Char}
    (h : ∀ c ∈ cs.head?, c ≠ 'e' ∧ c ≠ 'E') :
    readTail negative significand e cs = ofParts negative significand e cs := by
  cases cs with
  | nil => rfl
  | cons c cs =>
    obtain ⟨hlower, hupper⟩ := h c rfl
    simp [readTail, hlower, hupper]

theorem stable_readTail (negative : Bool) (significand : Nat) (e : Int) :
    Stable (readTail negative significand e) := by
  intro cs j r h
  unfold readTail at h
  split at h
  · exact (stable_readExponent _ _ _).after _ h
  · exact (stable_readExponent _ _ _).after _ h
  · rename_i hlower hupper
    have hhead : ∀ c ∈ cs.head?, c ≠ 'e' ∧ c ≠ 'E' := by
      intro c hc
      obtain ⟨cs, rfl⟩ := List.head?_eq_some_iff.1 hc
      exact ⟨fun he => hlower cs (he ▸ rfl), fun he => hupper cs (he ▸ rfl)⟩
    obtain ⟨hs, ha⟩ := stable_ofParts _ _ _ _ _ _ h
    refine ⟨hs, fun rest hr => ?_⟩
    rw [readTail_of_head (head?_append hhead fun c hc => (hr c hc).2.2)]
    exact ha rest hr

theorem stable_readFraction (negative : Bool) (significand : Nat) (e : Int) :
    Stable (readFraction negative significand e) := by
  intro cs j r h
  unfold readFraction at h ⊢
  by_cases hstart : startsWithDigit cs = true
  · simp only [hstart, if_true] at h
    have habsorbed := absorb_suffix (UInt64.size - 1) significand cs
    have happend := fun rest (hr : EndsDigits rest) =>
      absorb_append (UInt64.size - 1) significand cs hr
    obtain ⟨hs, ha⟩ := stable_readTail _ _ _ _ _ _ h
    refine ⟨(hs.trans (spanDigits_suffix _)).trans habsorbed, fun rest hr => ?_⟩
    have hlength : (cs ++ rest).length - ((absorb (UInt64.size - 1) significand cs).2 ++ rest).length =
        cs.length - (absorb (UInt64.size - 1) significand cs).2.length := by
      simp only [List.length_append]
      omega
    rw [startsWithDigit_append hr.endsDigits, hstart, if_pos rfl, happend rest hr.endsDigits]
    simp only [hlength, spanDigits_append_rest _ hr.endsDigits]
    exact ha rest hr
  · simp [hstart] at h

theorem readAfterWhole_of_head {negative : Bool} {significand dropped : Nat} {cs : List Char}
    (h : ∀ c ∈ cs.head?, c ≠ '.' ∧ c ≠ 'e' ∧ c ≠ 'E') :
    readAfterWhole negative significand dropped cs =
      if dropped = 0 then .ok (ofWhole negative significand, cs)
      else ofParts negative significand dropped cs := by
  cases cs with
  | nil => rfl
  | cons c cs =>
    obtain ⟨hpoint, hlower, hupper⟩ := h c rfl
    simp [readAfterWhole, hpoint, hlower, hupper]

theorem stable_readAfterWhole (negative : Bool) (significand dropped : Nat) :
    Stable (readAfterWhole negative significand dropped) := by
  intro cs j r h
  unfold readAfterWhole at h
  split at h
  · exact (stable_readFraction _ _ _).after _ h
  · exact (stable_readExponent _ _ _).after _ h
  · exact (stable_readExponent _ _ _).after _ h
  · rename_i hpoint hlower hupper
    have hhead : ∀ c ∈ cs.head?, c ≠ '.' ∧ c ≠ 'e' ∧ c ≠ 'E' := by
      intro c hc
      obtain ⟨cs, rfl⟩ := List.head?_eq_some_iff.1 hc
      exact ⟨fun he => hpoint cs (he ▸ rfl), fun he => hlower cs (he ▸ rfl),
        fun he => hupper cs (he ▸ rfl)⟩
    by_cases hz : dropped = 0
    · rw [if_pos hz] at h
      cases h
      refine ⟨List.suffix_refl _, fun rest hr => ?_⟩
      rw [readAfterWhole_of_head (head?_append hhead fun c hc => (hr c hc).2), if_pos hz]
    · rw [if_neg hz] at h
      obtain ⟨hs, ha⟩ := stable_ofParts _ _ _ _ _ _ h
      refine ⟨hs, fun rest hr => ?_⟩
      rw [readAfterWhole_of_head (head?_append hhead fun c hc => (hr c hc).2), if_neg hz]
      exact ha rest hr

/-- What is read as a number is read so in front of any text that does not continue it. -/
theorem stable_readNumber (negative : Bool) : Stable (readNumber negative) := by
  intro cs j r h
  unfold readNumber at h
  split at h
  · cases h
  · rename_i cs
    by_cases hstart : startsWithDigit cs = true
    · simp [hstart] at h
    · rw [if_neg hstart] at h
      obtain ⟨hs, ha⟩ := (stable_readAfterWhole _ _ _).after '0' h
      refine ⟨hs, fun rest hr => ?_⟩
      rw [List.cons_append, readNumber, startsWithDigit_append hr.endsDigits, if_neg hstart]
      exact ha rest hr
  · rename_i c cs hzero
    by_cases hc : c.isDigit = true
    · rw [if_pos hc] at h
      -- Digits beyond 64 bits are dropped first, and what follows all of them is read after that.
      have habsorbed := absorb_suffix (UInt64.size - 1) 0 (c :: cs)
      obtain ⟨hs, ha⟩ := stable_readAfterWhole _ _ _ _ _ _ h
      refine ⟨(hs.trans (spanDigits_suffix _)).trans habsorbed, fun rest hr => ?_⟩
      have happend := absorb_append (UInt64.size - 1) 0 (c :: cs) hr.endsDigits
      rw [List.cons_append] at happend ⊢
      unfold readNumber
      split
      · simp_all
      · simp_all
      · rename_i he
        cases he
        rw [if_pos hc, happend]
        simp only [spanDigits_append_rest _ hr.endsDigits]
        exact ha rest hr
    · rw [if_neg hc] at h
      cases h

theorem le_ofDigitChars (ds : List Char) (n : Nat) : n ≤ Nat.ofDigitChars 10 ds n := by
  induction ds generalizing n with
  | nil => simp
  | cons c ds ih =>
    rw [Nat.ofDigitChars_cons]
    have := ih (10 * n + (c.toNat - '0'.toNat))
    omega

theorem absorb_digits {limit n : Nat} {ds : List Char} (hd : ∀ c ∈ ds, c.isDigit = true)
    (h : Nat.ofDigitChars 10 ds n ≤ limit) :
    absorb limit n ds = (Nat.ofDigitChars 10 ds n, []) := by
  induction ds generalizing n with
  | nil => rfl
  | cons c ds ih =>
    rw [Nat.ofDigitChars_cons] at h ⊢
    have hle := le_ofDigitChars ds (10 * n + (c.toNat - '0'.toNat))
    have hfits : 10 * n + Decimal.digitValue c ≤ limit := Nat.le_trans hle h
    simp only [absorb, hd c (by simp), hfits, decide_true, Bool.and_self, if_true]
    exact ih (fun d hm => hd d (by simp [hm])) h

theorem readNumber_digits (negative : Bool) {n : Nat} (hn : n < UInt64.size) :
    readNumber negative (digits n) = .ok (ofWhole negative n, []) := by
  by_cases hz : n = 0
  · subst hz
    have hd : digits 0 = ['0'] := by decide
    rw [hd]
    rfl
  obtain ⟨c, cs, he, hc, hcs⟩ := Decimal.digits_cons n
  have hzero : c ≠ '0' := by
    have := Decimal.head?_digits_ne_zero (Nat.pos_of_ne_zero hz)
    simpa [he] using this
  have hvalue : Nat.ofDigitChars 10 (digits n) 0 = n := Nat.ofDigitChars_ten_toDigits
  have habsorb : absorb (UInt64.size - 1) 0 (c :: cs) = (n, []) := by
    have h : absorb (UInt64.size - 1) 0 (digits n) = (Nat.ofDigitChars 10 (digits n) 0, []) :=
      absorb_digits (fun _ => Decimal.isDigit_of_mem_digits) (by omega)
    rwa [hvalue, he] at h
  rw [he]
  unfold readNumber
  split
  · simp_all
  · simp_all
  · rename_i heq
    cases heq
    rw [if_pos hc, habsorb]
    rfl

theorem readNumber_whole {n : Nat} (hn : n < UInt64.size) :
    readNumber false (digits n) = .ok (.int n, []) :=
  readNumber_digits false hn

theorem readNumber_negative {n : Nat} (hpos : 0 < n) (hn : n ≤ Nat.pow 2 63) :
    readNumber true (digits n) = .ok (.int (-(n : Int)), []) := by
  have hsize : n < UInt64.size := Nat.lt_of_le_of_lt hn (by decide)
  have h : ¬(n = 0 ∨ Nat.pow 2 63 < n) := by omega
  rw [readNumber_digits true hsize, ofWhole]
  simp only [if_true, if_neg h]

end TableMapper.Json
