import Mathlib.Data.List.TakeWhile
import TableMapper.Proofs.Decimal.Whole
import TableMapper.Proofs.Json.Numbers

/-!
# The tokens of JSON numbers

A number is written as a whole part, an optional fraction and an optional exponent. Without the last
two it denotes a whole number, minus zero apart, and is read as that number if it fits into 64 bits
with a sign or without one. Every other number is read as a double.
-/

namespace TableMapper.Json

open Decimal (digitValue value spanDigits signed signedInt EndsDigits)

/-- Digits of which the first is no zero, unless it is the only one. -/
structure IsWhole (ds : List Char) : Prop where
  nonempty : ds ≠ []
  digits : ∀ c ∈ ds, c.isDigit = true
  leading : ds.head? = some '0' → ds = ['0']

inductive IsFraction : List Char → Prop
  | none : IsFraction []
  | point {ds : List Char} (hne : ds ≠ []) (hds : ∀ c ∈ ds, c.isDigit = true) :
      IsFraction ('.' :: ds)

inductive IsExponent : List Char → Prop
  | none : IsExponent []
  | power {e : Char} {sign ds : List Char} (he : e = 'e' ∨ e = 'E')
      (hsign : sign ∈ [[], ['+'], ['-']]) (hne : ds ≠ []) (hds : ∀ c ∈ ds, c.isDigit = true) :
      IsExponent (e :: (sign ++ ds))

inductive IsNumber : List Char → Prop
  | parts {negative : Bool} {whole fraction exponent : List Char} (hwhole : IsWhole whole)
      (hfraction : IsFraction fraction) (hexponent : IsExponent exponent) :
      IsNumber (signed negative (whole ++ (fraction ++ exponent)))

theorem IsWhole.isNumber {whole : List Char} (h : IsWhole whole) (negative : Bool) :
    IsNumber (signed negative whole) := by
  have hparts : IsNumber (signed negative (whole ++ ([] ++ []))) := .parts h .none .none
  rwa [List.append_nil, List.append_nil] at hparts

/-- The whole number that a number without fraction and exponent denotes; minus zero is none. -/
def wholeNumber? (token : List Char) : Option Int :=
  if token = ['-', '0'] then none else Decimal.readInt? token

/-- The whole number fits into 64 bits, with a sign or without one. -/
def Fits (n : Int) : Prop := Int64.minValue.toInt ≤ n ∧ n < UInt64.size

instance (n : Int) : Decidable (Fits n) := inferInstanceAs (Decidable (_ ∧ _))

/-- What is read from a number: a whole one exactly if it fits, and else some double. -/
inductive SpellsNumber : List Char → Json → Prop
  | whole {token : List Char} {n : Int} (h : IsNumber token) (hn : wholeNumber? token = some n)
      (hfits : Fits n) : SpellsNumber token (.int n)
  | rounded {token : List Char} {x : Float} (h : IsNumber token)
      (hn : ∀ n, wholeNumber? token = some n → ¬Fits n) : SpellsNumber token (.float x)

theorem IsWhole.head {whole rest : List Char} (h : IsWhole whole) :
    ∀ c ∈ (whole ++ rest).head?, c.isDigit = true := by
  obtain ⟨c, cs, rfl⟩ := List.exists_cons_of_ne_nil h.nonempty
  intro d hd
  cases hd
  exact h.digits c List.mem_cons_self

theorem readInt?_signed (negative : Bool) {whole rest : List Char} (h : IsWhole whole) :
    Decimal.readInt? (signed negative (whole ++ rest)) =
      (Decimal.digitRun? (whole ++ rest)).map (signedInt negative) := by
  rw [Decimal.readInt?, Decimal.splitSign_signed h.head]

theorem IsWhole.eq_zero {whole : List Char} (h : IsWhole whole) (hz : value whole = 0) :
    whole = ['0'] := by
  obtain ⟨c, cs, rfl⟩ := List.exists_cons_of_ne_nil h.nonempty
  have hcode := Char.isDigit_iff_toNat.1 (h.digits c List.mem_cons_self)
  have hfirst : 10 * 0 + (c.toNat - '0'.toNat) ≤ value (c :: cs) := by
    rw [Decimal.value_eq_ofDigitChars, Nat.ofDigitChars_cons]
    exact le_ofDigitChars cs _
  have hzero : '0'.toNat = 48 := by decide
  have hc : c = '0' := Char.toNat_inj.1 (by omega)
  exact h.leading (by rw [hc]; rfl)

theorem wholeNumber?_signed (negative : Bool) {whole : List Char} (h : IsWhole whole) :
    wholeNumber? (signed negative whole) =
      if negative = true ∧ value whole = 0 then none
      else some (signedInt negative (value whole)) := by
  have hread : Decimal.readInt? (signed negative whole) = some (signedInt negative (value whole)) := by
    rw [← List.append_nil whole, readInt?_signed negative h, List.append_nil,
      Decimal.digitRun?_of_digits h.digits h.nonempty, Option.map_some]
  have hminus : signed negative whole = ['-', '0'] ↔ negative = true ∧ value whole = 0 := by
    constructor
    · intro htoken
      cases negative with
      | true =>
        have hwhole : whole = ['0'] := List.tail_eq_of_cons_eq htoken
        exact ⟨rfl, by rw [hwhole]; decide⟩
      | false =>
        have hwhole : whole = ['-', '0'] := htoken
        cases h.digits '-' (by rw [hwhole]; exact List.mem_cons_self)
    · rintro ⟨rfl, hz⟩
      rw [h.eq_zero hz]
      rfl
  rw [wholeNumber?, hread]
  simp only [hminus]

theorem wholeNumber?_eq_none {negative : Bool} {whole fraction exponent : List Char}
    (hwhole : IsWhole whole) (hfraction : IsFraction fraction) (hexponent : IsExponent exponent)
    (hne : fraction ++ exponent ≠ []) :
    wholeNumber? (signed negative (whole ++ (fraction ++ exponent))) = none := by
  have hrun : ∀ c ∈ fraction ++ exponent, c.isDigit = false →
      wholeNumber? (signed negative (whole ++ (fraction ++ exponent))) = none := by
    intro c hc hd
    rw [wholeNumber?, readInt?_signed negative hwhole,
      Decimal.digitRun?_eq_none (List.mem_append_right _ hc) hd,
      Option.map_none, ite_self]
  cases hfraction with
  | point hne hds => exact hrun '.' (by simp) (by decide)
  | none =>
    cases hexponent with
    | none => exact absurd rfl hne
    | @power e sign ds he hsign hne hds =>
      apply hrun e (by simp)
      rcases he with rfl | rfl <;> decide

theorem exists_ofParts {negative : Bool} {significand : Nat} {e : Int} {cs rest : List Char}
    {j : Json} (h : ofParts negative significand e cs = .ok (j, rest)) :
    rest = cs ∧ ∃ x, j = .float x := by
  rw [ofParts] at h
  cases hs : scale significand e with
  | none => simp [hs] at h
  | some x =>
    rw [hs] at h
    cases h
    exact ⟨rfl, _, rfl⟩

theorem digits_spanDigits (cs : List Char) : ∀ c ∈ (spanDigits cs).1, c.isDigit = true :=
  fun _ hc => List.mem_takeWhile_imp hc

theorem spanDigits_join (cs : List Char) : (spanDigits cs).1 ++ (spanDigits cs).2 = cs :=
  List.takeWhile_append_dropWhile

theorem spanDigits_ne_nil {cs : List Char} (h : startsWithDigit cs = true) :
    (spanDigits cs).1 ≠ [] := by
  cases cs with
  | nil => cases h
  | cons c cs =>
    have hc : c.isDigit = true := h
    simp [spanDigits, hc]

theorem endsDigits_of_startsWithDigit {cs : List Char} (h : ¬startsWithDigit cs = true) :
    EndsDigits cs := by
  cases cs with
  | nil => exact Decimal.endsDigits_nil
  | cons c cs => exact Decimal.endsDigits_cons.2 (by simpa [startsWithDigit] using h)

theorem spanDigits_cons {c : Char} (h : c.isDigit = true) (cs : List Char) :
    spanDigits (c :: cs) = (c :: (spanDigits cs).1, (spanDigits cs).2) := by
  simp [spanDigits, h]

theorem spanDigits_absorb (limit n : Nat) (cs : List Char) :
    (spanDigits (absorb limit n cs).2).2 = (spanDigits cs).2 := by
  induction cs generalizing n with
  | nil => rfl
  | cons c cs ih =>
    rw [absorb]
    by_cases hc : c.isDigit = true
    · split
      · rw [ih, spanDigits_cons hc]
      · rfl
    · simp [hc]

theorem absorb_cases (limit : Nat) {n : Nat} (hn : n ≤ limit) (cs : List Char) :
    (spanDigits (absorb limit n cs).2).1 = [] ∧ (absorb limit n cs).1 ≤ limit ∧
        (absorb limit n cs).1 = Nat.ofDigitChars 10 (spanDigits cs).1 n ∨
      (spanDigits (absorb limit n cs).2).1 ≠ [] ∧
        limit < Nat.ofDigitChars 10 (spanDigits cs).1 n := by
  induction cs generalizing n with
  | nil => exact .inl ⟨rfl, hn, rfl⟩
  | cons c cs ih =>
    by_cases hc : c.isDigit = true
    · by_cases hfits : 10 * n + digitValue c ≤ limit
      · have habsorb : absorb limit n (c :: cs) = absorb limit (10 * n + digitValue c) cs := by
          simp [absorb, hc, hfits]
        rw [habsorb, spanDigits_cons hc]
        exact ih hfits
      · have habsorb : absorb limit n (c :: cs) = (n, c :: cs) := by
          simp [absorb, hfits]
        rw [habsorb, spanDigits_cons hc]
        refine .inr ⟨List.cons_ne_nil _ _, ?_⟩
        rw [Nat.ofDigitChars_cons]
        exact Nat.lt_of_lt_of_le (Nat.lt_of_not_le hfits) (le_ofDigitChars _ _)
    · have hspan : spanDigits (c :: cs) = ([], c :: cs) := by
        simp [spanDigits, hc]
      have habsorb : absorb limit n (c :: cs) = (n, c :: cs) := by
        simp [absorb, hc]
      rw [habsorb, hspan]
      exact .inl ⟨rfl, hn, rfl⟩

theorem taken_of_finishExponent {negative down : Bool} {significand n : Nat} {e : Int}
    {left rest : List Char} {j : Json}
    (h : finishExponent negative significand e down n left = .ok (j, rest)) :
    rest = (spanDigits left).2 ∧ ∃ x, j = .float x := by
  rw [finishExponent] at h
  by_cases hstart : startsWithDigit left = true
  · rw [if_pos hstart] at h
    cases left with
    | nil => cases hstart
    | cons d left =>
      by_cases hlarge : (significand ≠ 0 && !down) = true
      · rw [if_pos hlarge] at h
        cases h
      · rw [if_neg hlarge] at h
        cases h
        exact ⟨by rw [spanDigits_cons hstart, List.tail_cons], _, rfl⟩
  · rw [if_neg hstart] at h
    obtain ⟨hrest, hfloat⟩ := exists_ofParts h
    rw [Decimal.spanDigits_of_endsDigits (endsDigits_of_startsWithDigit hstart)]
    exact ⟨hrest, hfloat⟩

theorem exponentSign_join (cs : List Char) :
    ∃ sign ∈ [[], ['+'], ['-']], cs = sign ++ (exponentSign cs).2 := by
  rw [exponentSign.eq_def]
  split
  · exact ⟨['+'], by simp, rfl⟩
  · exact ⟨['-'], by simp, rfl⟩
  · exact ⟨[], by simp, rfl⟩

theorem taken_of_readExponent {negative : Bool} {significand : Nat} {e : Int}
    {cs rest : List Char} {j : Json} (h : readExponent negative significand e cs = .ok (j, rest)) :
    ∃ token x, cs = token ++ rest ∧ j = .float x ∧
      ∀ c, c = 'e' ∨ c = 'E' → IsExponent (c :: token) := by
  rw [readExponent_eq] at h
  by_cases hstart : startsWithDigit (exponentSign cs).2 = true
  · rw [if_pos hstart] at h
    obtain ⟨hrest, x, hx⟩ := taken_of_finishExponent h
    rw [spanDigits_absorb] at hrest
    obtain ⟨sign, hsign, hcs⟩ := exponentSign_join cs
    refine ⟨sign ++ (spanDigits (exponentSign cs).2).1, x, ?_, hx, ?_⟩
    · rw [hrest, List.append_assoc, spanDigits_join]
      exact hcs
    · intro c hc
      exact .power hc hsign (spanDigits_ne_nil hstart) (digits_spanDigits _)
  · rw [if_neg hstart] at h
    cases h

theorem taken_of_readTail {negative : Bool} {significand : Nat} {e : Int} {cs rest : List Char}
    {j : Json} (h : readTail negative significand e cs = .ok (j, rest)) :
    ∃ exponent x, cs = exponent ++ rest ∧ j = .float x ∧ IsExponent exponent := by
  rw [readTail.eq_def] at h
  split at h
  · obtain ⟨token, x, rfl, hx, hexponent⟩ := taken_of_readExponent h
    exact ⟨'e' :: token, x, rfl, hx, hexponent 'e' (.inl rfl)⟩
  · obtain ⟨token, x, rfl, hx, hexponent⟩ := taken_of_readExponent h
    exact ⟨'E' :: token, x, rfl, hx, hexponent 'E' (.inr rfl)⟩
  · obtain ⟨rfl, x, hx⟩ := exists_ofParts h
    exact ⟨[], x, rfl, hx, .none⟩

theorem taken_of_readFraction {negative : Bool} {significand : Nat} {e : Int}
    {cs rest : List Char} {j : Json} (h : readFraction negative significand e cs = .ok (j, rest)) :
    ∃ ds exponent x, cs = ds ++ exponent ++ rest ∧ j = .float x ∧
      IsFraction ('.' :: ds) ∧ IsExponent exponent := by
  rw [readFraction] at h
  by_cases hstart : startsWithDigit cs = true
  · rw [if_pos hstart] at h
    obtain ⟨exponent, x, hleft, hx, hexponent⟩ := taken_of_readTail h
    rw [spanDigits_absorb] at hleft
    refine ⟨(spanDigits cs).1, exponent, x, ?_, hx, ?_, hexponent⟩
    · rw [List.append_assoc, ← hleft, spanDigits_join]
    · exact .point (spanDigits_ne_nil hstart) (digits_spanDigits cs)
  · rw [if_neg hstart] at h
    cases h

theorem taken_of_readAfterWhole {negative : Bool} {significand dropped : Nat}
    {cs rest : List Char} {j : Json}
    (h : readAfterWhole negative significand dropped cs = .ok (j, rest)) :
    (∃ fraction exponent x, cs = fraction ++ exponent ++ rest ∧ j = .float x ∧
        IsFraction fraction ∧ IsExponent exponent ∧ fraction ++ exponent ≠ []) ∨
      rest = cs ∧ (dropped = 0 ∧ j = ofWhole negative significand ∨ dropped ≠ 0 ∧ ∃ x, j = .float x) := by
  rw [readAfterWhole.eq_def] at h
  split at h
  · obtain ⟨ds, exponent, x, rfl, hx, hfraction, hexponent⟩ := taken_of_readFraction h
    exact .inl ⟨'.' :: ds, exponent, x, rfl, hx, hfraction, hexponent, by simp⟩
  · obtain ⟨token, x, rfl, hx, hexponent⟩ := taken_of_readExponent h
    exact .inl ⟨[], 'e' :: token, x, rfl, hx, .none, hexponent 'e' (.inl rfl), by simp⟩
  · obtain ⟨token, x, rfl, hx, hexponent⟩ := taken_of_readExponent h
    exact .inl ⟨[], 'E' :: token, x, rfl, hx, .none, hexponent 'E' (.inr rfl), by simp⟩
  · by_cases hz : dropped = 0
    · rw [if_pos hz] at h
      cases h
      exact .inr ⟨rfl, .inl ⟨hz, rfl⟩⟩
    · rw [if_neg hz] at h
      obtain ⟨rfl, hx⟩ := exists_ofParts h
      exact .inr ⟨rfl, .inr ⟨hz, hx⟩⟩

theorem spells_ofWhole (negative : Bool) {whole : List Char} (h : IsWhole whole)
    (hlt : value whole < UInt64.size) :
    SpellsNumber (signed negative whole) (ofWhole negative (value whole)) := by
  have hpow : Nat.pow 2 63 = 2 ^ 63 := rfl
  have hmin := Int64.toInt_minValue
  have hn := wholeNumber?_signed negative h
  rw [ofWhole]
  cases negative with
  | false =>
    rw [if_neg (by simp)] at hn
    have hfits : Fits (value whole) := ⟨by omega, by omega⟩
    exact .whole (h.isNumber false) hn hfits
  | true =>
    rw [if_pos rfl]
    -- Minus zero, and what is below 64 bits with a sign, are read as doubles.
    by_cases hbeyond : value whole = 0 ∨ Nat.pow 2 63 < value whole
    · rw [if_pos hbeyond]
      refine .rounded (h.isNumber true) fun n hsome hfits => ?_
      rw [hn] at hsome
      rcases hbeyond with hz | hlarge
      · rw [if_pos ⟨rfl, hz⟩] at hsome
        cases hsome
      · have hlow := hfits.1
        rw [if_neg (by omega)] at hsome
        cases hsome
        rw [signedInt, if_pos rfl] at hlow
        omega
    · rw [if_neg hbeyond]
      rw [if_neg (by tauto)] at hn
      have hfits : Fits (-(value whole : Int)) := ⟨by omega, by omega⟩
      exact .whole (h.isNumber true) hn hfits

theorem spells_large (negative : Bool) {whole : List Char} (h : IsWhole whole)
    (hle : UInt64.size ≤ value whole) (x : Float) :
    SpellsNumber (signed negative whole) (.float x) := by
  have hsize : UInt64.size = 2 ^ 64 := rfl
  have hmin := Int64.toInt_minValue
  refine .rounded (h.isNumber negative) fun n hsome hfits => ?_
  obtain ⟨hlow, hhigh⟩ := hfits
  rw [wholeNumber?_signed negative h, if_neg (by omega)] at hsome
  cases hsome
  cases negative with
  | false =>
    rw [signedInt, if_neg Bool.false_ne_true] at hhigh
    omega
  | true =>
    rw [signedInt, if_pos rfl] at hlow
    omega

theorem taken_after_whole {negative : Bool} {whole cs rest : List Char} {significand dropped : Nat}
    {j : Json} (hwhole : IsWhole whole)
    (hvalue : dropped = 0 ∧ significand = value whole ∧ value whole < UInt64.size ∨
      dropped ≠ 0 ∧ UInt64.size ≤ value whole)
    (h : readAfterWhole negative significand dropped cs = .ok (j, rest)) :
    ∃ after, cs = after ++ rest ∧ SpellsNumber (signed negative (whole ++ after)) j := by
  rcases taken_of_readAfterWhole h with ⟨fraction, exponent, x, hcs, rfl, hfraction, hexponent, hne⟩ |
    ⟨rfl, hj⟩
  · refine ⟨fraction ++ exponent, hcs, .rounded (.parts hwhole hfraction hexponent) ?_⟩
    intro n hsome
    cases (wholeNumber?_eq_none hwhole hfraction hexponent hne).symm.trans hsome
  · refine ⟨[], rfl, ?_⟩
    rw [List.append_nil]
    rcases hvalue with ⟨hz, rfl, hlt⟩ | ⟨hdropped, hle⟩
    · obtain ⟨-, rfl⟩ := hj.resolve_right fun hj => hj.1 hz
      exact spells_ofWhole negative hwhole hlt
    · obtain ⟨-, x, rfl⟩ := hj.resolve_left fun hj => hdropped hj.1
      exact spells_large negative hwhole hle x

theorem value_of_absorb (cs : List Char) :
    (spanDigits (absorb (UInt64.size - 1) 0 cs).2).1.length = 0 ∧
        (absorb (UInt64.size - 1) 0 cs).1 = value (spanDigits cs).1 ∧
          value (spanDigits cs).1 < UInt64.size ∨
      (spanDigits (absorb (UInt64.size - 1) 0 cs).2).1.length ≠ 0 ∧
        UInt64.size ≤ value (spanDigits cs).1 := by
  have hlimit : UInt64.size - 1 + 1 = UInt64.size := by decide
  rw [Decimal.value_eq_ofDigitChars]
  rcases absorb_cases (UInt64.size - 1) (Nat.zero_le _) cs with ⟨hnone, hle, hread⟩ | ⟨hsome, hlt⟩
  · exact .inl ⟨by rw [hnone]; rfl, hread, by omega⟩
  · exact .inr ⟨by simpa using hsome, by omega⟩

/-- What a number reader takes of a text is a number, and spells what is read. -/
theorem taken_of_readNumber {negative : Bool} {cs rest : List Char} {j : Json}
    (h : readNumber negative cs = .ok (j, rest)) :
    ∃ token, cs = token ++ rest ∧ SpellsNumber (signed negative token) j := by
  rw [readNumber.eq_def] at h
  split at h
  · cases h
  · rename_i r
    by_cases hstart : startsWithDigit r = true
    · rw [if_pos hstart] at h
      cases h
    · rw [if_neg hstart] at h
      have hwhole : IsWhole ['0'] := ⟨by simp, by simp, by simp⟩
      obtain ⟨after, rfl, hspells⟩ := taken_after_whole hwhole (.inl ⟨rfl, by decide, by decide⟩) h
      exact ⟨'0' :: after, rfl, hspells⟩
  · rename_i c r hzero
    by_cases hc : c.isDigit = true
    -- All leading digits are the whole part, also those that did not fit.
    · have hwhole : IsWhole (spanDigits (c :: r)).1 := by
        refine ⟨spanDigits_ne_nil hc, digits_spanDigits _, fun hhead => ?_⟩
        rw [spanDigits_cons hc, List.head?_cons, Option.some.injEq] at hhead
        exact absurd hhead hzero
      rw [if_pos hc] at h
      simp only [spanDigits_absorb] at h
      obtain ⟨after, hafter, hspells⟩ := taken_after_whole hwhole (value_of_absorb _) h
      refine ⟨(spanDigits (c :: r)).1 ++ after, ?_, hspells⟩
      rw [List.append_assoc, ← hafter, spanDigits_join]
    · rw [if_neg hc] at h
      cases h

end TableMapper.Json
