import Mathlib.Algebra.Group.Int.Defs
import TableMapper.Proofs.Decimal.Whole
import TableMapper.Proofs.Field.Type
import TableMapper.Proofs.Text.Basic

/-!
# Whole numbers as contents of fields

A value may denote a whole number: as one, as a boolean, or with a text that has blanks around it. A
field of 64 bits reads exactly the numbers of that width, and a field of 32 bits those of them that
are in its range. What is out of range is refused and never wraps around.
-/

namespace TableMapper

open Decimal (DenotesInt intDigits)

namespace Value

/-- The whole number that a value stands for, of whatever size. -/
inductive Denotes : Value → Int → Prop
  | int (n : Int64) : Denotes (.int n) n.toInt
  | yes : Denotes (.bool true) 1
  | no : Denotes (.bool false) 0
  | text {s : String} {word : List Char} {z : Int} (hs : Text.Padded word s.toList)
      (hword : DenotesInt word z) : Denotes (.text s) z

theorem denotes_text_iff {s : String} {z : Int} :
    Denotes (.text s) z ↔ DenotesInt (Text.trim s.toList) z := by
  constructor
  · intro h
    cases h with
    | text hs hword =>
      rw [hs.trim_eq hword.ne_nil hword.noBlank]
      exact hword
  · exact .text (Text.padded_trim s.toList)

theorem Denotes.unique {v : Value} {z z' : Int} (h : v.Denotes z) (h' : v.Denotes z') : z = z' := by
  cases v with
  | text s =>
    have hread := Decimal.readInt?_eq_some.2 (denotes_text_iff.1 h)
    have hread' := Decimal.readInt?_eq_some.2 (denotes_text_iff.1 h')
    exact Option.some.inj (hread.symm.trans hread')
  | _ => cases h <;> cases h' <;> rfl

theorem int64?_eq_some {z : Int} {n : Int64} : Decimal.int64? z = some n ↔ n.toInt = z := by
  constructor
  · exact Decimal.toInt_of_int64?
  · rintro rfl
    exact int64?_toInt n

theorem asInt?_eq_some {v : Value} {n : Int64} : v.asInt? = some n ↔ v.Denotes n.toInt := by
  cases v with
  | int m =>
    rw [asInt?, Option.some.injEq]
    constructor
    · rintro rfl
      exact .int m
    · intro h
      exact Int64.toInt_inj.1 ((Denotes.int m).unique h)
  | bool b =>
    have hb : (Value.bool b).Denotes (if b then 1 else 0 : Int64).toInt := by
      cases b with
      | true => exact .yes
      | false => exact .no
    rw [asInt?, Option.some.injEq]
    constructor
    · rintro rfl
      exact hb
    · intro h
      exact Int64.toInt_inj.1 (hb.unique h)
  | text s =>
    rw [asInt?, Decimal.readInt64?, Option.bind_eq_some_iff, denotes_text_iff]
    simp only [int64?_eq_some, Decimal.readInt?_eq_some]
    constructor
    · rintro ⟨z, hz, rfl⟩
      exact hz
    · intro h
      exact ⟨n.toInt, h, rfl⟩
  | _ =>
    constructor
    · intro h
      cases h
    · intro h
      cases h

end Value

namespace BaseType

variable {v : Value}

theorem readInt64_eq_ok {n : Int64} : readInt64 v = .ok n ↔ v.Denotes n.toInt := by
  rw [← Value.asInt?_eq_some, readInt64]
  cases v.asInt? <;> simp

theorem readInt64_eq_error {e : Mismatch} :
    readInt64 v = .error e ↔ (∀ n : Int64, ¬v.Denotes n.toInt) ∧ e = .unexpected "integer" v := by
  simp only [← Value.asInt?_eq_some, readInt64]
  cases v.asInt? <;> simp [eq_comm]

theorem exists_readInt64 {z : Int} :
    (∃ n, readInt64 v = .ok n ∧ n.toInt = z) ↔ v.Denotes z ∧ -2 ^ 63 ≤ z ∧ z < 2 ^ 63 := by
  simp only [readInt64_eq_ok]
  constructor
  · rintro ⟨n, hn, rfl⟩
    exact ⟨hn, n.le_toInt, n.toInt_lt⟩
  · rintro ⟨hz, hlow, hhigh⟩
    have hn : (Int64.ofInt z).toInt = z := Int64.toInt_ofInt_of_le hlow hhigh
    exact ⟨Int64.ofInt z, hn.symm ▸ hz, hn⟩

theorem readInt64_of_out_of_range (h : ∀ z, v.Denotes z → ¬(-2 ^ 63 ≤ z ∧ z < 2 ^ 63)) :
    readInt64 v = .error (.unexpected "integer" v) := by
  refine readInt64_eq_error.2 ⟨?_, rfl⟩
  intro n hn
  exact h _ hn ⟨n.le_toInt, n.toInt_lt⟩

theorem readInt32_of_wide {n : Int64} (h : readInt64 v = .ok n)
    (hn : ¬(-2 ^ 31 ≤ n.toInt ∧ n.toInt < 2 ^ 31)) : readInt32 v = .error (.tooWide n) := by
  have hlow := Int32.toInt_minValue
  have hhigh := Int32.toInt_maxValue
  rw [readInt32, h, ok_bind, if_neg]
  omega

theorem readInt32_of_error {e : Mismatch} (h : readInt64 v = .error e) :
    readInt32 v = .error e := by
  rw [readInt32, h, error_bind]

theorem toInt64_ofInt {wide : Int64} (hlow : -2 ^ 31 ≤ wide.toInt) (hhigh : wide.toInt < 2 ^ 31) :
    (Int32.ofInt wide.toInt).toInt64 = wide := by
  apply Int64.toInt_inj.1
  rw [Int32.toInt_toInt64, Int32.toInt_ofInt_of_le hlow hhigh]

theorem readInt32_eq_ok {n : Int32} : readInt32 v = .ok n ↔ readInt64 v = .ok n.toInt64 := by
  constructor
  · intro h
    have hlow := Int32.toInt_minValue
    have hhigh := Int32.toInt_maxValue
    obtain ⟨wide, hwide, h⟩ := bind_eq_ok.1 h
    split at h
    · rename_i hbounds
      cases h
      rw [hwide, toInt64_ofInt (by omega) (by omega)]
    · cases h
  · exact readInt32_of_readInt64

theorem exists_readInt32 {z : Int} :
    (∃ n, readInt32 v = .ok n ∧ n.toInt = z) ↔
      (∃ n, readInt64 v = .ok n ∧ n.toInt = z) ∧ -2 ^ 31 ≤ z ∧ z < 2 ^ 31 := by
  simp only [readInt32_eq_ok]
  constructor
  · rintro ⟨n, hn, rfl⟩
    exact ⟨⟨n.toInt64, hn, Int32.toInt_toInt64 n⟩, n.le_toInt, n.toInt_lt⟩
  · rintro ⟨⟨wide, hwide, rfl⟩, hlow, hhigh⟩
    refine ⟨Int32.ofInt wide.toInt, ?_, Int32.toInt_ofInt_of_le hlow hhigh⟩
    rw [hwide, toInt64_ofInt hlow hhigh]

theorem denotes_intDigits {z : Int} {s : String} (h : Text.Padded (intDigits z) s.toList) :
    Value.Denotes (.text s) z :=
  .text h (Decimal.denotesInt_intDigits z)

/-- A field of 64 bits reads a value as a number exactly if the value denotes it and it has 64 bits,
and a field of 32 bits just if it moreover has 32 bits. A value that denotes no number in the wider
range is refused by both fields, and a number that is in the wider range only is refused by the
narrower field under its name. So the decimal text of a number is read as that number with any
blanks around it, and refused beyond the range. -/
theorem whole_numbers_exact :
    (∀ v : Value,
      (∀ z : Int, (∃ n, int64.ofValue v = .ok n ∧ n.toInt = z) ↔
        v.Denotes z ∧ -2 ^ 63 ≤ z ∧ z < 2 ^ 63) ∧
      (∀ z : Int, (∃ n, int32.ofValue v = .ok n ∧ n.toInt = z) ↔
        (∃ n, int64.ofValue v = .ok n ∧ n.toInt = z) ∧ -2 ^ 31 ≤ z ∧ z < 2 ^ 31) ∧
      ((∀ z, v.Denotes z → ¬(-2 ^ 63 ≤ z ∧ z < 2 ^ 63)) →
        int64.ofValue v = .error (.unexpected "integer" v) ∧
          int32.ofValue v = .error (.unexpected "integer" v)) ∧
      ∀ n, int64.ofValue v = .ok n → ¬(-2 ^ 31 ≤ n.toInt ∧ n.toInt < 2 ^ 31) →
        int32.ofValue v = .error (.tooWide n)) ∧
    ∀ (z : Int) (s : String), Text.Padded (intDigits z) s.toList →
      (∀ n : Int64, n.toInt = z → int64.ofValue (.text s) = .ok n) ∧
      (z < -2 ^ 63 ∨ 2 ^ 63 ≤ z →
        int64.ofValue (.text s) = .error (.unexpected "integer" (.text s))) := by
  refine ⟨?_, ?_⟩
  · intro v
    refine ⟨fun z => exists_readInt64, fun z => exists_readInt32, ?_, fun n => readInt32_of_wide⟩
    intro hrange
    have hwide := readInt64_of_out_of_range hrange
    exact ⟨hwide, readInt32_of_error hwide⟩
  · intro z s hs
    have hdenotes := denotes_intDigits hs
    constructor
    · rintro n rfl
      exact readInt64_eq_ok.2 hdenotes
    · intro hout
      apply readInt64_of_out_of_range
      intro z' hz'
      rw [← hdenotes.unique hz']
      omega

theorem whole_numbers_exact_extremes :
    let seven := Value.text "\u2003\n+007\t"
    let least := "\u00a0-9223372036854775808 "
    let below := " -9223372036854775809"
    seven.Denotes 7 ∧ int64.ofValue seven = .ok 7 ∧ int32.ofValue seven = .ok 7 ∧
      Text.Padded (intDigits (-9223372036854775808)) least.toList ∧
      int64.ofValue (.text least) = .ok Int64.minValue ∧
      int32.ofValue (.text least) = .error (.tooWide Int64.minValue) ∧
      Text.Padded (intDigits (-9223372036854775809)) below.toList ∧
      int64.ofValue (.text below) = .error (.unexpected "integer" (.text below)) ∧
      int32.ofValue (.int 2147483648) = .error (.tooWide 2147483648) ∧
      int32.ofValue (.float 7.0) = .error (.unexpected "integer" (.float 7.0)) := by
  intro seven least below
  obtain ⟨hvalues, htexts⟩ := whole_numbers_exact
  have hblanks : ∀ {cs : List Char}, cs.all Text.isBlank = true → ∀ c ∈ cs, Text.isBlank c = true :=
    List.all_eq_true.1
  have hseven : seven.Denotes 7 :=
    .text ⟨['\u2003', '\n'], ['\t'], by decide, hblanks (by decide), hblanks (by decide)⟩
      (by decide : DenotesInt ['+', '0', '0', '7'] 7)
  have hleast : Text.Padded (intDigits (-9223372036854775808)) least.toList :=
    ⟨['\u00a0'], [' '], by decide +kernel, hblanks (by decide), hblanks (by decide)⟩
  have hbelow : Text.Padded (intDigits (-9223372036854775809)) below.toList :=
    ⟨[' '], [], by decide +kernel, hblanks (by decide), hblanks (by decide)⟩
  have hnone : ∀ z, ¬(Value.float 7.0).Denotes z := by
    intro z hz
    cases hz
  have hread := (htexts _ least hleast).1 Int64.minValue (by decide)
  obtain ⟨hwide, hnarrow, -, -⟩ := hvalues seven
  obtain ⟨n, hn, hseven64⟩ := (hwide 7).2 ⟨hseven, by decide, by decide⟩
  obtain ⟨n', hn', hseven32⟩ := (hnarrow 7).2 ⟨⟨n, hn, hseven64⟩, by decide, by decide⟩
  obtain rfl : n = 7 := Int64.toInt_inj.1 hseven64
  obtain rfl : n' = 7 := Int32.toInt_inj.1 hseven32
  refine ⟨hseven, hn, hn', hleast, hread, ?_, hbelow, ?_, ?_, ?_⟩
  · exact (hvalues (.text least)).2.2.2 _ hread (by decide)
  · exact (htexts _ below hbelow).2 (by decide)
  · exact (hvalues (.int 2147483648)).2.2.2 _ rfl (by decide)
  · exact ((hvalues (.float 7.0)).2.2.1 fun z hz => absurd hz (hnone z)).2

end BaseType

end TableMapper
