import TableMapper.Json.Basic
import TableMapper.Json.Reader
import TableMapper.Proofs.Except

/-!
# Reading back JSON strings

Every character, however it is escaped, is read back as itself, so a string may hold any text.
-/

namespace TableMapper.Json

theorem hexValue?_digitChar : ∀ d < 16, Text.hexValue? d.digitChar = some d := by decide

theorem readHex_code {n : Nat} (hn : n < 256) (rest : List Char) :
    readHex ('0' :: '0' :: (n / 16).digitChar :: (n % 16).digitChar :: rest) = .ok (n, rest) := by
  have hz : Text.hexValue? '0' = some 0 := by decide
  have hh := hexValue?_digitChar (n / 16) (by omega)
  have hl := hexValue?_digitChar (n % 16) (by omega)
  have he : 16 * (n / 16) + n % 16 = n := by omega
  simp [readHex, hexNumber?, hz, hh, hl, he]

theorem readUnicode_code {c : Char} (hc : c.toNat < 256) (rest : List Char) :
    readUnicode ('0' :: '0' :: (c.toNat / 16).digitChar :: (c.toNat % 16).digitChar :: rest) =
      .ok (c, rest) := by
  have hlow : ¬(0xDC00 ≤ c.toNat ∧ c.toNat ≤ 0xDFFF) := by omega
  have hhigh : ¬(0xD800 ≤ c.toNat ∧ c.toNat ≤ 0xDBFF) := by omega
  simp only [readUnicode, readHex_code hc, ok_bind, hlow, hhigh, if_false, Char.ofNat_toNat]

theorem readCharacters_escaped {fuel : Nat} {c : Char} {cs rest : List Char}
    (h : readEscape cs = .ok (c, rest)) :
    readCharacters (fuel + 1) ('\\' :: cs) =
      (readCharacters fuel rest).map fun p => (c :: p.1, p.2) := by
  have hq : '\\' ≠ '"' := by decide
  simp only [readCharacters, hq, if_false, if_true, h, ok_bind]
  cases readCharacters fuel rest <;> simp

theorem readCharacters_escape (fuel : Nat) (c : Char) (rest : List Char) :
    readCharacters (fuel + 1) (escape c ++ rest) =
      (readCharacters fuel rest).map fun p => (c :: p.1, p.2) := by
  rw [escape]
  by_cases hquote : c = '"'
  · subst hquote
    exact readCharacters_escaped rfl
  by_cases hbackslash : c = '\\'
  · subst hbackslash
    exact readCharacters_escaped rfl
  by_cases hbackspace : c = '\x08'
  · subst hbackspace
    exact readCharacters_escaped rfl
  by_cases hfeed : c = '\x0c'
  · subst hfeed
    exact readCharacters_escaped rfl
  by_cases hline : c = '\n'
  · subst hline
    exact readCharacters_escaped rfl
  by_cases hreturn : c = '\r'
  · subst hreturn
    exact readCharacters_escaped rfl
  by_cases htab : c = '\t'
  · subst htab
    exact readCharacters_escaped rfl
  simp only [hquote, hbackslash, hbackspace, hfeed, hline, hreturn, htab, if_false]
  split
  · rename_i hcontrol
    exact readCharacters_escaped (readUnicode_code (by omega) rest)
  · rename_i hprinted
    simp only [List.cons_append, List.nil_append, readCharacters, hquote, hbackslash, hprinted,
      if_false]
    cases readCharacters fuel rest <;> simp

theorem readCharacters_escapes {fuel : Nat} {cs : List Char} (h : cs.length < fuel)
    (rest : List Char) :
    readCharacters fuel (cs.flatMap escape ++ '"' :: rest) = .ok (cs, rest) := by
  induction cs generalizing fuel with
  | nil =>
    obtain ⟨fuel, rfl⟩ := Nat.exists_eq_add_one_of_ne_zero (Nat.ne_of_gt h)
    simp [readCharacters]
  | cons c cs ih =>
    obtain ⟨fuel, rfl⟩ := Nat.exists_eq_add_one_of_ne_zero (Nat.ne_of_gt (Nat.lt_of_le_of_lt
      (Nat.zero_le _) h))
    rw [List.length_cons] at h
    rw [List.flatMap_cons, List.append_assoc, readCharacters_escape, ih (by omega), map_ok]

theorem length_le_escapes (cs : List Char) : cs.length ≤ (cs.flatMap escape).length := by
  induction cs with
  | nil => simp
  | cons c cs ih =>
    have hc : 1 ≤ (escape c).length := by
      rw [escape]
      repeat' split
      all_goals simp
    simp only [List.flatMap_cons, List.length_append, List.length_cons]
    omega

theorem readString_printText (s : String) (rest : List Char) :
    readString (s.toList.flatMap escape ++ '"' :: rest) = .ok (s, rest) := by
  have hfuel : s.toList.length < (s.toList.flatMap escape ++ '"' :: rest).length + 1 := by
    have := length_le_escapes s.toList
    simp only [List.length_append]
    omega
  rw [readString, readCharacters_escapes hfuel, ok_bind]
  simp

end TableMapper.Json
