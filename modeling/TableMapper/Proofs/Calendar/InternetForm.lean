import TableMapper.Proofs.Calendar.OwnText

/-!
# The internet form read by patterns

Numbers of a fixed width are also what a pattern reads, which takes no more digits than that. So
the date and the time of day of a timestamp with an offset are read by the patterns for those
without one, up to the offset.
-/

namespace TableMapper.Calendar

open Text (trimStart)

variable {cs rest : List Char} {p q : Parts}

theorem fixedNumber?_eq_some {width n : Nat} (h : fixedNumber? width cs = some (n, rest)) :
    ∃ ds, cs = ds ++ rest ∧ ds.length = width ∧ (∀ c ∈ ds, c.isDigit = true) ∧
      n = Decimal.value ds := by
  rw [fixedNumber?] at h
  split at h
  · rename_i hwidth
    cases h
    exact ⟨cs.take width, (List.take_append_drop width cs).symm, hwidth.1,
      List.all_eq_true.1 hwidth.2, rfl⟩
  · cases h

theorem readNumber_of_fixedNumber? {width n : Nat} (hpos : 0 < width) (hwidth : width ≤ 18)
    (h : fixedNumber? width cs = some (n, rest)) : readNumber width cs = .ok (n, rest) := by
  obtain ⟨ds, rfl, hlength, hdigits, rfl⟩ := fixedNumber?_eq_some h
  have hne : ds ≠ [] := List.ne_nil_of_length_pos (hlength.symm ▸ hpos)
  have htake : (Decimal.spanDigits (ds ++ rest)).1.take width = ds := by
    rw [Decimal.spanDigits, List.takeWhile_append_of_pos hdigits, ← hlength, List.take_left]
  have hfits : Decimal.value ds < Nat.pow 2 63 := by
    calc Decimal.value ds
      _ < Nat.pow 10 ds.length := Decimal.value_lt hdigits
      _ ≤ Nat.pow 10 18 := Nat.pow_le_pow_right (by decide) (hlength ▸ hwidth)
      _ < Nat.pow 2 63 := by decide
  rw [readNumber]
  simp only [htake]
  rw [if_neg (by simp [hne]), if_neg hne, if_neg (Nat.not_le.2 hfits), List.drop_left]

theorem trimStart_of_fixedNumber? {width n : Nat} (hpos : 0 < width)
    (h : fixedNumber? width cs = some (n, rest)) : trimStart cs = cs := by
  obtain ⟨ds, rfl, hlength, hdigits, -⟩ := fixedNumber?_eq_some h
  exact Decimal.trimStart_append hdigits (List.ne_nil_of_length_pos (hlength.symm ▸ hpos))

theorem fixedNumber?_of_twoDigits? {least greatest n : Nat}
    (h : twoDigits? least greatest cs = some (n, rest)) :
    fixedNumber? 2 cs = some (n, rest) ∧ least ≤ n ∧ n ≤ greatest := by
  obtain ⟨⟨m, r⟩, hnumber, h⟩ := Option.bind_eq_some_iff.1 h
  dsimp only at h
  split at h
  · rename_i hbounds
    cases h
    exact ⟨hnumber, hbounds⟩
  · cases h

theorem readBetween_of_twoDigits? {least greatest n : Nat}
    (h : twoDigits? least greatest cs = some (n, rest)) :
    readBetween least greatest cs = .ok (n, rest) := by
  obtain ⟨hnumber, hbounds⟩ := fixedNumber?_of_twoDigits? h
  have hread := readNumber_of_fixedNumber? (by decide) (by decide) hnumber
  rw [readBetween, trimStart_of_fixedNumber? (by decide) hnumber, hread, ok_bind]
  dsimp only
  rw [if_pos hbounds]

theorem readYear_of_fixedNumber? {n : Nat} (h : fixedNumber? 4 cs = some (n, rest)) :
    readYear cs = .ok ((n : Int), rest) := by
  have hread := readNumber_of_fixedNumber? (by decide) (by decide) h
  obtain ⟨ds, rfl, hlength, hdigits, rfl⟩ := fixedNumber?_eq_some h
  have hsmall : Decimal.value ds < 10000 := by
    have hlt := Decimal.value_lt hdigits
    rw [hlength] at hlt
    exact hlt
  cases ds with
  | nil => cases hlength
  | cons c ds => exact readYear_unsigned (hdigits c List.mem_cons_self) hread (by omega)

theorem skipChar?_eq_some {c : Char} (h : skipChar? c cs = some rest) : cs = c :: rest := by
  cases cs with
  | nil => cases h
  | cons d cs =>
    rw [skipChar?] at h
    split at h
    · rename_i hd
      cases h
      rw [hd]
    · cases h

theorem readItems_of_zonedDate? (h : zonedDate? cs = some (p, rest)) :
    readItems datePattern {} cs = .ok (p, rest) := by
  obtain ⟨⟨year, cs₁⟩, hyear, h⟩ := Option.bind_eq_some_iff.1 h
  obtain ⟨cs₂, hfirst, h⟩ := Option.bind_eq_some_iff.1 h
  obtain ⟨⟨month, cs₃⟩, hmonth, h⟩ := Option.bind_eq_some_iff.1 h
  obtain ⟨cs₄, hsecond, h⟩ := Option.bind_eq_some_iff.1 h
  obtain ⟨⟨day, cs₅⟩, hday, h⟩ := Option.bind_eq_some_iff.1 h
  cases h
  obtain rfl := skipChar?_eq_some hfirst
  obtain rfl := skipChar?_eq_some hsecond
  simp only [datePattern, readItems, Item.read, readYear_of_fixedNumber? hyear,
    readBetween_of_twoDigits? hmonth, readBetween_of_twoDigits? hday, map_ok, ok_bind, if_true]

theorem readItems_of_zonedClock? {mid : List Char} {whole : Parts}
    (hclock : zonedClock? p cs = some (q, mid))
    (hfraction : zonedFraction? q mid = some (whole, rest)) :
    readItems clockPattern p cs = .ok (whole, rest) ∧ trimStart cs = cs := by
  obtain ⟨⟨hour, cs₁⟩, hhour, h⟩ := Option.bind_eq_some_iff.1 hclock
  obtain ⟨cs₂, hfirst, h⟩ := Option.bind_eq_some_iff.1 h
  obtain ⟨⟨minute, cs₃⟩, hminute, h⟩ := Option.bind_eq_some_iff.1 h
  obtain ⟨cs₄, hsecond, h⟩ := Option.bind_eq_some_iff.1 h
  obtain ⟨⟨second, cs₅⟩, hseconds, h⟩ := Option.bind_eq_some_iff.1 h
  cases h
  obtain rfl := skipChar?_eq_some hfirst
  obtain rfl := skipChar?_eq_some hsecond
  have hread : Item.fraction.read { p with hour, minute, second } mid = .ok (whole, rest) := by
    rw [zonedFraction?_eq] at hfraction
    cases hitem : Item.fraction.read { p with hour, minute, second } mid with
    | error e =>
      rw [hitem] at hfraction
      cases hfraction
    | ok r =>
      rw [hitem] at hfraction
      cases hfraction
      rfl
  have hhours : Item.hour.read p cs = .ok ({ p with hour }, ':' :: cs₂) := by
    simp only [Item.read, readBetween_of_twoDigits? hhour, map_ok]
  have hminutes : Item.minute.read { p with hour } cs₂ =
      .ok ({ p with hour, minute }, ':' :: cs₄) := by
    simp only [Item.read, readBetween_of_twoDigits? hminute, map_ok]
  have hsecs : Item.second.read { p with hour, minute } cs₄ =
      .ok ({ p with hour, minute, second }, mid) := by
    simp only [Item.read, readBetween_of_twoDigits? hseconds, map_ok]
  constructor
  · simp only [clockPattern, readItems, hhours, hminutes, hsecs, hread, read_literal, ok_bind]
  · exact trimStart_of_fixedNumber? (by decide) (fixedNumber?_of_twoDigits? hhour).1

theorem ne_nil_of_offset? {r : Int × List Char} (h : offset? cs = some r) : cs ≠ [] := by
  rintro rfl
  cases h

end TableMapper.Calendar
