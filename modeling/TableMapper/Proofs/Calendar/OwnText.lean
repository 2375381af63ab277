import Mathlib.Data.List.DropRight
import TableMapper.Calendar.Reader
import TableMapper.Proofs.Calendar.Reading

/-!
# Dates and times read back from their own texts

The numbers of the internet form have fixed widths. They are those of the printer as long as the
year has four digits and no sign; what follows the time of day is left to the reader of offsets.

Several patterns are tried in turn, so a text is read as what it was written from only if every
pattern before the right one fails on it. Texts of dates and timestamps are read in every year. Those
of instants end in an offset, which only the internet form allows, and that has no years beyond four
digits.
-/

namespace TableMapper.Calendar

open Decimal (padded EndsDigits endsDigits_cons endsDigits_nil)

variable {rest : List Char}

theorem fixedNumber?_padded (width n : Nat) (hw : 0 < width) (hn : n < Nat.pow 10 width) :
    fixedNumber? width (padded width n ++ rest) = some (n, rest) := by
  have hl := Decimal.length_padded hw hn
  have hd : (padded width n).all Char.isDigit = true :=
    List.all_eq_true.2 fun _ => Decimal.isDigit_of_mem_padded
  simp [fixedNumber?, hl, hd]

theorem twoDigits?_padded {least greatest n : Nat} (hl : least ≤ n) (hg : n ≤ greatest)
    (hn : n < 100) : twoDigits? least greatest (padded 2 n ++ rest) = some (n, rest) := by
  simp [twoDigits?, fixedNumber?_padded 2 n (by omega) hn, hl, hg]

theorem skipChar?_cons (c : Char) : skipChar? c (c :: rest) = some rest := by
  simp [skipChar?]

theorem zonedDate?_text {d : Date} (hl : 0 ≤ d.year) (hg : d.year ≤ 9999) :
    zonedDate? (d.text ++ rest) = some (d.parts, rest) := by
  obtain ⟨-, ⟨hml, hmg⟩, hdl, hdg⟩ := d.bounds
  have hyear : yearText d.year = padded 4 d.year.natAbs := by
    simp [yearText, Int.not_lt.2 hl, Int.not_lt.2 hg]
  have hcast : (d.year.natAbs : Int) = d.year := by omega
  have hfour : d.year.natAbs < 10000 := by omega
  simp only [zonedDate?, Date.text, hyear, List.append_assoc, List.cons_append,
    fixedNumber?_padded 4 d.year.natAbs (by omega) hfour,
    skipChar?_cons, twoDigits?_padded hml hmg (by omega), twoDigits?_padded hdl hdg (by omega),
    Option.bind_eq_bind, Option.bind_some, hcast]
  rfl

theorem zonedFraction?_eq (p : Parts) (cs : List Char) :
    zonedFraction? p cs = (Item.fraction.read p cs).toOption := by
  unfold zonedFraction?
  split
  · rename_i r
    simp only [Item.read]
    cases readNanos r <;> rfl
  · rename_i hne
    have hread : Item.fraction.read p cs = .ok (p, cs) := by
      simp only [Item.read]
    rw [hread]
    rfl

theorem readZoned?_text (t : Timestamp) (separator : Char) (rest : List Char) (hl : 0 ≤ t.date.year)
    (hg : t.date.year ≤ 9999) (hs : isDateEnd separator = true) (hr : EndsDigits rest)
    (hdot : rest.head? ≠ some '.') :
    readZoned? (t.text separator ++ rest) = (do
      let (offset, cs) ← offset? rest
      if cs ≠ [] then none
      else do
        let utc ← t.shown.shift? (-offset)
        return ⟨utc⟩) := by
  obtain ⟨hh, hm, hsec, hn⟩ := t.clock.text_bounds
  have hf : zonedFraction? { t.date.parts with
      hour := t.clock.hour
      minute := t.clock.minute
      second := t.clock.second + t.clock.nanos / 1000000000 }
      (fractionText (t.clock.nanos % 1000000000) ++ rest) = some (t.parts, rest) := by
    rw [zonedFraction?_eq, read_fraction rfl hn hr hdot]
    rfl
  simp only [readZoned?, Timestamp.text, List.append_assoc, List.cons_append,
    zonedDate?_text hl hg, Option.bind_eq_bind, Option.bind_some, hs, if_true, zonedClock?,
    Clock.text, twoDigits?_padded (Nat.zero_le _) hh (by omega), skipChar?_cons,
    twoDigits?_padded (Nat.zero_le _) hm (by omega),
    twoDigits?_padded (Nat.zero_le _) hsec (by omega), Option.pure_def, hf, timestamp?_parts]

theorem shift?_zero (t : Timestamp) : t.shift? 0 = some t := by
  obtain ⟨hh, hm, -⟩ := t.clock.valid
  have hday : (60 * (t.clock.hour : Int) + t.clock.minute + 0) / 1440 = 0 := by omega
  have hrest : ((60 * (t.clock.hour : Int) + t.clock.minute + 0) % 1440).toNat =
      60 * t.clock.hour + t.clock.minute := by omega
  have hhour : (60 * t.clock.hour + t.clock.minute) / 60 = t.clock.hour := by omega
  have hminute : (60 * t.clock.hour + t.clock.minute) % 60 = t.clock.minute := by omega
  simp only [Timestamp.shift?, hday, hrest, hhour, hminute, Date.step?, if_true,
    t.clock.of?_self, Option.bind_eq_bind, Option.bind_some]
  rfl

theorem readInstant_text {i : Instant} (hl : 0 ≤ i.utc.date.year) (hg : i.utc.date.year ≤ 9999) :
    readInstant (i.text 'T') = .ok i.shown := by
  have h := readZoned?_text i.utc 'T' ['+', '0', '0', ':', '0', '0'] hl hg (by decide)
    (Decimal.endsDigits_cons.2 (by decide)) (by decide)
  have hoffset : offset? ['+', '0', '0', ':', '0', '0'] = some (0, []) := by decide
  rw [readInstant, Instant.text, h, hoffset]
  simp [shift?_zero, Instant.shown]

theorem readNumber_of_endsDigits (most : Nat) {cs : List Char} (h : EndsDigits cs) :
    ∃ e, readNumber most cs = .error e := by
  rw [readNumber, Decimal.spanDigits_of_endsDigits h]
  by_cases hcs : cs = []
  · exact ⟨.tooShort, by simp [hcs]⟩
  · exact ⟨.invalid, by simp [hcs]⟩

theorem trimStart_trimStart (cs : List Char) :
    Text.trimStart (Text.trimStart cs) = Text.trimStart cs :=
  List.dropWhile_idempotent Text.isBlank cs

theorem endsDigits_T (cs : List Char) : EndsDigits (Text.trimStart ('T' :: cs)) := by
  rw [Text.trimStart_of_not_blank (by decide)]
  exact endsDigits_cons.2 (by decide)

theorem readItems_clock_of_endsDigits (p : Parts) {cs : List Char}
    (h : EndsDigits (Text.trimStart cs)) : ∃ e, readItems clockPattern p cs = .error e := by
  obtain ⟨e, he⟩ := readNumber_of_endsDigits 2 h
  refine ⟨e, ?_⟩
  rw [clockPattern, readItems, Item.read, readBetween, he]
  rfl

theorem readBy_isoPattern_of_head (d : Date) (rest : List Char) (hr : EndsDigits rest)
    (hT : rest.head? ≠ some 'T') :
    ∃ e, readBy isoPattern (d.text ++ rest) = .error e := by
  rw [readBy, isoPattern, readItems_date d _ hr, readItems]
  cases rest with
  | nil => exact ⟨.tooShort, rfl⟩
  | cons c cs =>
    have hc : c ≠ 'T' := by simpa using hT
    exact ⟨.invalid, by simp [Item.read, hc]⟩

theorem readBy_spacedPattern_of_endsDigits (d : Date) (rest : List Char) (hr : EndsDigits rest)
    (h : EndsDigits (Text.trimStart rest)) :
    ∃ e, readBy spacedPattern (d.text ++ rest) = .error e := by
  obtain ⟨e, he⟩ := readItems_clock_of_endsDigits d.parts ((trimStart_trimStart rest).symm ▸ h)
  refine ⟨e, ?_⟩
  rw [readBy, spacedPattern, readItems_date d _ hr, readItems, Item.read, ok_bind]
  simp only [he, error_bind]

theorem readBy_tooLong {pattern : List Item} {cs : List Char} {p : Parts}
    (h : readItems pattern {} cs = .ok (p, rest)) (hrest : rest ≠ []) :
    readBy pattern cs = .error .tooLong := by
  rw [readBy, h, ok_bind]
  simp only [hrest, ne_eq, not_false_eq_true, if_true]

theorem readBy_datePattern_tooLong (d : Date) (hr : EndsDigits rest) (hrest : rest ≠ []) :
    readBy datePattern (d.text ++ rest) = .error .tooLong := by
  have h := readItems_date d [] hr
  rw [List.append_nil] at h
  exact readBy_tooLong h hrest

theorem trimStart_space_clock (c : Clock) :
    Text.trimStart (' ' :: (c.text ++ rest)) = c.text ++ rest := by
  have hspace : Text.isBlank ' ' = true := by decide
  have hclock : Text.trimStart (c.text ++ rest) = c.text ++ rest := by
    rw [Clock.text]
    simp only [List.append_assoc]
    exact Decimal.trimStart_append (fun _ => Decimal.isDigit_of_mem_padded)
      (Decimal.padded_ne_nil 2 c.hour)
  rw [Text.trimStart, List.dropWhile_cons, if_pos hspace]
  exact hclock

theorem readItems_isoPattern (t : Timestamp) (hr : EndsDigits rest) (hdot : rest.head? ≠ some '.') :
    readItems isoPattern {} (t.text 'T' ++ rest) = .ok (t.parts, rest) := by
  have hT : EndsDigits ('T' :: (t.clock.text ++ rest)) := endsDigits_cons.2 (by decide)
  rw [isoPattern, Timestamp.text, List.append_assoc, List.cons_append, readItems_date t.date _ hT,
    readItems, read_literal, ok_bind]
  exact readItems_clock t hr hdot

theorem readItems_spacedPattern (t : Timestamp) (hr : EndsDigits rest)
    (hdot : rest.head? ≠ some '.') :
    readItems spacedPattern {} (t.text ' ' ++ rest) = .ok (t.parts, rest) := by
  have hspace : EndsDigits (' ' :: (t.clock.text ++ rest)) := endsDigits_cons.2 (by decide)
  rw [spacedPattern, Timestamp.text, List.append_assoc, List.cons_append,
    readItems_date t.date _ hspace, readItems, Item.read, trimStart_space_clock, ok_bind]
  exact readItems_clock t hr hdot

theorem readBy_spacedPattern (t : Timestamp) : readBy spacedPattern (t.text ' ') = .ok t.shown := by
  have h := readItems_spacedPattern t endsDigits_nil (by simp)
  rw [List.append_nil] at h
  rw [readBy, h, ok_bind]
  simp [timestamp?_parts]

theorem readTimestamp_date (d : Date) : readTimestamp d.text = .ok d.atMidnight := by
  obtain ⟨e, hiso⟩ := readBy_isoPattern_of_head d [] endsDigits_nil (by simp)
  obtain ⟨e', hspaced⟩ := readBy_spacedPattern_of_endsDigits d [] endsDigits_nil endsDigits_nil
  rw [List.append_nil] at hiso hspaced
  rw [readTimestamp, hiso, hspaced]
  exact readBy_datePattern d

theorem readTimestamp_spaced (t : Timestamp) : readTimestamp (t.text ' ') = .ok t.shown := by
  obtain ⟨e, hiso⟩ := readBy_isoPattern_of_head t.date (' ' :: t.clock.text)
    (endsDigits_cons.2 (by decide)) (by simp)
  rw [← Timestamp.text] at hiso
  rw [readTimestamp, hiso]
  simp only [readBy_spacedPattern]

def utcOffset : List Char := ['+', '0', '0', ':', '0', '0']

theorem endsDigits_utcOffset : EndsDigits utcOffset := endsDigits_cons.2 (by decide)

theorem readTimestamp_offset (t : Timestamp) {separator : Char}
    (hs : separator = 'T' ∨ separator = ' ') :
    readTimestamp (t.text separator ++ utcOffset) = .error .tooLong := by
  have hdot : utcOffset.head? ≠ some '.' := by decide
  have hrest : utcOffset ≠ [] := by simp [utcOffset]
  have hdate : ∀ c : Char, c.isDigit = false →
      readBy datePattern (t.text c ++ utcOffset) = .error .tooLong := by
    intro c hc
    rw [Timestamp.text, List.append_assoc]
    exact readBy_datePattern_tooLong t.date (endsDigits_cons.2 hc) (by simp)
  rcases hs with rfl | rfl
  · have hiso := readBy_tooLong (readItems_isoPattern t endsDigits_utcOffset hdot) hrest
    obtain ⟨e, hspaced⟩ := readBy_spacedPattern_of_endsDigits t.date
      ('T' :: (t.clock.text ++ utcOffset)) (endsDigits_cons.2 (by decide)) (endsDigits_T _)
    rw [← List.cons_append, ← List.append_assoc, ← Timestamp.text] at hspaced
    rw [readTimestamp, hiso, hspaced]
    exact hdate 'T' (by decide)
  · obtain ⟨e, hiso⟩ := readBy_isoPattern_of_head t.date
      (' ' :: (t.clock.text ++ utcOffset)) (endsDigits_cons.2 (by decide)) (by simp)
    rw [← List.cons_append, ← List.append_assoc, ← Timestamp.text] at hiso
    have hspaced := readBy_tooLong (readItems_spacedPattern t endsDigits_utcOffset hdot) hrest
    rw [readTimestamp, hiso, hspaced]
    exact hdate ' ' (by decide)

theorem isDateEnd_of_separator {separator : Char} (hs : separator = 'T' ∨ separator = ' ') :
    isDateEnd separator = true := by
  rcases hs with rfl | rfl <;> decide

theorem yearText_signed {year : Int} (h : ¬(0 ≤ year ∧ year ≤ 9999)) :
    ∃ sign ds, yearText year = sign :: ds ∧ sign.isDigit = false := by
  rw [yearText]
  by_cases hneg : year < 0
  · exact ⟨'-', padded 4 year.natAbs, by simp [hneg], by decide⟩
  · have hbig : 9999 < year := by omega
    exact ⟨'+', padded 4 year.natAbs, by simp [hneg, hbig], by decide⟩

theorem readZoned?_of_year {d : Date} (h : ¬(0 ≤ d.year ∧ d.year ≤ 9999)) :
    readZoned? (d.text ++ rest) = none := by
  obtain ⟨sign, ds, htext, hsign⟩ := yearText_signed h
  have hyear : ∀ cs, fixedNumber? 4 (sign :: cs) = none := by
    intro cs
    rw [fixedNumber?, if_neg]
    rintro ⟨-, hall⟩
    rw [List.take_succ_cons, List.all_cons, hsign] at hall
    cases hall
  simp only [readZoned?, zonedDate?, Date.text, htext, List.cons_append, hyear]
  rfl

/-- The text of an instant is read as the instant it shows if the year has four digits. In any other
year the reader stops behind the date. -/
theorem readInstant_ownText (i : Instant) {separator : Char}
    (hs : separator = 'T' ∨ separator = ' ') :
    readInstant (i.text separator) =
      if 0 ≤ i.utc.date.year ∧ i.utc.date.year ≤ 9999 then .ok i.shown else .error .tooLong := by
  by_cases hyear : 0 ≤ i.utc.date.year ∧ i.utc.date.year ≤ 9999
  · have hend := isDateEnd_of_separator hs
    have hoffset : offset? utcOffset = some (0, []) := by decide
    have h := readZoned?_text i.utc separator utcOffset hyear.1 hyear.2 hend endsDigits_utcOffset
      (by decide)
    rw [if_pos hyear, readInstant, Instant.text, ← utcOffset, h, hoffset]
    simp [shift?_zero, Instant.shown]
  · have hnone : readZoned? (i.utc.text separator ++ utcOffset) = none := by
      rw [Timestamp.text, List.append_assoc]
      exact readZoned?_of_year hyear
    rw [if_neg hyear, readInstant, Instant.text, ← utcOffset, hnone]
    simp only [readTimestamp_offset i.utc hs, map_error]

end TableMapper.Calendar
