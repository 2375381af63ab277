import TableMapper.Proofs.Calendar.DayCount
import TableMapper.Proofs.Calendar.OwnText

/-!
# Offsets from UTC

A timestamp with an offset behind it names the instant that is so many minutes earlier in UTC, and
one without an offset is taken as UTC itself. What is read is known by the minutes that are counted
through all days, so two texts with different offsets may name one instant.
-/

namespace TableMapper.Calendar

open Decimal (padded EndsDigits endsDigits_cons endsDigits_nil)

def hoursMinutes (minutes : Nat) : List Char :=
  padded 2 (minutes / 60) ++ ':' :: padded 2 (minutes % 60)

/-- The ways in which an offset of so many minutes is written. -/
inductive WritesOffset (minutes : Int) : List Char → Prop
  | east : 0 ≤ minutes → WritesOffset minutes ('+' :: hoursMinutes minutes.natAbs)
  | west : minutes ≤ 0 → WritesOffset minutes ('-' :: hoursMinutes minutes.natAbs)
  | utc : minutes = 0 → WritesOffset minutes ['Z']

variable {offset : Int} {cs : List Char}

theorem WritesOffset.endsDigits (h : WritesOffset offset cs) : EndsDigits cs := by
  cases h <;> exact endsDigits_cons.2 (by decide)

theorem WritesOffset.head?_ne (h : WritesOffset offset cs) : cs.head? ≠ some '.' := by
  cases h <;> simp

theorem offsetMinutes?_hoursMinutes {minutes : Nat} (h : minutes < 1440) :
    offsetMinutes? (hoursMinutes minutes) = some (minutes, []) := by
  have hhour : twoDigits? 0 23 (hoursMinutes minutes) =
      some (minutes / 60, ':' :: padded 2 (minutes % 60)) :=
    twoDigits?_padded (Nat.zero_le _) (by omega) (by omega)
  have hminute : twoDigits? 0 59 (padded 2 (minutes % 60)) = some (minutes % 60, []) := by
    have hread := @twoDigits?_padded [] 0 59 (minutes % 60) (Nat.zero_le _) (by omega) (by omega)
    rwa [List.append_nil] at hread
  have htotal : 60 * (minutes / 60) + minutes % 60 = minutes := Nat.div_add_mod minutes 60
  simp only [offsetMinutes?, hhour, hminute, skipChar?_cons, Option.bind_eq_bind,
    Option.bind_some, htotal]
  rfl

theorem offset?_of_writesOffset (h : WritesOffset offset cs) (hday : offset.natAbs < 1440) :
    offset? cs = some (offset, []) := by
  have hread := offsetMinutes?_hoursMinutes hday
  cases h with
  | east hsign =>
    have habs : (offset.natAbs : Int) = offset := by omega
    rw [offset?, hread]
    exact congrArg (fun n => some (n, [])) habs
  | west hsign =>
    have habs : -(offset.natAbs : Int) = offset := by omega
    rw [offset?, hread]
    exact congrArg (fun n => some (n, [])) habs
  | utc hzero =>
    rw [hzero]
    rfl

section Instants

variable {t : Timestamp} {separator : Char}

/-- The text of a timestamp with an offset names the instant so many minutes before what it shows. -/
theorem readInstant_offset (hl : 0 ≤ t.date.year) (hg : t.date.year ≤ 9999)
    (hs : separator = 'T' ∨ separator = ' ') (hday : offset.natAbs < 1440)
    (hoffset : WritesOffset offset cs) :
    ∃ i, readInstant (t.text separator ++ cs) = .ok i ∧ t.shown.Later (-offset) i.utc := by
  have hread := readZoned?_text t separator cs hl hg (isDateEnd_of_separator hs)
    hoffset.endsDigits hoffset.head?_ne
  obtain ⟨u, hshift, hlater⟩ := @Timestamp.shift?_later t.shown (-offset)
    (by rwa [Int.natAbs_neg]) (Int.lt_of_lt_of_le (by decide) hl)
    (Int.lt_of_le_of_lt hg (by decide))
  rw [offset?_of_writesOffset hoffset hday] at hread
  simp only [Option.bind_eq_bind, Option.bind_some, ne_eq, not_true_eq_false, if_false, hshift]
    at hread
  refine ⟨⟨u⟩, ?_, hlater⟩
  rw [readInstant, hread]
  rfl

theorem readZoned?_without_offset (hl : 0 ≤ t.date.year) (hg : t.date.year ≤ 9999)
    (hs : separator = 'T' ∨ separator = ' ') : readZoned? (t.text separator) = none := by
  have hread := readZoned?_text t separator [] hl hg (isDateEnd_of_separator hs)
    endsDigits_nil (by simp)
  rw [List.append_nil] at hread
  rw [hread]
  rfl

theorem readTimestamp_of_separator (t : Timestamp) (hs : separator = 'T' ∨ separator = ' ') :
    readTimestamp (t.text separator) = .ok t.shown := by
  rcases hs with rfl | rfl
  · exact readTimestamp_text t
  · exact readTimestamp_spaced t

theorem readInstant_without_offset (hl : 0 ≤ t.date.year) (hg : t.date.year ≤ 9999)
    (hs : separator = 'T' ∨ separator = ' ') :
    readInstant (t.text separator) = (readTimestamp (t.text separator)).map Instant.mk := by
  rw [readInstant, readZoned?_without_offset hl hg hs]

end Instants

/-- The text is one of this timestamp, of a year with four digits, with an offset of less than a day
behind it. -/
structure Timestamp.WrittenWithOffset (t : Timestamp) (offset : Int) (s : String) : Prop where
  year : 0 ≤ t.date.year ∧ t.date.year ≤ 9999
  small : offset.natAbs < 1440
  text : ∃ separator cs, (separator = 'T' ∨ separator = ' ') ∧ WritesOffset offset cs ∧
    s = String.ofList (t.text separator ++ cs)

end TableMapper.Calendar
