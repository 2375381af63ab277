import TableMapper.Calendar.Timestamp
import TableMapper.Proofs.Calendar.Reading

/-!
# Counting days and minutes

The days of the calendar are numbered in their order, the first of January of the year one being
the first. No two days have one number, and the day after and the day before have the next number
and the one before, also across the ends of months, of leap years and of centuries. Minutes are
counted through all days in the same way, and a timestamp that is shifted moves by as many.
-/

namespace TableMapper.Calendar

def yearLength (year : Int) : Nat := if isLeap year then 366 else 365

/-- The days of the years before, from the year one on, with a leap day in every fourth year but
those of full centuries that four hundred does not divide. -/
def daysBeforeYear (year : Int) : Int :=
  365 * (year - 1) + (year - 1) / 4 - (year - 1) / 100 + (year - 1) / 400

def daysBeforeMonth (year : Int) : Nat → Nat
  | 0 => 0
  | 1 => 0
  | month + 2 => daysBeforeMonth year (month + 1) + monthLength year (month + 1)

theorem isLeap_iff (year : Int) :
    isLeap year = true ↔ year % 4 = 0 ∧ (year % 100 ≠ 0 ∨ year % 400 = 0) := by
  simp [isLeap]

theorem daysBeforeYear_succ (year : Int) :
    daysBeforeYear (year + 1) = daysBeforeYear year + yearLength year := by
  rw [daysBeforeYear, daysBeforeYear, yearLength]
  by_cases h : isLeap year = true
  · have hleap := (isLeap_iff year).1 h
    rw [if_pos h]
    omega
  · have hcommon := (isLeap_iff year).not.1 h
    rw [if_neg h]
    omega

theorem daysBeforeYear_le {year year' : Int} (h : year ≤ year') :
    daysBeforeYear year ≤ daysBeforeYear year' := by
  rw [daysBeforeYear, daysBeforeYear]
  omega

theorem daysBeforeMonth_succ (year : Int) {month : Nat} (h : 1 ≤ month) :
    daysBeforeMonth year (month + 1) = daysBeforeMonth year month + monthLength year month := by
  cases month with
  | zero => omega
  | succ month => rfl

theorem daysBeforeMonth_one (year : Int) : daysBeforeMonth year 1 = 0 := rfl

theorem daysBeforeMonth_thirteen (year : Int) : daysBeforeMonth year 13 = yearLength year := by
  by_cases h : isLeap year = true <;> simp [daysBeforeMonth, monthLength, yearLength, h]

theorem daysBeforeMonth_le (year : Int) {month month' : Nat} (h : month ≤ month') :
    daysBeforeMonth year month ≤ daysBeforeMonth year month' := by
  induction h with
  | refl => exact Nat.le_refl _
  | @step month' h ih =>
    cases month' with
    | zero => exact ih
    | succ month' =>
      have hstep := daysBeforeMonth_succ year (Nat.le_add_left 1 month')
      calc daysBeforeMonth year month
        _ ≤ daysBeforeMonth year (month' + 1) := ih
        _ ≤ daysBeforeMonth year (month' + 1 + 1) := by rw [hstep]; exact Nat.le_add_right _ _

def Date.dayNumber (d : Date) : Int :=
  daysBeforeYear d.year + daysBeforeMonth d.year d.month + d.day

theorem Date.dayOfYear_bounds (d : Date) :
    1 ≤ daysBeforeMonth d.year d.month + d.day ∧
      daysBeforeMonth d.year d.month + d.day ≤ yearLength d.year := by
  obtain ⟨-, -, hml, hmg, hdl, hdg⟩ := d.valid
  have hnext := daysBeforeMonth_succ d.year hml
  have hyear := daysBeforeMonth_le d.year (show d.month + 1 ≤ 13 by omega)
  rw [daysBeforeMonth_thirteen] at hyear
  omega

theorem Date.eq_of_fields {d e : Date} (hy : d.year = e.year) (hm : d.month = e.month)
    (hd : d.day = e.day) : d = e := by
  cases d
  cases e
  cases hy
  cases hm
  cases hd
  rfl

theorem Date.year_le_of_dayNumber {d e : Date} (h : d.dayNumber ≤ e.dayNumber) :
    d.year ≤ e.year := by
  by_contra hlater
  have hyears := daysBeforeYear_le (show e.year + 1 ≤ d.year by omega)
  rw [daysBeforeYear_succ] at hyears
  have hd := d.dayOfYear_bounds
  have he := e.dayOfYear_bounds
  rw [dayNumber, dayNumber] at h
  omega

theorem Date.month_le_of_dayNumber {d e : Date} (hy : d.year = e.year)
    (h : d.dayNumber ≤ e.dayNumber) : d.month ≤ e.month := by
  by_contra hlater
  obtain ⟨-, -, hml, -, -, hdg⟩ := e.valid
  obtain ⟨-, -, -, -, hdl, -⟩ := d.valid
  have hmonths := daysBeforeMonth_le e.year (show e.month + 1 ≤ d.month by omega)
  rw [daysBeforeMonth_succ e.year hml] at hmonths
  rw [dayNumber, dayNumber, hy] at h
  omega

theorem Date.dayNumber_inj {d e : Date} (h : d.dayNumber = e.dayNumber) : d = e := by
  have hy : d.year = e.year :=
    Int.le_antisymm (year_le_of_dayNumber (Int.le_of_eq h))
      (year_le_of_dayNumber (Int.le_of_eq h.symm))
  have hm : d.month = e.month :=
    Nat.le_antisymm (month_le_of_dayNumber hy (Int.le_of_eq h))
      (month_le_of_dayNumber hy.symm (Int.le_of_eq h.symm))
  rw [dayNumber, dayNumber, hy, hm] at h
  exact eq_of_fields hy hm (by omega)

theorem Date.of?_dayNumber {year : Int} {month day : Nat} (h : IsDate year month day) :
    ∃ e, Date.of? year month day = some e ∧
      e.dayNumber = daysBeforeYear year + daysBeforeMonth year month + day :=
  ⟨⟨year, month, day, h⟩, dif_pos h, rfl⟩

theorem monthLength_pos (year : Int) (month : Nat) : 1 ≤ monthLength year month := by
  rw [monthLength]
  split
  · split <;> omega
  · split <;> omega

theorem Date.next?_dayNumber {d : Date} (h : d.year < 262142) :
    ∃ e, d.next? = some e ∧ e.dayNumber = d.dayNumber + 1 := by
  obtain ⟨hyl, hyg, hml, hmg, hdl, hdg⟩ := d.valid
  have hmonths := daysBeforeMonth_succ d.year hml
  rw [next?, dayNumber]
  -- Within a month, from one month to the next, and from December to January.
  by_cases hday : d.day < monthLength d.year d.month
  · obtain ⟨e, he, hnumber⟩ := of?_dayNumber ⟨hyl, hyg, hml, hmg, Nat.le_add_left 1 d.day, hday⟩
    rw [if_pos hday]
    exact ⟨e, he, by omega⟩
  rw [if_neg hday]
  by_cases hmonth : d.month < 12
  · obtain ⟨e, he, hnumber⟩ := of?_dayNumber ⟨hyl, hyg, Nat.le_add_left 1 d.month, hmonth,
      Nat.le_refl 1, monthLength_pos d.year (d.month + 1)⟩
    rw [if_pos hmonth]
    exact ⟨e, he, by omega⟩
  · have hdecember : d.month = 12 := by omega
    obtain ⟨e, he, hnumber⟩ := of?_dayNumber ⟨show -262143 ≤ d.year + 1 by omega,
      show d.year + 1 ≤ 262142 by omega, Nat.le_refl 1, by omega, Nat.le_refl 1,
      monthLength_pos (d.year + 1) 1⟩
    rw [daysBeforeYear_succ, daysBeforeMonth_one] at hnumber
    rw [if_neg hmonth]
    rw [hdecember] at hday hdg hmonths ⊢
    rw [daysBeforeMonth_thirteen] at hmonths
    exact ⟨e, he, by omega⟩

theorem Date.previous?_dayNumber {d : Date} (h : -262143 < d.year) :
    ∃ e, d.previous? = some e ∧ e.dayNumber = d.dayNumber - 1 := by
  obtain ⟨hyl, hyg, hml, hmg, hdl, hdg⟩ := d.valid
  rw [previous?, dayNumber]
  -- The same three steps, where the month before may be shorter than its day.
  by_cases hday : 1 < d.day
  · obtain ⟨e, he, hnumber⟩ := of?_dayNumber ⟨hyl, hyg, hml, hmg,
      show 1 ≤ d.day - 1 by omega, by omega⟩
    rw [if_pos hday]
    exact ⟨e, he, by omega⟩
  rw [if_neg hday]
  by_cases hmonth : 1 < d.month
  · obtain ⟨e, he, hnumber⟩ := of?_dayNumber ⟨hyl, hyg, show 1 ≤ d.month - 1 by omega, by omega,
      monthLength_pos d.year (d.month - 1), Nat.le_refl _⟩
    have hmonths := daysBeforeMonth_succ d.year (show 1 ≤ d.month - 1 by omega)
    rw [Nat.sub_add_cancel hml] at hmonths
    rw [if_pos hmonth]
    exact ⟨e, he, by omega⟩
  · have hjanuary : d.month = 1 := by omega
    have hthirtyOne : monthLength (d.year - 1) 12 = 31 := rfl
    obtain ⟨e, he, hnumber⟩ := of?_dayNumber ⟨show -262143 ≤ d.year - 1 by omega,
      show d.year - 1 ≤ 262142 by omega, by decide, Nat.le_refl 12, by decide,
      Nat.le_of_eq hthirtyOne.symm⟩
    have hyear := daysBeforeYear_succ (d.year - 1)
    have hmonths := daysBeforeMonth_succ (d.year - 1) (show 1 ≤ 12 by decide)
    rw [Int.sub_add_cancel] at hyear
    rw [daysBeforeMonth_thirteen] at hmonths
    rw [if_neg hmonth, hjanuary, daysBeforeMonth_one]
    exact ⟨e, he, by omega⟩

/-- The minutes of all days up to the timestamp. -/
def Timestamp.minuteNumber (t : Timestamp) : Int :=
  1440 * t.date.dayNumber + 60 * t.clock.hour + t.clock.minute

/-- The timestamp `u` is so many minutes later than `t`, at the same second of the minute and the
same fraction of it, those of a leap second as well. -/
structure Timestamp.Later (minutes : Int) (t u : Timestamp) : Prop where
  minute : u.minuteNumber = t.minuteNumber + minutes
  second : u.clock.second = t.clock.second
  nanos : u.clock.nanos = t.clock.nanos

theorem Clock.eq_of_fields {c c' : Clock} (hh : c.hour = c'.hour) (hm : c.minute = c'.minute)
    (hs : c.second = c'.second) (hn : c.nanos = c'.nanos) : c = c' := by
  cases c
  cases c'
  cases hh
  cases hm
  cases hs
  cases hn
  rfl

theorem Timestamp.eq_of_minuteNumber {t u : Timestamp} (hm : t.minuteNumber = u.minuteNumber)
    (hs : t.clock.second = u.clock.second) (hn : t.clock.nanos = u.clock.nanos) : t = u := by
  obtain ⟨hh, hmin, -⟩ := t.clock.valid
  obtain ⟨hh', hmin', -⟩ := u.clock.valid
  rw [minuteNumber, minuteNumber] at hm
  have hday : t.date.dayNumber = u.date.dayNumber := by omega
  have hdate : t.date = u.date := Date.dayNumber_inj hday
  have hclock : t.clock = u.clock := Clock.eq_of_fields (by omega) (by omega) hs hn
  cases t
  cases u
  cases hdate
  cases hclock
  rfl

theorem Timestamp.Later.unique {minutes : Int} {t u v : Timestamp} (hu : t.Later minutes u)
    (hv : t.Later minutes v) : u = v :=
  eq_of_minuteNumber (hu.minute.trans hv.minute.symm) (hu.second.trans hv.second.symm)
    (hu.nanos.trans hv.nanos.symm)

theorem Date.step?_dayNumber {d : Date} {days : Int} (hl : -1 ≤ days) (hg : days ≤ 1)
    (hyl : -262143 < d.year) (hyg : d.year < 262142) :
    ∃ e, d.step? days = some e ∧ e.dayNumber = d.dayNumber + days := by
  have hcases : days = 0 ∨ days = 1 ∨ days = -1 := by omega
  rcases hcases with rfl | rfl | rfl
  · exact ⟨d, rfl, (Int.add_zero _).symm⟩
  · exact next?_dayNumber hyg
  · exact previous?_dayNumber hyl

/-- A timestamp is shifted by less than a day to the one that is so many minutes later. -/
theorem Timestamp.shift?_later {t : Timestamp} {minutes : Int} (hm : minutes.natAbs < 1440)
    (hyl : -262143 < t.date.year) (hyg : t.date.year < 262142) :
    ∃ u, t.shift? minutes = some u ∧ t.Later minutes u := by
  obtain ⟨hh, hmin, hs, hn⟩ := t.clock.valid
  obtain ⟨date, hdate, hnumber⟩ := @Date.step?_dayNumber t.date
    ((60 * t.clock.hour + t.clock.minute + minutes) / 1440) (by omega) (by omega) hyl hyg
  have hvalid : IsClock (((60 * t.clock.hour + t.clock.minute + minutes) % 1440).toNat / 60)
      (((60 * t.clock.hour + t.clock.minute + minutes) % 1440).toNat % 60)
      t.clock.second t.clock.nanos := ⟨by omega, by omega, hs, hn⟩
  refine ⟨⟨date, ⟨_, _, _, _, hvalid⟩⟩, ?_, ?_⟩
  · simp only [shift?, hdate, Clock.of?, dif_pos hvalid]
    rfl
  · constructor
    · rw [minuteNumber, minuteNumber]
      dsimp only
      omega
    · rfl
    · rfl

end TableMapper.Calendar
