import TableMapper.Decimal.Digits

/-!
# Dates, times of day and timestamps

Days of the proleptic Gregorian calendar. A date carries the proof that it names a day, so every
operation that might leave the calendar answers with an option.

A leap second is kept as the second before it with a thousand million nanoseconds more. That may be
any second, although leap seconds are inserted only at the end of a minute. A timestamp has no time
zone; an instant is a timestamp in UTC.

In a text a year has four digits, or a sign and at least four outside of 0 to 9999. A fraction of a
second is left out when it is zero and has three, six or nine digits otherwise, the fewest that are
exact.
-/

namespace TableMapper.Calendar

def isLeap (year : Int) : Bool := year % 4 == 0 && (year % 100 != 0 || year % 400 == 0)

def monthLength (year : Int) (month : Nat) : Nat :=
  if month = 2 then (if isLeap year then 29 else 28)
  else if month = 4 ∨ month = 6 ∨ month = 9 ∨ month = 11 then 30
  else 31

/-- The years that dates can have, and the months and days within them. -/
def IsDate (year : Int) (month day : Nat) : Prop :=
  -262143 ≤ year ∧ year ≤ 262142 ∧ 1 ≤ month ∧ month ≤ 12 ∧ 1 ≤ day ∧ day ≤ monthLength year month

instance (year : Int) (month day : Nat) : Decidable (IsDate year month day) := by
  unfold IsDate
  infer_instance

structure Date where
  year : Int
  month : Nat
  day : Nat
  valid : IsDate year month day
  deriving DecidableEq

def Date.of? (year : Int) (month day : Nat) : Option Date :=
  if h : IsDate year month day then some ⟨year, month, day, h⟩ else none

def Date.next? (d : Date) : Option Date :=
  if d.day < monthLength d.year d.month then Date.of? d.year d.month (d.day + 1)
  else if d.month < 12 then Date.of? d.year (d.month + 1) 1
  else Date.of? (d.year + 1) 1 1

def Date.previous? (d : Date) : Option Date :=
  if 1 < d.day then Date.of? d.year d.month (d.day - 1)
  else if 1 < d.month then Date.of? d.year (d.month - 1) (monthLength d.year (d.month - 1))
  else Date.of? (d.year - 1) 12 31

/-- The date so many days after the first of March of the year zero. Years are counted from March,
so that the leap day comes last, in cycles of 400 years. -/
def Date.ofMarchDay? (n : Int) : Option Date :=
  let cycle := n / 146097
  let dayOfCycle := n % 146097
  let yearOfCycle :=
    (dayOfCycle - dayOfCycle / 1460 + dayOfCycle / 36524 - dayOfCycle / 146096) / 365
  let dayOfYear := dayOfCycle - (365 * yearOfCycle + yearOfCycle / 4 - yearOfCycle / 100)
  let month := (5 * dayOfYear + 2) / 153
  let day := dayOfYear - (153 * month + 2) / 5 + 1
  let year := yearOfCycle + 400 * cycle
  if month < 10 then Date.of? year (month + 3).toNat day.toNat
  else Date.of? (year + 1) (month - 9).toNat day.toNat

def Date.fromMillennium? (days : Int) : Option Date := Date.ofMarchDay? (days + 730425)

theorem Date.of?_self (d : Date) : Date.of? d.year d.month d.day = some d := by
  simp [Date.of?, d.valid]

def IsClock (hour minute second nanos : Nat) : Prop :=
  hour < 24 ∧ minute < 60 ∧ second < 60 ∧ nanos < 2000000000

instance (hour minute second nanos : Nat) : Decidable (IsClock hour minute second nanos) := by
  unfold IsClock
  infer_instance

structure Clock where
  hour : Nat
  minute : Nat
  second : Nat
  nanos : Nat
  valid : IsClock hour minute second nanos
  deriving DecidableEq

def Clock.of? (hour minute second nanos : Nat) : Option Clock :=
  if h : IsClock hour minute second nanos then some ⟨hour, minute, second, nanos, h⟩ else none

def Clock.midnight : Clock := ⟨0, 0, 0, 0, by decide⟩

structure Timestamp where
  date : Date
  clock : Clock
  deriving DecidableEq

structure Instant where
  utc : Timestamp
  deriving DecidableEq

def Date.atMidnight (d : Date) : Timestamp := ⟨d, .midnight⟩

/-- The date `days` later, for a step of at most one day. -/
def Date.step? (d : Date) (days : Int) : Option Date :=
  if days = 0 then some d
  else if days = 1 then d.next?
  else if days = -1 then d.previous?
  else none

/-- The timestamp so many minutes later, for a shift of less than a day; seconds and nanoseconds,
and with them a leap second, are kept. -/
def Timestamp.shift? (t : Timestamp) (minutes : Int) : Option Timestamp := do
  let total := 60 * t.clock.hour + t.clock.minute + minutes
  let date ← t.date.step? (total / 1440)
  let rest := (total % 1440).toNat
  let clock ← Clock.of? (rest / 60) (rest % 60) t.clock.second t.clock.nanos
  return ⟨date, clock⟩

def Timestamp.fromMillennium? (micros : Int) : Option Timestamp := do
  let date ← Date.fromMillennium? (micros / 86400000000)
  let rest := (micros % 86400000000).toNat
  let seconds := rest / 1000000
  let clock ← Clock.of? (seconds / 3600) (seconds / 60 % 60) (seconds % 60) (rest % 1000000 * 1000)
  return ⟨date, clock⟩

theorem Clock.of?_self (c : Clock) :
    Clock.of? c.hour c.minute c.second c.nanos = some c := by
  simp [Clock.of?, c.valid]

open Decimal (padded)

def yearText (year : Int) : List Char :=
  let sign := if year < 0 then ['-'] else if 9999 < year then ['+'] else []
  sign ++ padded 4 year.natAbs

def Date.text (d : Date) : List Char :=
  yearText d.year ++ '-' :: padded 2 d.month ++ '-' :: padded 2 d.day

def fractionText (nanos : Nat) : List Char :=
  if nanos = 0 then []
  else if nanos % 1000000 = 0 then '.' :: padded 3 (nanos / 1000000)
  else if nanos % 1000 = 0 then '.' :: padded 6 (nanos / 1000)
  else '.' :: padded 9 nanos

def Clock.text (c : Clock) : List Char :=
  padded 2 c.hour ++ ':' :: padded 2 c.minute ++
    ':' :: padded 2 (c.second + c.nanos / 1000000000) ++ fractionText (c.nanos % 1000000000)

def Timestamp.text (separator : Char) (t : Timestamp) : List Char :=
  t.date.text ++ separator :: t.clock.text

def Instant.text (separator : Char) (i : Instant) : List Char :=
  i.utc.text separator ++ ['+', '0', '0', ':', '0', '0']

end TableMapper.Calendar
