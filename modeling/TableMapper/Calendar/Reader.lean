import TableMapper.Calendar.Timestamp
import TableMapper.Decimal.Digits
import TableMapper.Text.Basic

/-!
# Reading dates and times

A pattern is a list of items that are read from left to right. Blanks may stand before a number;
the year may carry a sign and then has any number of digits. What is read must in the end name a
date and a time of day.

The internet form of a timestamp has numbers of fixed widths, the letter T or one space, and `Z` or
an offset in hours and minutes. A text without an offset is taken as UTC.
-/

namespace TableMapper.Calendar

open Decimal (spanDigits value)
open Text (trimStart)

inductive ReadFault
  | tooShort
  | invalid
  | outOfRange
  | tooLong
  deriving DecidableEq, Repr

def ReadFault.message : ReadFault → String
  | .tooShort => "premature end of input"
  | .invalid => "input contains invalid characters"
  | .outOfRange => "input is out of range"
  | .tooLong => "trailing input"

inductive Item
  | year
  | month
  | day
  | hour
  | minute
  | second
  | fraction
  | literal (c : Char)
  | blanks
  deriving DecidableEq, Repr

/-- The numbers read so far. A number that no item names stays zero. -/
structure Parts where
  year : Int := 0
  month : Nat := 0
  day : Nat := 0
  hour : Nat := 0
  minute : Nat := 0
  second : Nat := 0
  nanos : Nat := 0

def readNumber (most : Nat) (cs : List Char) : Except ReadFault (Nat × List Char) :=
  let ds := (spanDigits cs).1.take most
  if cs = [] then .error .tooShort
  else if ds = [] then .error .invalid
  else if Nat.pow 2 63 ≤ value ds then .error .outOfRange
  else .ok (value ds, cs.drop ds.length)

def readBetween (least greatest : Nat) (cs : List Char) : Except ReadFault (Nat × List Char) := do
  let (n, rest) ← readNumber 2 (trimStart cs)
  if least ≤ n ∧ n ≤ greatest then .ok (n, rest) else .error .outOfRange

/-- Reads a year: after a sign any number of digits, without one at most four. -/
def readYear (cs : List Char) : Except ReadFault (Int × List Char) := do
  let (year, rest) ← match trimStart cs with
    | '-' :: r => do
      let (n, rest) ← readNumber r.length r
      pure (-(n : Int), rest)
    | '+' :: r => do
      let (n, rest) ← readNumber r.length r
      pure ((n : Int), rest)
    | r => do
      let (n, rest) ← readNumber 4 r
      pure ((n : Int), rest)
  if Int32.minValue.toInt ≤ year ∧ year ≤ Int32.maxValue.toInt then .ok (year, rest)
  else .error .outOfRange

/-- Reads the digits after the point: the first nine count, the others are skipped. -/
def readNanos (cs : List Char) : Except ReadFault (Nat × List Char) := do
  let (n, _) ← readNumber 9 cs
  let ds := (spanDigits cs).1.take 9
  .ok (n * Nat.pow 10 (9 - ds.length), (spanDigits cs).2)

def Item.read (item : Item) (p : Parts) (cs : List Char) : Except ReadFault (Parts × List Char) :=
  match item with
  | .year => (readYear cs).map fun (n, rest) => ({ p with year := n }, rest)
  | .month => (readBetween 1 12 cs).map fun (n, rest) => ({ p with month := n }, rest)
  | .day => (readBetween 1 31 cs).map fun (n, rest) => ({ p with day := n }, rest)
  | .hour => (readBetween 0 23 cs).map fun (n, rest) => ({ p with hour := n }, rest)
  | .minute => (readBetween 0 59 cs).map fun (n, rest) => ({ p with minute := n }, rest)
  | .second => (readBetween 0 60 cs).map fun (n, rest) => ({ p with second := n }, rest)
  | .fraction =>
    match cs with
    | '.' :: r => (readNanos r).map fun (n, rest) => ({ p with nanos := n }, rest)
    | _ => .ok (p, cs)
  | .literal c =>
    match cs with
    | [] => .error .tooShort
    | d :: r => if d = c then .ok (p, r) else .error .invalid
  | .blanks => .ok (p, trimStart cs)

def readItems : List Item → Parts → List Char → Except ReadFault (Parts × List Char)
  | [], parts, cs => .ok (parts, cs)
  | item :: items, parts, cs => do
    let (parts, rest) ← item.read parts cs
    readItems items parts rest

/-- The time of day with these numbers; the second 60 is the leap second. -/
def Parts.clock? (p : Parts) : Option Clock :=
  if p.second = 60 then Clock.of? p.hour p.minute 59 (1000000000 + p.nanos)
  else Clock.of? p.hour p.minute p.second p.nanos

def Parts.timestamp? (p : Parts) : Option Timestamp := do
  let date ← Date.of? p.year p.month p.day
  let clock ← p.clock?
  return ⟨date, clock⟩

def readBy (pattern : List Item) (cs : List Char) : Except ReadFault Timestamp := do
  let (parts, rest) ← readItems pattern {} cs
  if rest ≠ [] then .error .tooLong
  else match parts.timestamp? with
    | some t => .ok t
    | none => .error .outOfRange

def datePattern : List Item := [.year, .literal '-', .month, .literal '-', .day]

def clockPattern : List Item :=
  [.hour, .literal ':', .minute, .literal ':', .second, .fraction]

def isoPattern : List Item := datePattern ++ .literal 'T' :: clockPattern

def spacedPattern : List Item := datePattern ++ .blanks :: clockPattern

def readDate (cs : List Char) : Except ReadFault Date := (readBy datePattern cs).map (·.date)

/-- Reads a timestamp by the first pattern that fits; a date alone stands for its midnight. -/
def readTimestamp (cs : List Char) : Except ReadFault Timestamp :=
  match readBy isoPattern cs with
  | .ok t => .ok t
  | .error _ =>
    match readBy spacedPattern cs with
    | .ok t => .ok t
    | .error _ => readBy datePattern cs

def fixedNumber? (width : Nat) (cs : List Char) : Option (Nat × List Char) :=
  let ds := cs.take width
  if ds.length = width ∧ ds.all Char.isDigit then some (Decimal.value ds, cs.drop width) else none

def skipChar? (c : Char) : List Char → Option (List Char)
  | d :: cs => if d = c then some cs else none
  | [] => none

def twoDigits? (least greatest : Nat) (cs : List Char) : Option (Nat × List Char) := do
  let (n, rest) ← fixedNumber? 2 cs
  if least ≤ n ∧ n ≤ greatest then some (n, rest) else none

def offsetMinutes? (cs : List Char) : Option (Nat × List Char) := do
  let (hours, rest) ← twoDigits? 0 23 cs
  let rest ← skipChar? ':' rest
  let (minutes, rest) ← twoDigits? 0 59 rest
  return (60 * hours + minutes, rest)

/-- An offset from UTC in minutes; the minus may be a hyphen or the minus sign. -/
def offset? : List Char → Option (Int × List Char)
  | 'Z' :: cs | 'z' :: cs => some (0, cs)
  | '+' :: cs => do
    let (n, rest) ← offsetMinutes? cs
    return ((n : Int), rest)
  | '-' :: cs | '−' :: cs => do
    let (n, rest) ← offsetMinutes? cs
    return (-(n : Int), rest)
  | _ => none

def zonedDate? (cs : List Char) : Option (Parts × List Char) := do
  let (year, cs) ← fixedNumber? 4 cs
  let cs ← skipChar? '-' cs
  let (month, cs) ← twoDigits? 1 12 cs
  let cs ← skipChar? '-' cs
  let (day, cs) ← twoDigits? 1 31 cs
  return ({ year, month, day }, cs)

def zonedClock? (parts : Parts) (cs : List Char) : Option (Parts × List Char) := do
  let (hour, cs) ← twoDigits? 0 23 cs
  let cs ← skipChar? ':' cs
  let (minute, cs) ← twoDigits? 0 59 cs
  let cs ← skipChar? ':' cs
  let (second, cs) ← twoDigits? 0 60 cs
  return ({ parts with hour, minute, second }, cs)

def zonedFraction? (parts : Parts) : List Char → Option (Parts × List Char)
  | '.' :: cs => do
    let (nanos, rest) ← (readNanos cs).toOption
    return ({ parts with nanos }, rest)
  | cs => some (parts, cs)

def isDateEnd (c : Char) : Bool := c == 'T' || c == 't' || c == ' '

def readZoned? (cs : List Char) : Option Instant := do
  let (parts, cs) ← zonedDate? cs
  let cs ← match cs with
    | c :: r => if isDateEnd c then some r else none
    | [] => none
  let (parts, cs) ← zonedClock? parts cs
  let (parts, cs) ← zonedFraction? parts cs
  let (offset, cs) ← offset? cs
  if cs ≠ [] then none
  else do
    let t ← parts.timestamp?
    let utc ← t.shift? (-offset)
    return ⟨utc⟩

/-- Reads an instant: with an offset, or else as a timestamp in UTC. -/
def readInstant (cs : List Char) : Except ReadFault Instant :=
  match readZoned? cs with
  | some i => .ok i
  | none => (readTimestamp cs).map Instant.mk

end TableMapper.Calendar
