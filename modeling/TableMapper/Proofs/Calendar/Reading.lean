import TableMapper.Calendar.Reader
import TableMapper.Calendar.Timestamp
import TableMapper.Proofs.Decimal.Digits
import TableMapper.Proofs.Except

/-!
# Reading back what was printed

Each item of a pattern takes from a text just what the printer wrote for it. The items are put
together to dates and times of day, with any text behind them that does not go on with a digit.
-/

namespace TableMapper.Calendar

open Decimal (padded value spanDigits EndsDigits endsDigits_cons)

variable {rest : List Char}

theorem readNumber_append (most : Nat) {ds : List Char} (hd : ∀ c ∈ ds, c.isDigit = true)
    (hne : ds ≠ []) (hm : ds.length ≤ most) (hv : value ds < Nat.pow 2 63) (hr : EndsDigits rest) :
    readNumber most (ds ++ rest) = .ok (value ds, rest) := by
  have ht : (spanDigits (ds ++ rest)).1.take most = ds := by
    rw [Decimal.spanDigits_append hd hr, List.take_of_length_le hm]
  have hc : ds ++ rest ≠ [] := by simp [hne]
  simp only [readNumber]
  rw [ht, if_neg hc, if_neg hne, if_neg (Nat.not_le.2 hv), List.drop_left]

theorem readNumber_padded {most width n : Nat} (hw : 0 < width) (hn : n < Nat.pow 10 width)
    (hm : width ≤ most) (hv : n < Nat.pow 2 63) (hr : EndsDigits rest) :
    readNumber most (padded width n ++ rest) = .ok (n, rest) := by
  have h := readNumber_append most (fun _ => Decimal.isDigit_of_mem_padded)
    (Decimal.padded_ne_nil width n) (by rw [Decimal.length_padded hw hn]; exact hm)
    (by rw [Decimal.value_padded]; exact hv) hr
  rwa [Decimal.value_padded] at h

theorem readBetween_padded {least greatest n : Nat} (hl : least ≤ n) (hg : n ≤ greatest)
    (hn : n < 100) (hr : EndsDigits rest) :
    readBetween least greatest (padded 2 n ++ rest) = .ok (n, rest) := by
  have h : readNumber 2 (padded 2 n ++ rest) = .ok (n, rest) :=
    readNumber_padded (by omega) hn (by omega) (Nat.lt_trans hn (by decide)) hr
  rw [readBetween]
  rw [Decimal.trimStart_append (fun _ => Decimal.isDigit_of_mem_padded)
    (Decimal.padded_ne_nil 2 n), h]
  simp [hl, hg]

theorem readYear_minus {r : List Char} {n : Nat} (h : readNumber r.length r = .ok (n, rest))
    (hn : n ≤ 262143) : readYear ('-' :: r) = .ok (-(n : Int), rest) := by
  rw [readYear, Text.trimStart_of_not_blank (by decide)]
  simp only [h, ok_bind, ok_pure]
  have hlow := Int32.toInt_minValue
  have hhigh := Int32.toInt_maxValue
  rw [if_pos (by omega)]

theorem readYear_plus {r : List Char} {n : Nat} (h : readNumber r.length r = .ok (n, rest))
    (hn : n ≤ 262143) : readYear ('+' :: r) = .ok ((n : Int), rest) := by
  rw [readYear, Text.trimStart_of_not_blank (by decide)]
  simp only [h, ok_bind, ok_pure]
  have hlow := Int32.toInt_minValue
  have hhigh := Int32.toInt_maxValue
  rw [if_pos (by omega)]

theorem readYear_unsigned {c : Char} {cs : List Char} {n : Nat} (hc : c.isDigit = true)
    (h : readNumber 4 (c :: cs) = .ok (n, rest)) (hn : n ≤ 262143) :
    readYear (c :: cs) = .ok ((n : Int), rest) := by
  rw [readYear, Text.trimStart_of_not_blank (Decimal.isBlank_of_isDigit hc)]
  split
  · simp_all
  · simp_all
  · simp only [h, ok_bind, ok_pure]
    have hlow := Int32.toInt_minValue
    have hhigh := Int32.toInt_maxValue
    rw [if_pos (by omega)]

theorem readYear_yearText {year : Int} (hl : -262143 ≤ year) (hg : year ≤ 262142)
    (hr : EndsDigits rest) : readYear (yearText year ++ rest) = .ok (year, rest) := by
  have hd : ∀ c ∈ padded 4 year.natAbs, c.isDigit = true := fun _ => Decimal.isDigit_of_mem_padded
  have hne := Decimal.padded_ne_nil 4 year.natAbs
  have hlimit : year.natAbs ≤ 262143 := by omega
  -- after a sign the whole rest of the text is the limit on digits
  have hall := readNumber_append (padded 4 year.natAbs ++ rest).length hd hne (by simp)
    (by rw [Decimal.value_padded]; exact Nat.lt_of_le_of_lt hlimit (by decide)) hr
  rw [Decimal.value_padded] at hall
  rw [yearText]
  by_cases hneg : year < 0
  · have hy : -(year.natAbs : Int) = year := by omega
    have h := readYear_minus hall (by omega)
    rw [hy] at h
    simpa only [hneg, if_true, List.cons_append, List.nil_append] using h
  by_cases hbig : 9999 < year
  · have hy : (year.natAbs : Int) = year := by omega
    have h := readYear_plus hall (by omega)
    rw [hy] at h
    simpa only [hneg, hbig, if_true, if_false, List.cons_append, List.nil_append] using h
  · have hy : (year.natAbs : Int) = year := by omega
    have hfour : year.natAbs < 10000 := by omega
    have h4 : readNumber 4 (padded 4 year.natAbs ++ rest) = .ok (year.natAbs, rest) :=
      readNumber_padded (by omega) hfour (by omega) (Nat.lt_trans hfour (by decide)) hr
    obtain ⟨c, cs, he⟩ := List.exists_cons_of_ne_nil hne
    rw [he, List.cons_append] at h4
    have h := readYear_unsigned (hd c (by simp [he])) h4 (by omega)
    rw [hy] at h
    simpa only [hneg, hbig, he, if_false, List.cons_append, List.nil_append] using h

theorem readNanos_padded (width n : Nat) (hw : 0 < width) (hm : width ≤ 9) (hn : n < Nat.pow 10 width)
    (hr : EndsDigits rest) :
    readNanos (padded width n ++ rest) = .ok (n * Nat.pow 10 (9 - width), rest) := by
  have hlt : n < Nat.pow 2 63 :=
    Nat.lt_of_lt_of_le hn (Nat.le_trans (Nat.pow_le_pow_right (by decide) hm) (by decide))
  have hs : spanDigits (padded width n ++ rest) = (padded width n, rest) :=
    Decimal.spanDigits_append (fun _ => Decimal.isDigit_of_mem_padded) hr
  have hl := Decimal.length_padded hw hn
  rw [readNanos, readNumber_padded hw hn hm hlt hr, ok_bind]
  simp only [hs, List.take_of_length_le (hl.symm ▸ hm), hl]

theorem read_fraction {p : Parts} {nanos : Nat} (hp : p.nanos = 0) (hn : nanos < 1000000000)
    (hr : EndsDigits rest) (hdot : rest.head? ≠ some '.') :
    Item.fraction.read p (fractionText nanos ++ rest) = .ok ({ p with nanos }, rest) := by
  rw [fractionText]
  by_cases hz : nanos = 0
  · subst hz
    simp only [if_true, List.nil_append, Item.read]
    split
    · simp at hdot
    · rw [← hp]
  by_cases hmillis : nanos % 1000000 = 0
  · have h := readNanos_padded 3 (nanos / 1000000) (by omega) (by omega)
      (show nanos / 1000000 < 1000 by omega) hr
    have he : nanos / 1000000 * Nat.pow 10 (9 - 3) = nanos :=
      show nanos / 1000000 * 1000000 = nanos by omega
    rw [he] at h
    simp [hz, hmillis, Item.read, h]
  by_cases hmicros : nanos % 1000 = 0
  · have h := readNanos_padded 6 (nanos / 1000) (by omega) (by omega)
      (show nanos / 1000 < 1000000 by omega) hr
    have he : nanos / 1000 * Nat.pow 10 (9 - 6) = nanos :=
      show nanos / 1000 * 1000 = nanos by omega
    rw [he] at h
    simp [hz, hmillis, hmicros, Item.read, h]
  · have h := readNanos_padded 9 nanos (by omega) (by omega) hn hr
    simp [hz, hmillis, hmicros, Item.read, h]

def Date.parts (d : Date) : Parts := { year := d.year, month := d.month, day := d.day }

/-- The numbers that the text of a timestamp shows; a leap second shows as the second 60. -/
def Timestamp.parts (t : Timestamp) : Parts :=
  { t.date.parts with
    hour := t.clock.hour
    minute := t.clock.minute
    second := t.clock.second + t.clock.nanos / 1000000000
    nanos := t.clock.nanos % 1000000000 }

theorem monthLength_le (year : Int) (month : Nat) : monthLength year month ≤ 31 := by
  rw [monthLength]
  split
  · split <;> omega
  · split <;> omega

theorem Date.bounds (d : Date) :
    (-262143 ≤ d.year ∧ d.year ≤ 262142) ∧ (1 ≤ d.month ∧ d.month ≤ 12) ∧
      1 ≤ d.day ∧ d.day ≤ 31 := by
  obtain ⟨hl, hg, hml, hmg, hdl, hdg⟩ := d.valid
  exact ⟨⟨hl, hg⟩, ⟨hml, hmg⟩, hdl, Nat.le_trans hdg (monthLength_le _ _)⟩

theorem Clock.text_bounds (c : Clock) :
    c.hour ≤ 23 ∧ c.minute ≤ 59 ∧ c.second + c.nanos / 1000000000 ≤ 60 ∧
      c.nanos % 1000000000 < 1000000000 := by
  obtain ⟨hh, hm, hs, hn⟩ := c.valid
  exact ⟨by omega, by omega, by omega, Nat.mod_lt _ (by omega)⟩

theorem readItems_date (d : Date) (items : List Item) (hr : EndsDigits rest) :
    readItems (datePattern ++ items) {} (d.text ++ rest) = readItems items d.parts rest := by
  obtain ⟨⟨hyl, hyg⟩, ⟨hml, hmg⟩, hdl, hdg⟩ := d.bounds
  have hhyphen : ∀ cs, EndsDigits ('-' :: cs) := fun cs => endsDigits_cons.2 (by decide)
  simp only [datePattern, Date.text, List.cons_append, List.nil_append, List.append_assoc,
    readItems, Item.read, readYear_yearText hyl hyg (hhyphen _), map_ok, ok_bind, if_true,
    readBetween_padded hml hmg (by omega) (hhyphen _), readBetween_padded hdl hdg (by omega) hr,
    Date.parts]

theorem endsDigits_fractionText (nanos : Nat) (hr : EndsDigits rest) :
    EndsDigits (fractionText nanos ++ rest) := by
  have hdot : ∀ cs, EndsDigits ('.' :: cs) := fun cs => endsDigits_cons.2 (by decide)
  rw [fractionText]
  split
  · exact hr
  · split
    · exact hdot _
    · split <;> exact hdot _

theorem read_hour {p : Parts} {n : Nat} (hn : n ≤ 23) (hr : EndsDigits rest) :
    Item.hour.read p (padded 2 n ++ rest) = .ok ({ p with hour := n }, rest) := by
  simp only [Item.read, readBetween_padded (Nat.zero_le n) hn (by omega) hr, map_ok]

theorem read_minute {p : Parts} {n : Nat} (hn : n ≤ 59) (hr : EndsDigits rest) :
    Item.minute.read p (padded 2 n ++ rest) = .ok ({ p with minute := n }, rest) := by
  simp only [Item.read, readBetween_padded (Nat.zero_le n) hn (by omega) hr, map_ok]

theorem read_second {p : Parts} {n : Nat} (hn : n ≤ 60) (hr : EndsDigits rest) :
    Item.second.read p (padded 2 n ++ rest) = .ok ({ p with second := n }, rest) := by
  simp only [Item.read, readBetween_padded (Nat.zero_le n) hn (by omega) hr, map_ok]

theorem read_literal {p : Parts} {c : Char} :
    (Item.literal c).read p (c :: rest) = .ok (p, rest) := by
  simp only [Item.read, if_true]

theorem readItems_clock (t : Timestamp) (hr : EndsDigits rest) (hdot : rest.head? ≠ some '.') :
    readItems clockPattern t.date.parts (t.clock.text ++ rest) = .ok (t.parts, rest) := by
  obtain ⟨hh, hm, hs, hn⟩ := t.clock.text_bounds
  have hcolon : ∀ cs, EndsDigits (':' :: cs) := fun cs => endsDigits_cons.2 (by decide)
  have hfraction := endsDigits_fractionText (t.clock.nanos % 1000000000) hr
  simp only [clockPattern, Clock.text, List.cons_append, List.append_assoc, readItems,
    read_hour hh (hcolon _), read_literal, read_minute hm (hcolon _), read_second hs hfraction,
    ok_bind]
  rw [read_fraction rfl hn hr hdot, ok_bind]
  rfl

/-- If there is a leap second, it is the last second of its minute. -/
def Clock.LeapLast (c : Clock) : Prop := 1000000000 ≤ c.nanos → c.second = 59

instance (c : Clock) : Decidable c.LeapLast := inferInstanceAs (Decidable (_ → _))

/-- The time of day that the text of this one shows. A leap second at the end of a minute shows as
itself, and any other one as the ordinary second that follows. -/
def Clock.shown (c : Clock) : Clock :=
  if h : c.LeapLast then c
  else
    ⟨c.hour, c.minute, c.second + 1, c.nanos - 1000000000, by
      obtain ⟨hh, hm, hs, hn⟩ := c.valid
      obtain ⟨-, hlast⟩ := Classical.not_imp.1 h
      exact ⟨hh, hm, by omega, by omega⟩⟩

def Timestamp.shown (t : Timestamp) : Timestamp := ⟨t.date, t.clock.shown⟩

def Instant.shown (i : Instant) : Instant := ⟨i.utc.shown⟩

theorem Clock.shown_eq_self {c : Clock} : c.shown = c ↔ c.LeapLast := by
  rw [shown]
  split
  · rename_i h
    exact iff_of_true rfl h
  · rename_i h
    refine iff_of_false ?_ h
    intro hsame
    have hsecond := congrArg Clock.second hsame
    dsimp only at hsecond
    omega

theorem Timestamp.shown_eq_self {t : Timestamp} : t.shown = t ↔ t.clock.LeapLast := by
  rw [← Clock.shown_eq_self]
  constructor
  · exact congrArg Timestamp.clock
  · intro h
    rw [shown, h]

theorem Instant.shown_eq_self {i : Instant} : i.shown = i ↔ i.utc.clock.LeapLast := by
  rw [← Timestamp.shown_eq_self]
  constructor
  · exact congrArg Instant.utc
  · intro h
    rw [shown, h]

/-- A leap second after the fourth second of a minute, whose text shows the fifth one. -/
def leapMidMinute : Timestamp := ⟨⟨2015, 9, 8, by decide⟩, ⟨23, 56, 4, 1333333333, by decide⟩⟩

theorem clock?_parts (t : Timestamp) : t.parts.clock? = some t.clock.shown := by
  obtain ⟨-, -, hs, hn⟩ := t.clock.valid
  have hh : t.parts.hour = t.clock.hour := rfl
  have hm : t.parts.minute = t.clock.minute := rfl
  have hsecond : t.parts.second = t.clock.second + t.clock.nanos / 1000000000 := rfl
  have hnanos : t.parts.nanos = t.clock.nanos % 1000000000 := rfl
  have hc := t.clock.shown.of?_self
  rw [Parts.clock?, hh, hm]
  by_cases hleap : 1000000000 ≤ t.clock.nanos
  · by_cases h59 : t.clock.second = 59
    · have h60 : t.parts.second = 60 := by omega
      have hall : 1000000000 + t.parts.nanos = t.clock.nanos := by omega
      rw [Clock.shown_eq_self.2 fun _ => h59] at hc ⊢
      rwa [if_pos h60, hall, ← h59]
    · have hnext : t.parts.second = t.clock.second + 1 := by omega
      have hrest : t.parts.nanos = t.clock.nanos - 1000000000 := by omega
      have hlast : ¬t.clock.LeapLast := fun h => h59 (h hleap)
      rw [Clock.shown, dif_neg hlast] at hc ⊢
      rwa [if_neg (by omega), hnext, hrest]
  · have hsame : t.parts.second = t.clock.second := by omega
    have hall : t.parts.nanos = t.clock.nanos := by omega
    rw [Clock.shown_eq_self.2 fun h => absurd h hleap] at hc ⊢
    rwa [if_neg (by omega), hsame, hall]

theorem timestamp?_parts (t : Timestamp) : t.parts.timestamp? = some t.shown := by
  have hd : Date.of? t.parts.year t.parts.month t.parts.day = some t.date := t.date.of?_self
  simp only [Parts.timestamp?, hd, clock?_parts, Option.bind_eq_bind, Option.bind_some]
  rfl

theorem shown_atMidnight (d : Date) : d.atMidnight.shown = d.atMidnight := by
  have hmidnight : Clock.midnight.LeapLast := by decide
  exact Timestamp.shown_eq_self.2 hmidnight

theorem parts_atMidnight (d : Date) : d.atMidnight.parts = d.parts := by
  simp [Timestamp.parts, Date.parts, Date.atMidnight, Clock.midnight]

theorem readBy_datePattern (d : Date) : readBy datePattern d.text = .ok d.atMidnight := by
  have h := readItems_date d [] Decimal.endsDigits_nil
  rw [List.append_nil, List.append_nil] at h
  have hp := timestamp?_parts d.atMidnight
  rw [parts_atMidnight] at hp
  simp [readBy, h, readItems, hp, shown_atMidnight]

theorem readDate_text (d : Date) : readDate d.text = .ok d := by
  rw [readDate, readBy_datePattern, map_ok]
  rfl

theorem readBy_isoPattern (t : Timestamp) : readBy isoPattern (t.text 'T') = .ok t.shown := by
  have hT : EndsDigits ('T' :: t.clock.text) := endsDigits_cons.2 (by decide)
  have hc := readItems_clock t Decimal.endsDigits_nil (by simp)
  rw [List.append_nil] at hc
  rw [readBy, isoPattern, Timestamp.text, readItems_date t.date _ hT]
  simp [readItems, read_literal, hc, timestamp?_parts]

theorem readTimestamp_text (t : Timestamp) : readTimestamp (t.text 'T') = .ok t.shown := by
  rw [readTimestamp, readBy_isoPattern]

end TableMapper.Calendar
