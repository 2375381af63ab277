import TableMapper.Proofs.Calendar.OwnText
import TableMapper.Proofs.Field.Type

/-!
# Contents of fields read back from their own texts

A date or a time goes out as a text in JSON, by itself, and between the quotes of a statement. The
field type it came from reads each of these texts as what it shows, that of instants only if the
year has four digits. The text of a date is read as its midnight where a timestamp is wanted.
-/

namespace TableMapper

open Calendar (Date Timestamp Instant)

namespace Value

/-- The value is written as this text: in JSON, by itself, or between quotes in a statement. -/
def WrittenAs (v : Value) (s : String) : Prop :=
  v.toJson = .text s ∨ v.display = s ∨ v.quoted = "'" ++ s ++ "'"

theorem quotes_inj {s t : String} : "'" ++ s ++ "'" = "'" ++ t ++ "'" ↔ s = t := by
  rw [← String.toList_inj, ← @String.toList_inj s]
  simp

theorem writtenAs_iff {v : Value} {json plain : String} (hjson : v.toJson = .text json)
    (hplain : v.display = plain) (hquoted : v.quoted = "'" ++ plain ++ "'") (s : String) :
    v.WrittenAs s ↔ s = json ∨ s = plain := by
  rw [WrittenAs, hjson, hplain, hquoted, quotes_inj, or_self, Json.text.injEq, eq_comm,
    eq_comm (a := plain)]

theorem writtenAs_date {d : Date} {s : String} :
    (date d).WrittenAs s ↔ s = String.ofList d.text := by
  have h := @writtenAs_iff (date d) (String.ofList d.text) (String.ofList d.text) rfl rfl rfl s
  rwa [or_self] at h

theorem writtenAs_timestamp {t : Timestamp} {s : String} :
    (timestamp t).WrittenAs s ↔ ∃ c, (c = 'T' ∨ c = ' ') ∧ s = String.ofList (t.text c) := by
  have h := @writtenAs_iff (timestamp t) (String.ofList (t.text 'T')) (String.ofList (t.text ' '))
    rfl rfl rfl s
  simpa using h

theorem writtenAs_instant {i : Instant} {s : String} :
    (instant i).WrittenAs s ↔ ∃ c, (c = 'T' ∨ c = ' ') ∧ s = String.ofList (i.text c) := by
  have h := @writtenAs_iff (instant i) (String.ofList (i.text 'T')) (String.ofList (i.text ' '))
    rfl rfl rfl s
  simpa using h

end Value

namespace BaseType

theorem readTime_ofList {α : Type} (read : List Char → Except Calendar.ReadFault α)
    (cs : List Char) :
    readTime read (String.ofList cs) = (read cs).mapError (.unreadable · (String.ofList cs)) := by
  rw [readTime, String.toList_ofList]

/-- Every date is read back from its own text, also as its midnight. A timestamp is read from its own
text as what that shows, so it is read back just if a leap second in it is the last of its minute. -/
theorem dates_and_timestamps_read_back :
    (∀ (d : Date) (s : String), (Value.date d).WrittenAs s →
      date.ofValue (.text s) = .ok d ∧ timestamp.ofValue (.text s) = .ok d.atMidnight) ∧
    ∀ (t : Timestamp) (s : String), (Value.timestamp t).WrittenAs s →
      timestamp.ofValue (.text s) = .ok t.shown ∧
      (timestamp.ofValue (.text s) = .ok t ↔ t.clock.LeapLast) := by
  constructor
  · intro d s hs
    obtain rfl := Value.writtenAs_date.1 hs
    exact ⟨readTime_text (Calendar.readDate_text d), readTime_text (Calendar.readTimestamp_date d)⟩
  · intro t s hs
    obtain ⟨c, hc, rfl⟩ := Value.writtenAs_timestamp.1 hs
    have hread : timestamp.ofValue (.text (String.ofList (t.text c))) = .ok t.shown := by
      rcases hc with rfl | rfl
      · exact readTime_text (Calendar.readTimestamp_text t)
      · exact readTime_text (Calendar.readTimestamp_spaced t)
    refine ⟨hread, ?_⟩
    rw [hread, Except.ok.injEq]
    exact Timestamp.shown_eq_self

theorem dates_and_timestamps_read_back_extremes :
    let d : Date := ⟨-262143, 1, 1, by decide⟩
    let t : Timestamp := ⟨⟨2016, 12, 31, by decide⟩, ⟨23, 59, 59, 1500000000, by decide⟩⟩
    (Value.date d).WrittenAs "-262143-01-01" ∧
      timestamp.ofValue (.text "-262143-01-01") = .ok d.atMidnight ∧
      (Value.timestamp t).WrittenAs "2016-12-31 23:59:60.500" ∧ t.clock.LeapLast ∧
      timestamp.ofValue (.text "2016-12-31 23:59:60.500") = .ok t := by
  intro d t
  have hd : (Value.date d).WrittenAs "-262143-01-01" := .inr (.inl (by decide +kernel))
  have ht : (Value.timestamp t).WrittenAs "2016-12-31 23:59:60.500" :=
    .inr (.inl (by decide +kernel))
  have hlast : t.clock.LeapLast := by decide
  exact ⟨hd, (dates_and_timestamps_read_back.1 d _ hd).2, ht, hlast,
    (dates_and_timestamps_read_back.2 t _ ht).2.2 hlast⟩

theorem not_timestamps_read_back :
    ¬∀ (t : Timestamp) (s : String), (Value.timestamp t).WrittenAs s →
      timestamp.ofValue (.text s) = .ok t := by
  intro h
  have hread := h Calendar.leapMidMinute _ (Value.writtenAs_timestamp.2 ⟨'T', .inl rfl, rfl⟩)
  have hshown := readTime_text (Calendar.readTimestamp_text Calendar.leapMidMinute)
  have hsame := Except.ok.inj (hshown.symm.trans hread)
  exact absurd (Timestamp.shown_eq_self.1 hsame) (by decide)

theorem readTime_instant (i : Instant) {c : Char} (hc : c = 'T' ∨ c = ' ') :
    readTime Calendar.readInstant (String.ofList (i.text c)) =
      if 0 ≤ i.utc.date.year ∧ i.utc.date.year ≤ 9999 then .ok i.shown
      else .error (.unreadable .tooLong (String.ofList (i.text c))) := by
  rw [readTime_ofList, Calendar.readInstant_ownText i hc]
  split <;> rfl

/-- The text of an instant in a year with four digits is read as what it shows, and that of any other
year is refused for what follows the date. So an instant is read back just if its year has four
digits and a leap second in it is the last of its minute. -/
theorem instants_read_back (i : Instant) (s : String) (hs : (Value.instant i).WrittenAs s) :
    (instant.ofValue (.text s) =
      if 0 ≤ i.utc.date.year ∧ i.utc.date.year ≤ 9999 then .ok i.shown
      else .error (.unreadable .tooLong s)) ∧
    (instant.ofValue (.text s) = .ok i ↔
      (0 ≤ i.utc.date.year ∧ i.utc.date.year ≤ 9999) ∧ i.utc.clock.LeapLast) := by
  obtain ⟨c, hc, rfl⟩ := Value.writtenAs_instant.1 hs
  -- The reader has to be known before the goal is compared with it.
  have hread := readTime_instant i hc
  refine ⟨hread, ?_⟩
  rw [show instant.ofValue (.text (String.ofList (i.text c))) = _ from hread]
  split
  · rename_i hyear
    rw [Except.ok.injEq, Instant.shown_eq_self, and_iff_right hyear]
  · rename_i hyear
    exact iff_of_false (fun h => nomatch h) fun h => hyear h.1

def lastOfYear (year : Int) (h : Calendar.IsDate year 12 31) : Instant :=
  ⟨⟨⟨year, 12, 31, h⟩, ⟨23, 59, 59, 1000000000, by decide⟩⟩⟩

/-- The leap second at the end of the last year with four digits, the one a year later, and one that
does not end its minute. -/
theorem instants_read_back_around_10000 :
    let last := lastOfYear 9999 (by decide)
    let beyond := lastOfYear 10000 (by decide)
    let within : Instant := ⟨Calendar.leapMidMinute⟩
    let next : Instant := ⟨⟨⟨2015, 9, 8, by decide⟩, ⟨23, 56, 5, 333333333, by decide⟩⟩⟩
    (Value.instant last).WrittenAs "9999-12-31T23:59:60+00:00" ∧
      instant.ofValue (.text "9999-12-31T23:59:60+00:00") = .ok last ∧
      (Value.instant beyond).WrittenAs "+10000-12-31T23:59:60+00:00" ∧
      instant.ofValue (.text "+10000-12-31T23:59:60+00:00") =
        .error (.unreadable .tooLong "+10000-12-31T23:59:60+00:00") ∧
      (Value.instant within).WrittenAs "2015-09-08 23:56:05.333333333+00:00" ∧
      instant.ofValue (.text "2015-09-08 23:56:05.333333333+00:00") = .ok next := by
  intro last beyond within next
  have hlast : (Value.instant last).WrittenAs "9999-12-31T23:59:60+00:00" := by
    refine .inl (congrArg Json.text ?_)
    decide +kernel
  have hbeyond : (Value.instant beyond).WrittenAs "+10000-12-31T23:59:60+00:00" := by
    refine .inl (congrArg Json.text ?_)
    decide +kernel
  have hwithin : (Value.instant within).WrittenAs "2015-09-08 23:56:05.333333333+00:00" :=
    .inr (.inl (by decide +kernel))
  have hshown : within.shown = next := by decide +kernel
  obtain ⟨hread, -⟩ := instants_read_back within _ hwithin
  rw [if_pos (by decide), hshown] at hread
  exact ⟨hlast, (instants_read_back last _ hlast).1, hbeyond,
    (instants_read_back beyond _ hbeyond).1, hwithin, hread⟩

theorem not_instants_read_back :
    ¬∀ (i : Instant) (s : String), (Value.instant i).WrittenAs s →
      instant.ofValue (.text s) = .ok i := by
  intro h
  have hread := h (lastOfYear 10000 (by decide)) _
    (Value.writtenAs_instant.2 ⟨'T', .inl rfl, rfl⟩)
  have hrefused := readTime_instant (lastOfYear 10000 (by decide)) (.inl rfl)
  rw [if_neg (by decide)] at hrefused
  cases hrefused.symm.trans hread

end BaseType

end TableMapper
