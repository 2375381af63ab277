import TableMapper.Proofs.Calendar.Attempts
import TableMapper.Proofs.Calendar.Offset
import TableMapper.Proofs.Field.OwnText

/-!
# Texts of points in time as contents of fields

A field for timestamps or instants reads texts in several forms. No text has two of them, and texts
with different offsets are read as one value if they name one instant.
-/

namespace TableMapper

open Calendar (Timestamp Instant TimeForm)

namespace BaseType

section ReadTime

variable {α : Type} {read : List Char → Except Calendar.ReadFault α} {s : String}

theorem readTime_eq_ok {a : α} : readTime read s = .ok a ↔ read s.toList = .ok a := mapError_eq_ok

theorem toOption_readTime : (readTime read s).toOption = (read s.toList).toOption := by
  rw [readTime]
  cases read s.toList <;> rfl

end ReadTime

/-- No text is read in two of the four forms. So a text is read as a timestamp or as an instant just
if one of the forms for it gives a result, which is that of the field, in whatever order they are
tried; and what is read as a timestamp is read as the same moment in UTC. -/
theorem attempts_in_any_order (s : String) :
    (∀ (f g : TimeForm) (i j : Instant),
      f.read? s.toList = some i → g.read? s.toList = some j → f = g) ∧
    (∀ i, instant.ofValue (.text s) = .ok i ↔ ∃ f : TimeForm, f.read? s.toList = some i) ∧
    (∀ t, timestamp.ofValue (.text s) = .ok t ↔
      ∃ f : TimeForm, f ≠ .zoned ∧ f.read? s.toList = some ⟨t⟩) ∧
    (∀ order : List TimeForm, (∀ f, f ∈ order) →
      (instant.ofValue (.text s)).toOption = order.findSome? fun f => f.read? s.toList) ∧
    (∀ order : List TimeForm, (∀ f, f ∈ order ↔ f ≠ .zoned) →
      (timestamp.ofValue (.text s)).toOption.map Instant.mk =
        order.findSome? fun f => f.read? s.toList) ∧
    ∀ t, timestamp.ofValue (.text s) = .ok t → instant.ofValue (.text s) = .ok ⟨t⟩ := by
  have hinstant : ∀ i, instant.ofValue (.text s) = .ok i ↔
      ∃ f : TimeForm, f.read? s.toList = some i := by
    intro i
    have hread := @readTime_eq_ok _ Calendar.readInstant s i
    rw [Calendar.TimeForm.readInstant_eq_ok_iff] at hread
    exact hread
  have htimestamp : ∀ t, timestamp.ofValue (.text s) = .ok t ↔
      ∃ f : TimeForm, f ≠ .zoned ∧ f.read? s.toList = some ⟨t⟩ := by
    intro t
    have hread := @readTime_eq_ok _ Calendar.readTimestamp s t
    rw [Calendar.TimeForm.readTimestamp_eq_ok_iff] at hread
    exact hread
  refine ⟨?_, hinstant, htimestamp, ?_, ?_, ?_⟩
  · intro f g i j hf hg
    exact Calendar.TimeForm.read?_unique hf hg
  · intro order horder
    have hread := @toOption_readTime _ Calendar.readInstant s
    rw [Calendar.TimeForm.toOption_readInstant_order horder] at hread
    exact hread
  · intro order horder
    have hread := @toOption_readTime _ Calendar.readTimestamp s
    have hmap := congrArg (Option.map Instant.mk) hread
    rw [Calendar.TimeForm.toOption_readTimestamp_order horder] at hmap
    exact hmap
  · intro t ht
    obtain ⟨f, -, hf⟩ := (htimestamp t).1 ht
    exact (hinstant ⟨t⟩).2 ⟨f, hf⟩

theorem attempts_in_any_order_blanks :
    let s := " 2015-2- 5  9:30:60.25"
    let t : Timestamp := ⟨⟨2015, 2, 5, by decide⟩, ⟨9, 30, 59, 1250000000, by decide⟩⟩
    TimeForm.spaced.read? s.toList = some ⟨t⟩ ∧ timestamp.ofValue (.text s) = .ok t ∧
      instant.ofValue (.text s) = .ok ⟨t⟩ ∧
      ([.day, .spaced, .zoned, .iso].findSome? fun f : TimeForm => f.read? s.toList) = some ⟨t⟩ ∧
      ∀ f : TimeForm, (f.read? s.toList).isSome → f = .spaced := by
  intro s t
  obtain ⟨hunique, -, htimestamp, horder, -, hinstant⟩ := attempts_in_any_order s
  have hspaced : TimeForm.spaced.read? s.toList = some ⟨t⟩ := by decide +kernel
  have ht : timestamp.ofValue (.text s) = .ok t := (htimestamp t).2 ⟨.spaced, by decide, hspaced⟩
  have hi := hinstant t ht
  refine ⟨hspaced, ht, hi, ?_, ?_⟩
  · rw [← horder [.day, .spaced, .zoned, .iso] (by intro f; cases f <;> decide), hi]
    rfl
  · intro f hf
    obtain ⟨i, hi⟩ := Option.isSome_iff_exists.1 hf
    exact hunique f .spaced i ⟨t⟩ hi hspaced

section Offsets

variable {t u : Timestamp} {offset offset' : Int} {s s' : String}

theorem read_with_offset (h : t.WrittenWithOffset offset s) :
    ∃ i, instant.ofValue (.text s) = .ok i ∧ t.shown.Later (-offset) i.utc := by
  obtain ⟨separator, cs, hs, hoffset, rfl⟩ := h.text
  obtain ⟨i, hi, hlater⟩ := Calendar.readInstant_offset h.year.1 h.year.2 hs h.small hoffset
  have hread := readTime_text hi
  exact ⟨i, hread, hlater⟩

theorem read_with_offset_iff (h : t.WrittenWithOffset offset s) (i : Instant) :
    instant.ofValue (.text s) = .ok i ↔ t.shown.Later (-offset) i.utc := by
  obtain ⟨j, hj, hlater⟩ := read_with_offset h
  rw [hj]
  constructor
  · intro hij
    cases hij
    exact hlater
  · intro hi
    have hutc := hlater.unique hi
    cases i
    cases j
    cases hutc
    rfl

/-- The timestamp itself is what the instant is earlier than just if its text shows it. -/
theorem later_shown_iff {minutes : Int} {i : Timestamp} (h : t.shown.Later minutes i) :
    t.Later minutes i ↔ t.clock.LeapLast := by
  rw [← Timestamp.shown_eq_self]
  constructor
  · intro ht
    have hminute := h.minute
    have hminute' := ht.minute
    exact Timestamp.eq_of_minuteNumber (by omega) (h.second.symm.trans ht.second)
      (h.nanos.symm.trans ht.nanos)
  · intro hshown
    rwa [hshown] at h

theorem same_with_offset_iff (h : t.WrittenWithOffset offset s)
    (h' : u.WrittenWithOffset offset' s') :
    instant.ofValue (.text s) = instant.ofValue (.text s') ↔
      t.shown.minuteNumber - offset = u.shown.minuteNumber - offset' ∧
        t.shown.clock.second = u.shown.clock.second ∧
        t.shown.clock.nanos = u.shown.clock.nanos := by
  obtain ⟨i, hi, hlater⟩ := read_with_offset h
  obtain ⟨j, hj, hlater'⟩ := read_with_offset h'
  have hminute := hlater.minute
  have hminute' := hlater'.minute
  constructor
  · intro hsame
    rw [hi, hj] at hsame
    cases hsame
    exact ⟨by omega, hlater.second.symm.trans hlater'.second,
      hlater.nanos.symm.trans hlater'.nanos⟩
  · rintro ⟨hm, hs, hn⟩
    rw [hj]
    apply (read_with_offset_iff h j).2
    exact ⟨by omega, hlater'.second.trans hs.symm, hlater'.nanos.trans hn.symm⟩

theorem read_without_offset {separator : Char} (hl : 0 ≤ t.date.year) (hg : t.date.year ≤ 9999)
    (hs : separator = 'T' ∨ separator = ' ') :
    timestamp.ofValue (.text (String.ofList (t.text separator))) = .ok t.shown ∧
      instant.ofValue (.text (String.ofList (t.text separator))) = .ok ⟨t.shown⟩ := by
  have htimestamp := Calendar.readTimestamp_of_separator t hs
  have hinstant := Calendar.readInstant_without_offset hl hg hs
  rw [htimestamp, map_ok] at hinstant
  have hread := readTime_text htimestamp
  have hread' := readTime_text hinstant
  exact ⟨hread, hread'⟩

end Offsets

/-- A text with an offset is read as the one instant that is so many minutes before the timestamp it
shows, however many days, months and years are crossed, with its seconds and their fraction. That is
the timestamp it was written from just if a leap second in it is the last of its minute. With the
offset zero the text is read as it is without an offset, as a timestamp. So two texts are read alike
just if they name one instant. -/
theorem offsets_agree :
    (∀ (t : Timestamp) (offset : Int) (s : String), t.WrittenWithOffset offset s →
      (∃ i, instant.ofValue (.text s) = .ok i) ∧
      (∀ i, instant.ofValue (.text s) = .ok i ↔ t.shown.Later (-offset) i.utc) ∧
      ((∃ i, instant.ofValue (.text s) = .ok i ∧ t.Later (-offset) i.utc) ↔ t.clock.LeapLast)) ∧
    (∀ (t : Timestamp) (s : String), t.WrittenWithOffset 0 s →
      ∀ separator, (separator = 'T' ∨ separator = ' ') →
        let plain := Value.text (String.ofList (t.text separator))
        instant.ofValue (.text s) = instant.ofValue plain ∧
          instant.ofValue plain = (timestamp.ofValue plain).map Instant.mk) ∧
    ∀ (t u : Timestamp) (offset offset' : Int) (s s' : String),
      t.WrittenWithOffset offset s → u.WrittenWithOffset offset' s' →
        (instant.ofValue (.text s) = instant.ofValue (.text s') ↔
          t.shown.minuteNumber - offset = u.shown.minuteNumber - offset' ∧
            t.shown.clock.second = u.shown.clock.second ∧
            t.shown.clock.nanos = u.shown.clock.nanos) := by
  refine ⟨?_, ?_, ?_⟩
  · intro t offset s h
    obtain ⟨i, hi, hlater⟩ := read_with_offset h
    refine ⟨⟨i, hi⟩, read_with_offset_iff h, ?_⟩
    rw [← later_shown_iff hlater]
    constructor
    · rintro ⟨j, hj, hlater'⟩
      cases hi.symm.trans hj
      exact hlater'
    · intro hlater'
      exact ⟨i, hi, hlater'⟩
  · intro t s h separator hs plain
    obtain ⟨htimestamp, hinstant⟩ := read_without_offset h.year.1 h.year.2 hs
    have hzero : t.shown.Later (-0) t.shown := ⟨(Int.add_zero _).symm, rfl, rfl⟩
    have hread : instant.ofValue (.text s) = .ok ⟨t.shown⟩ :=
      (read_with_offset_iff h ⟨t.shown⟩).2 hzero
    constructor
    · rw [hread, hinstant]
    · rw [hinstant, htimestamp, map_ok]
  · intro t u offset offset' s s' h h'
    exact same_with_offset_iff h h'

theorem offsets_agree_leap_second :
    let t : Timestamp := ⟨⟨2017, 1, 1, by decide⟩, ⟨1, 29, 59, 1500000000, by decide⟩⟩
    let u : Timestamp := ⟨⟨2016, 12, 31, by decide⟩, ⟨23, 59, 59, 1500000000, by decide⟩⟩
    t.WrittenWithOffset 90 "2017-01-01 01:29:60.500+01:30" ∧ t.clock.LeapLast ∧
      u.WrittenWithOffset 0 "2016-12-31T23:59:60.500Z" ∧ u.clock.LeapLast ∧
      instant.ofValue (.text "2017-01-01 01:29:60.500+01:30") = .ok ⟨u⟩ ∧
      instant.ofValue (.text "2016-12-31T23:59:60.500Z") =
        instant.ofValue (.text "2016-12-31T23:59:60.500") ∧
      instant.ofValue (.text "2017-01-01 01:29:60.500+01:30") =
        instant.ofValue (.text "2016-12-31T23:59:60.500Z") := by
  intro t u
  have ht : t.WrittenWithOffset 90 "2017-01-01 01:29:60.500+01:30" :=
    ⟨by decide, by decide, ' ', _, .inr rfl, .east (by decide), by decide +kernel⟩
  have hu : u.WrittenWithOffset 0 "2016-12-31T23:59:60.500Z" :=
    ⟨by decide, by decide, 'T', _, .inl rfl, .utc rfl, by decide +kernel⟩
  have hlast : t.clock.LeapLast := by decide
  have hlast' : u.clock.LeapLast := by decide
  have hplain : "2016-12-31T23:59:60.500" = String.ofList (u.text 'T') := by decide +kernel
  have hshown : t.shown = t := Timestamp.shown_eq_self.2 hlast
  have hshown' : u.shown = u := Timestamp.shown_eq_self.2 hlast'
  have hlater : t.Later (-90) u := ⟨by decide, rfl, rfl⟩
  obtain ⟨hread, hzero, hsame⟩ := offsets_agree
  refine ⟨ht, hlast, hu, hlast', ((hread t 90 _ ht).2.1 ⟨u⟩).2 (hshown.symm ▸ hlater), ?_, ?_⟩
  · rw [hplain]
    exact (hzero u _ hu 'T' (.inl rfl)).1
  · apply (hsame t u 90 0 _ _ ht hu).2
    rw [hshown, hshown']
    exact ⟨by decide, rfl, rfl⟩

/-- A leap second that does not end its minute is lost in a text, also with an offset. -/
theorem not_offsets_agree :
    ¬∀ (t : Timestamp) (offset : Int) (s : String), t.WrittenWithOffset offset s →
      ∃ i, instant.ofValue (.text s) = .ok i ∧ t.Later (-offset) i.utc := by
  intro h
  have hwritten : Calendar.leapMidMinute.WrittenWithOffset 120
      "2015-09-08T23:56:05.333333333+02:00" :=
    ⟨by decide, by decide, 'T', _, .inl rfl, .east (by decide), by decide +kernel⟩
  obtain ⟨i, hi, hlater⟩ := h _ _ _ hwritten
  have hshown := (read_with_offset_iff hwritten i).1 hi
  exact absurd ((later_shown_iff hshown).1 hlater) (by decide)

end BaseType

end TableMapper
