import TableMapper.Proofs.Calendar.InternetForm
import TableMapper.Proofs.Calendar.OwnText

/-!
# Attempts at reading a point in time

A text is tried in four forms, one after another. They begin alike, with a date, but what may
stand behind the date tells them apart, so no text has two of them and the order in which they are
tried is of no account.
-/

namespace TableMapper.Calendar

open Decimal (EndsDigits endsDigits_cons endsDigits_nil)
open Text (trimStart)

variable {cs rest : List Char} {p q : Parts}

theorem readItems_append_eq_ok {items items' : List Item} {r : Parts × List Char} :
    readItems (items ++ items') p cs = .ok r ↔
      ∃ q rest, readItems items p cs = .ok (q, rest) ∧ readItems items' q rest = .ok r := by
  induction items generalizing p cs with
  | nil =>
    constructor
    · intro h
      exact ⟨p, cs, rfl, h⟩
    · rintro ⟨q, rest, hfirst, h⟩
      cases hfirst
      exact h
  | cons item items ih =>
    rw [List.cons_append, readItems, readItems, bind_eq_ok]
    constructor
    · rintro ⟨⟨p', cs'⟩, hitem, h⟩
      obtain ⟨q, rest, hitems, h⟩ := ih.1 h
      exact ⟨q, rest, bind_eq_ok.2 ⟨(p', cs'), hitem, hitems⟩, h⟩
    · rintro ⟨q, rest, hfirst, h⟩
      obtain ⟨⟨p', cs'⟩, hitem, hitems⟩ := bind_eq_ok.1 hfirst
      exact ⟨(p', cs'), hitem, ih.2 ⟨q, rest, hitems, h⟩⟩

theorem readBy_eq_ok {pattern : List Item} {t : Timestamp} :
    readBy pattern cs = .ok t ↔
      ∃ p, readItems pattern {} cs = .ok (p, []) ∧ p.timestamp? = some t := by
  rw [readBy, bind_eq_ok]
  constructor
  · rintro ⟨⟨p, rest⟩, hitems, h⟩
    cases rest with
    | cons c rest => cases h
    | nil =>
      cases ht : p.timestamp? with
      | none => simp [ht] at h
      | some u =>
        simp only [ht, ne_eq, not_true_eq_false, if_false, Except.ok.injEq] at h
        exact ⟨p, hitems, h ▸ ht⟩
  · rintro ⟨p, hitems, ht⟩
    exact ⟨(p, []), hitems, by simp [ht]⟩

theorem read_literal_eq_ok {c : Char} {r : Parts × List Char}
    (h : (Item.literal c).read p cs = .ok r) : cs = c :: r.2 ∧ r.1 = p := by
  cases cs with
  | nil => cases h
  | cons d cs =>
    rw [Item.read] at h
    split at h
    · rename_i hd
      cases h
      exact ⟨by rw [hd], rfl⟩
    · cases h

theorem read_of_mem_datePattern {item : Item} {r : Parts × List Char} (hitem : item ∈ datePattern)
    (h : item.read p cs = .ok r) : ∃ year month day, r.1 = { p with year, month, day } := by
  simp only [datePattern, List.mem_cons, List.not_mem_nil, or_false] at hitem
  rcases hitem with rfl | rfl | rfl | rfl | rfl
  · obtain ⟨a, -, rfl⟩ := map_eq_ok.1 h
    exact ⟨a.1, p.month, p.day, rfl⟩
  · exact ⟨p.year, p.month, p.day, (read_literal_eq_ok h).2⟩
  · obtain ⟨a, -, rfl⟩ := map_eq_ok.1 h
    exact ⟨p.year, a.1, p.day, rfl⟩
  · exact ⟨p.year, p.month, p.day, (read_literal_eq_ok h).2⟩
  · obtain ⟨a, -, rfl⟩ := map_eq_ok.1 h
    exact ⟨p.year, p.month, a.1, rfl⟩

theorem readItems_of_subset_datePattern {items : List Item} {r : Parts × List Char}
    (hitems : items ⊆ datePattern) (h : readItems items p cs = .ok r) :
    ∃ year month day, r.1 = { p with year, month, day } := by
  induction items generalizing p cs with
  | nil =>
    cases h
    exact ⟨p.year, p.month, p.day, rfl⟩
  | cons item items ih =>
    obtain ⟨hmem, hsubset⟩ := List.cons_subset.1 hitems
    obtain ⟨⟨p', cs'⟩, hitem, hrest⟩ := bind_eq_ok.1 h
    obtain ⟨year, month, day, hp⟩ := read_of_mem_datePattern hmem hitem
    have hrest' : readItems items p' cs' = .ok r := hrest
    obtain ⟨year', month', day', hr⟩ := ih hsubset hrest'
    dsimp only at hp
    exact ⟨year', month', day', by rw [hr, hp]⟩

theorem readBy_datePattern_eq_ok {t : Timestamp} (h : readBy datePattern cs = .ok t) :
    t = t.date.atMidnight := by
  obtain ⟨p, hitems, ht⟩ := readBy_eq_ok.1 h
  obtain ⟨year, month, day, rfl⟩ := readItems_of_subset_datePattern (List.Subset.refl _) hitems
  obtain ⟨date, -, ht⟩ := Option.bind_eq_some_iff.1 ht
  cases ht
  rfl

/-- A form in which a text names a point in time. -/
inductive TimeForm
  | zoned
  | iso
  | spaced
  | day
  deriving DecidableEq

namespace TimeForm

/-- Reads a text in one form only. Without an offset it is taken as UTC, a day as its midnight. -/
def read? (cs : List Char) : TimeForm → Option Instant
  | zoned => readZoned? cs
  | iso => (readBy isoPattern cs).toOption.map Instant.mk
  | spaced => (readBy spacedPattern cs).toOption.map Instant.mk
  | day => (readDate cs).toOption.map fun d => ⟨d.atMidnight⟩

/-- What stands in a text of the form behind the date whose numbers were read. -/
inductive Behind (p : Parts) : TimeForm → List Char → Prop
  | zoned {c : Char} {clock rest : List Char} {q : Parts} : isDateEnd c = true →
      trimStart clock = clock → readItems clockPattern p clock = .ok (q, rest) → rest ≠ [] →
      Behind p zoned (c :: clock)
  | iso {clock : List Char} {q : Parts} :
      readItems clockPattern p clock = .ok (q, []) → Behind p iso ('T' :: clock)
  | spaced {rest : List Char} {q : Parts} :
      readItems clockPattern p (trimStart rest) = .ok (q, []) → Behind p spaced rest
  | day : Behind p day []

theorem behind_of_zoned {i : Instant} (h : readZoned? cs = some i) :
    ∃ p rest, readItems datePattern {} cs = .ok (p, rest) ∧ Behind p zoned rest := by
  obtain ⟨⟨p, cs₁⟩, hdate, h⟩ := Option.bind_eq_some_iff.1 h
  cases cs₁ with
  | nil => cases h
  | cons c clock =>
    dsimp only at h
    split at h
    · rename_i hc
      obtain ⟨clock', hclock', h⟩ := Option.bind_eq_some_iff.1 h
      cases hclock'
      obtain ⟨⟨q, cs₃⟩, hclock, h⟩ := Option.bind_eq_some_iff.1 h
      obtain ⟨⟨whole, cs₄⟩, hfraction, h⟩ := Option.bind_eq_some_iff.1 h
      obtain ⟨⟨offset, cs₅⟩, hoffset, h⟩ := Option.bind_eq_some_iff.1 h
      obtain ⟨hread, htrim⟩ := readItems_of_zonedClock? hclock hfraction
      exact ⟨p, c :: clock, readItems_of_zonedDate? hdate,
        .zoned hc htrim hread (ne_nil_of_offset? hoffset)⟩
    · cases h

theorem behind_of_iso {t : Timestamp} (h : readBy isoPattern cs = .ok t) :
    ∃ p rest, readItems datePattern {} cs = .ok (p, rest) ∧ Behind p iso rest := by
  obtain ⟨q, hitems, -⟩ := readBy_eq_ok.1 h
  obtain ⟨p, rest, hdate, hitems⟩ := readItems_append_eq_ok.1 hitems
  obtain ⟨⟨p', clock⟩, hT, hclock⟩ := bind_eq_ok.1 hitems
  obtain ⟨rfl, rfl⟩ := read_literal_eq_ok hT
  exact ⟨p', 'T' :: clock, hdate, .iso hclock⟩

theorem behind_of_spaced {t : Timestamp} (h : readBy spacedPattern cs = .ok t) :
    ∃ p rest, readItems datePattern {} cs = .ok (p, rest) ∧ Behind p spaced rest := by
  obtain ⟨q, hitems, -⟩ := readBy_eq_ok.1 h
  obtain ⟨p, rest, hdate, hitems⟩ := readItems_append_eq_ok.1 hitems
  obtain ⟨⟨p', clock⟩, hblanks, hclock⟩ := bind_eq_ok.1 hitems
  cases hblanks
  exact ⟨p, rest, hdate, .spaced hclock⟩

theorem behind_of_day {d : Date} (h : readDate cs = .ok d) :
    ∃ p rest, readItems datePattern {} cs = .ok (p, rest) ∧ Behind p day rest := by
  obtain ⟨t, hby, -⟩ := map_eq_ok.1 h
  obtain ⟨p, hitems, -⟩ := readBy_eq_ok.1 hby
  exact ⟨p, [], hitems, .day⟩

/-- A text of any form begins with a date, and goes on as the form wants it. -/
theorem behind_of_read? {f : TimeForm} {i : Instant} (h : f.read? cs = some i) :
    ∃ p rest, readItems datePattern {} cs = .ok (p, rest) ∧ Behind p f rest := by
  cases f with
  | zoned => exact behind_of_zoned h
  | iso =>
    obtain ⟨t, ht, -⟩ := toOption_map_eq_some.1 h
    exact behind_of_iso ht
  | spaced =>
    obtain ⟨t, ht, -⟩ := toOption_map_eq_some.1 h
    exact behind_of_spaced ht
  | day =>
    obtain ⟨d, hd, -⟩ := toOption_map_eq_some.1 h
    exact behind_of_day hd

theorem not_endsDigits_of_clock {r : Parts × List Char} (h : readItems clockPattern p cs = .ok r) :
    ¬EndsDigits (trimStart cs) := by
  intro hends
  obtain ⟨e, he⟩ := readItems_clock_of_endsDigits p hends
  rw [he] at h
  cases h

theorem isDateEnd_cases {c : Char} (h : isDateEnd c = true) :
    (∀ cs, EndsDigits (trimStart (c :: cs))) ∨ ∀ cs, trimStart (c :: cs) = trimStart cs := by
  simp only [isDateEnd, Bool.or_eq_true, beq_iff_eq] at h
  rcases h with (rfl | rfl) | rfl
  · left
    exact endsDigits_T
  · left
    intro cs
    rw [Text.trimStart_of_not_blank (by decide)]
    exact endsDigits_cons.2 (by decide)
  · right
    intro cs
    exact List.dropWhile_cons_of_pos (by decide)

theorem not_iso_of_zoned (hz : Behind p zoned rest) : ¬Behind p iso rest := by
  intro hi
  cases hz with
  | zoned _ _ hclock hrest =>
    cases hi with
    | iso hclock' =>
      -- the same time of day would have to be followed by an offset and by nothing
      rw [hclock] at hclock'
      cases hclock'
      exact hrest rfl

theorem not_spaced_of_zoned (hz : Behind p zoned rest) : ¬Behind p spaced rest := by
  intro hs
  cases hz with
  | zoned hc htrim hclock hrest =>
    cases hs with
    | spaced hclock' =>
      rcases isDateEnd_cases hc with hends | hblank
      · apply not_endsDigits_of_clock hclock'
        rw [trimStart_trimStart]
        exact hends _
      · rw [hblank, htrim, hclock] at hclock'
        cases hclock'
        exact hrest rfl

theorem not_spaced_of_iso (hi : Behind p iso rest) : ¬Behind p spaced rest := by
  intro hs
  cases hi with
  | iso _ =>
    cases hs with
    | spaced hclock =>
      apply not_endsDigits_of_clock hclock
      rw [trimStart_trimStart]
      exact endsDigits_T _

theorem ne_nil_of_spaced (hs : Behind p spaced rest) : rest ≠ [] := by
  rintro rfl
  cases hs with
  | spaced hclock => exact not_endsDigits_of_clock hclock endsDigits_nil

/-- What stands behind the date tells the forms apart. -/
theorem Behind.unique {f g : TimeForm} (hf : Behind p f rest) (hg : Behind p g rest) : f = g := by
  cases f with
  | zoned =>
    cases g with
    | zoned => rfl
    | iso => exact absurd hg (not_iso_of_zoned hf)
    | spaced => exact absurd hg (not_spaced_of_zoned hf)
    | day => cases hg; cases hf
  | iso =>
    cases g with
    | zoned => exact absurd hf (not_iso_of_zoned hg)
    | iso => rfl
    | spaced => exact absurd hg (not_spaced_of_iso hf)
    | day => cases hg; cases hf
  | spaced =>
    cases g with
    | zoned => exact absurd hf (not_spaced_of_zoned hg)
    | iso => exact absurd hf (not_spaced_of_iso hg)
    | spaced => rfl
    | day => cases hg; exact absurd rfl (ne_nil_of_spaced hf)
  | day =>
    cases g with
    | zoned => cases hf; cases hg
    | iso => cases hf; cases hg
    | spaced => cases hf; exact absurd rfl (ne_nil_of_spaced hg)
    | day => rfl

theorem read?_unique {f g : TimeForm} {i j : Instant} (hf : f.read? cs = some i)
    (hg : g.read? cs = some j) : f = g := by
  obtain ⟨p, rest, hdate, hf⟩ := behind_of_read? hf
  obtain ⟨p', rest', hdate', hg⟩ := behind_of_read? hg
  rw [hdate] at hdate'
  cases hdate'
  exact hf.unique hg

theorem findSome?_eq_some_iff_of_unique {α β : Type} {f : α → Option β}
    (hunique : ∀ {x y a b}, f x = some a → f y = some b → x = y) {l : List α} {b : β} :
    l.findSome? f = some b ↔ ∃ x ∈ l, f x = some b := by
  constructor
  · intro h
    exact List.exists_of_findSome?_eq_some h
  · rintro ⟨x, hx, hfx⟩
    -- The first item with a result need not be this one, but it has the same result.
    have hsome : (l.findSome? f).isSome := List.findSome?_isSome_iff.2 ⟨x, hx, by rw [hfx]; rfl⟩
    obtain ⟨a, ha⟩ := Option.isSome_iff_exists.1 hsome
    obtain ⟨y, -, hfy⟩ := List.exists_of_findSome?_eq_some ha
    obtain rfl := hunique hfx hfy
    rw [ha, ← hfy, hfx]

theorem findSome?_read? {order : List TimeForm} {i : Instant} :
    order.findSome? (read? cs) = some i ↔ ∃ f ∈ order, f.read? cs = some i :=
  findSome?_eq_some_iff_of_unique fun hf hg => read?_unique hf hg

theorem day_read? : day.read? cs = (readBy datePattern cs).toOption.map Instant.mk := by
  rw [read?, readDate]
  cases h : readBy datePattern cs with
  | error e => rfl
  | ok t =>
    have hday := readBy_datePattern_eq_ok h
    rw [map_ok]
    exact congrArg (fun u => some (Instant.mk u)) hday.symm

theorem toOption_readTimestamp (cs : List Char) :
    (readTimestamp cs).toOption.map Instant.mk = [iso, spaced, day].findSome? (read? cs) := by
  simp only [List.findSome?, day_read?]
  rw [read?, read?, readTimestamp]
  cases readBy isoPattern cs with
  | ok t => rfl
  | error e =>
    cases readBy spacedPattern cs with
    | ok t => rfl
    | error e' => cases readBy datePattern cs <;> rfl

theorem toOption_readInstant (cs : List Char) :
    (readInstant cs).toOption = [zoned, iso, spaced, day].findSome? (read? cs) := by
  have hnaive := toOption_readTimestamp cs
  rw [List.findSome?_cons, read?, readInstant, ← hnaive]
  cases readZoned? cs with
  | some i => rfl
  | none => cases readTimestamp cs <;> rfl

theorem findSome?_order {order order' : List TimeForm} (h : ∀ f, f ∈ order ↔ f ∈ order') :
    order.findSome? (read? cs) = order'.findSome? (read? cs) := by
  apply Option.ext
  intro i
  rw [findSome?_read?, findSome?_read?]
  simp only [h]

theorem mem_all (f : TimeForm) : f ∈ [zoned, iso, spaced, day] := by
  cases f <;> decide

theorem mem_naive {f : TimeForm} : f ∈ [iso, spaced, day] ↔ f ≠ zoned := by
  cases f <;> decide

theorem toOption_readInstant_order {order : List TimeForm} (h : ∀ f, f ∈ order) :
    (readInstant cs).toOption = order.findSome? (read? cs) := by
  rw [toOption_readInstant]
  apply findSome?_order
  intro f
  exact ⟨fun _ => h f, fun _ => mem_all f⟩

theorem toOption_readTimestamp_order {order : List TimeForm} (h : ∀ f, f ∈ order ↔ f ≠ zoned) :
    (readTimestamp cs).toOption.map Instant.mk = order.findSome? (read? cs) := by
  rw [toOption_readTimestamp]
  apply findSome?_order
  intro f
  rw [mem_naive, h f]

theorem readInstant_eq_ok_iff {i : Instant} :
    readInstant cs = .ok i ↔ ∃ f : TimeForm, f.read? cs = some i := by
  rw [← toOption_eq_some, toOption_readInstant, findSome?_read?]
  constructor
  · rintro ⟨f, -, hf⟩
    exact ⟨f, hf⟩
  · rintro ⟨f, hf⟩
    exact ⟨f, mem_all f, hf⟩

theorem readTimestamp_eq_ok_iff {t : Timestamp} :
    readTimestamp cs = .ok t ↔ ∃ f : TimeForm, f ≠ zoned ∧ f.read? cs = some ⟨t⟩ := by
  have hsome : readTimestamp cs = .ok t ↔
      (readTimestamp cs).toOption.map Instant.mk = some ⟨t⟩ := by
    cases readTimestamp cs <;> simp [Except.toOption]
  rw [hsome, toOption_readTimestamp, findSome?_read?]
  simp only [mem_naive]

end TimeForm

end TableMapper.Calendar
