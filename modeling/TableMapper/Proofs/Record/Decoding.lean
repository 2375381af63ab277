import Mathlib.Data.List.Nodup
import TableMapper.Proofs.Json.Grammar
import TableMapper.Proofs.Json.RoundTrip
import TableMapper.Proofs.Record
import TableMapper.Proofs.Record.Members

/-!
# Decoding JSON objects

Of the members of an object a record keeps the last one under each key, whatever stood under that
key before, and orders them by the bytes of their keys. If some kept member is a list or an object,
there is no record, and of the keys of such members the smallest is named.
-/

namespace TableMapper

namespace Json

theorem IsNumber.head {token : List Char} (h : IsNumber token) :
    ∃ c cs, token = c :: cs ∧ (c = '-' ∨ c.isDigit = true) := by
  cases h with
  | @parts negative whole fraction exponent hwhole hfraction hexponent =>
    cases negative with
    | true => exact ⟨'-', _, rfl, .inl rfl⟩
    | false =>
      obtain ⟨c, cs, rfl⟩ := List.exists_cons_of_ne_nil hwhole.nonempty
      exact ⟨c, _, rfl, .inr (hwhole.digits c List.mem_cons_self)⟩

theorem IsNumber.spells {token : List Char} (h : IsNumber token) {j : Json}
    (hj : Spells token j) : SpellsNumber token j := by
  obtain ⟨c, cs, htoken, hc⟩ := h.head
  have hnot : ∀ d ds, token = d :: ds → d ≠ '-' → d.isDigit = false → False := by
    rintro d ds hd hminus hdigit
    rw [htoken] at hd
    cases hd
    rcases hc with hc | hc
    · exact hminus hc
    · cases hdigit.symm.trans hc
  cases hj with
  | number hj => exact hj
  | nullWord => exact (hnot 'n' _ rfl (by decide) (by decide)).elim
  | trueWord => exact (hnot 't' _ rfl (by decide) (by decide)).elim
  | falseWord => exact (hnot 'f' _ rfl (by decide) (by decide)).elim
  | text hs => exact (hnot '"' _ rfl (by decide) (by decide)).elim
  | list hjs => exact (hnot '[' _ rfl (by decide) (by decide)).elim
  | object hms => exact (hnot '\x7b' _ rfl (by decide) (by decide)).elim

end Json

namespace Value

theorem fits_toInt (n : Int64) : Json.Fits n.toInt := by
  have hhigh := n.toInt_le
  have hmax := Int64.toInt_maxValue
  have hsize : UInt64.size = 2 ^ 64 := rfl
  exact ⟨n.minValue_le_toInt, by omega⟩

theorem ofJson_of_whole {token : List Char} {j : Json} (h : Json.SpellsNumber token j) {n : Int64}
    (hn : Json.wholeNumber? token = some n.toInt) (column : String) :
    ofJson column j = .ok (int n) := by
  cases h with
  | whole hnumber hwhole hfits =>
    cases hwhole.symm.trans hn
    rw [ofJson, ofNumber, Json.asInt64?, int64?_toInt]
  | rounded hnumber hnone => exact absurd (fits_toInt n) (hnone _ hn)

theorem ofJson_of_other {token : List Char} {j : Json} (h : Json.SpellsNumber token j)
    (hn : ∀ n : Int64, Json.wholeNumber? token ≠ some n.toInt) (column : String) :
    ∃ x, ofJson column j = .ok (float x) := by
  cases h with
  | @whole n hnumber hwhole hfits =>
    have hnone : Decimal.int64? n = none := by
      by_contra hsome
      obtain ⟨i, hi⟩ := Option.ne_none_iff_exists'.1 hsome
      exact hn i (hwhole.trans (by rw [Decimal.toInt_of_int64? hi]))
    refine ⟨Float.ofInt n, ?_⟩
    rw [ofJson, ofNumber, Json.asInt64?, hnone]
    rfl
  | @rounded x hnumber hnone => exact ⟨x, rfl⟩

theorem ofJson_ne_unsupported (column column' reason : String) (j : Json) :
    ofJson column j ≠ .error (.decode column' ("unsupported number " ++ reason)) := by
  intro h
  by_cases hj : j.isScalar = true
  · obtain ⟨v, hv⟩ := exists_ofJson hj column
    cases hv.symm.trans h
  · rw [ofJson_eq_error (by simpa using hj), noScalar, Except.error.injEq, Error.decode.injEq] at h
    have hmessage := congrArg (fun s => s.toList.head?) h.2
    simp at hmessage

end Value

namespace Record

variable {ms : List (String × Json)} {r : Record}

/-- The record has the keys of the members and no others, ordered by their bytes, and under each key
the value of the last member. -/
structure Keeps (r : Record) (ms : List (String × Json)) : Prop where
  keys : ∀ k, k ∈ r.keys ↔ k ∈ ms.map Prod.fst
  values : ∀ k v, (k, v) ∈ r.entries ↔ ∃ j, Json.last? ms k = some j ∧ Value.ofJson k j = .ok v
  ordered : r.keys.Pairwise fun k k' => Text.bytes k < Text.bytes k'

/-- The kept member under the key is a list or an object, and every other such key comes later. -/
structure FirstNested (ms : List (String × Json)) (k : String) (j : Json) : Prop where
  last : Json.last? ms k = some j
  nested : j.isScalar = false
  least : ∀ k' j', Json.last? ms k' = some j' → j'.isScalar = false →
    k' = k ∨ Text.bytes k < Text.bytes k'

theorem entries_ofMembers (h : ofMembers ms = .ok r) :
    List.Forall₂ (fun m e => m.1 = e.1 ∧ Value.ofJson m.1 m.2 = .ok e.2) (Json.sortMembers ms)
      r.entries := by
  obtain ⟨es, hes, rfl⟩ := map_eq_ok.1 h
  have hentries := entriesOfMembers_ok hes
  have hd : (es.map Prod.fst).Nodup := keys_entries hentries ▸ Json.nodup_sortMembers ms
  rw [entries_ofPairs hd]
  exact hentries

theorem keeps_of_ofMembers (h : ofMembers ms = .ok r) : r.Keeps ms := by
  have hentries := entries_ofMembers h
  have hkeys : r.keys = (Json.sortMembers ms).map Prod.fst := keys_entries hentries
  refine ⟨?_, ?_, ?_⟩
  · intro k
    -- A key stands among the members just if some member is its last.
    have hlast : k ∈ ms.map Prod.fst ↔ ∃ j, Json.last? ms k = some j := by
      rw [← not_iff_not, ← Json.last?_eq_none, Option.eq_none_iff_forall_ne_some, not_exists]
    rw [hkeys, hlast, List.mem_map]
    constructor
    · rintro ⟨⟨k', j⟩, hmem, rfl⟩
      exact ⟨j, Json.mem_sortMembers.1 hmem⟩
    · rintro ⟨j, hj⟩
      exact ⟨(k, j), Json.mem_sortMembers.2 hj, rfl⟩
  · intro k v
    constructor
    · intro hmem
      obtain ⟨⟨k', j⟩, hmember, hk, hv⟩ := exists_of_mem_forall₂ (hentries.flip) hmem
      cases hk
      exact ⟨j, Json.mem_sortMembers.1 hmember, hv⟩
    · rintro ⟨j, hj, hv⟩
      obtain ⟨⟨k', v'⟩, hmem, hk, hv'⟩ :=
        exists_of_mem_forall₂ hentries (Json.mem_sortMembers.2 hj)
      cases hk
      cases hv.symm.trans hv'
      exact hmem
  · rw [hkeys, List.pairwise_map]
    exact (Json.ordered_sortMembers ms).imp Text.bytes_lt_of_before

theorem Keeps.unique {s : Record} (h : r.Keeps ms) (h' : s.Keeps ms) : r = s := by
  have hperm : r.entries.Perm s.entries := by
    rw [List.perm_ext_iff_of_nodup (List.Nodup.of_map Prod.fst r.distinct)
      (List.Nodup.of_map Prod.fst s.distinct)]
    rintro ⟨k, v⟩
    rw [h.values, h'.values]
  have hordered := List.pairwise_map.1 h.ordered
  have hordered' := List.pairwise_map.1 h'.ordered
  have hentries : r.entries = s.entries := by
    apply List.Perm.eq_of_pairwise _ hordered hordered' hperm
    intro e e' _ _ hlt hgt
    exact absurd hgt (List.lt_asymm hlt)
  cases r
  cases s
  cases hentries
  rfl

theorem ofMembers_iff_keeps : ofMembers ms = .ok r ↔ r.Keeps ms := by
  constructor
  · exact keeps_of_ofMembers
  · intro h
    have hscalars : ∀ k j, Json.last? ms k = some j → j.isScalar = true := by
      intro k j hj
      have hmem : k ∈ ms.map Prod.fst := by
        by_contra hk
        cases (Json.last?_eq_none.2 hk).symm.trans hj
      obtain ⟨⟨k', v⟩, hentry, rfl⟩ := List.mem_map.1 ((h.keys k).2 hmem)
      obtain ⟨j', hj', hv⟩ := (h.values k' v).1 hentry
      cases hj.symm.trans hj'
      exact Value.isScalar_of_ofJson hv
    obtain ⟨s, hs⟩ := exists_ofMembers_iff.2 hscalars
    rw [hs, h.unique (keeps_of_ofMembers hs)]

theorem FirstNested.unique {k k' : String} {j j' : Json} (h : FirstNested ms k j)
    (h' : FirstNested ms k' j') : k = k' ∧ j = j' := by
  have hkey : k = k' := by
    rcases h.least k' j' h'.last h'.nested with hk | hlt
    · exact hk.symm
    · rcases h'.least k j h.last h.nested with hk | hgt
      · exact hk
      · exact absurd hgt (List.lt_asymm hlt)
  subst hkey
  cases h.last.symm.trans h'.last
  exact ⟨rfl, rfl⟩

/-- Of the kept members in order, the first that is no scalar decides. -/
theorem firstNested_of_ofMembers {e : Error} (h : ofMembers ms = .error e) :
    ∃ k j, FirstNested ms k j ∧ e = noScalar k j := by
  have hentries : entriesOfMembers (Json.sortMembers ms) = .error e := map_eq_error.1 h
  rcases all_or_first (fun m : String × Json => m.2.isScalar = true) (Json.sortMembers ms) with
    hall | ⟨front, ⟨k, j⟩, back, hsplit, hfront, hj⟩
  · obtain ⟨es, hes⟩ := exists_entriesOfMembers hall
    cases hes.symm.trans hentries
  · have hnested : j.isScalar = false := by simpa using hj
    rw [hsplit, entriesOfMembers_error hfront hnested] at hentries
    cases hentries
    have hmem : (k, j) ∈ Json.sortMembers ms := by
      rw [hsplit]
      exact List.mem_append_right _ List.mem_cons_self
    refine ⟨k, j, ⟨Json.mem_sortMembers.1 hmem, hnested, ?_⟩, rfl⟩
    intro k' j' hlast hnested'
    have hmem' : (k', j') ∈ Json.sortMembers ms := Json.mem_sortMembers.2 hlast
    -- The members before it are scalars, and those after it have keys that come later.
    have hordered := Json.ordered_sortMembers ms
    rw [Json.Ordered, hsplit, List.pairwise_append] at hordered
    rw [hsplit] at hmem'
    rcases List.mem_append.1 hmem' with hmem' | hmem'
    · cases hnested'.symm.trans (hfront _ hmem')
    · rcases List.mem_cons.1 hmem' with heq | hmem'
      · cases heq
        exact .inl rfl
      · have hbefore := (List.pairwise_cons.1 hordered.2.1).1 _ hmem'
        exact .inr (Text.bytes_lt_of_before hbefore)

theorem ofMembers_eq_error_iff {e : Error} :
    ofMembers ms = .error e ↔ ∃ k j, FirstNested ms k j ∧ e = noScalar k j := by
  constructor
  · exact firstNested_of_ofMembers
  · rintro ⟨k, j, hfirst, rfl⟩
    cases hread : ofMembers ms with
    | ok r =>
      have hscalar := exists_ofMembers_iff.1 ⟨r, hread⟩ k j hfirst.last
      cases hfirst.nested.symm.trans hscalar
    | error e =>
      obtain ⟨k', j', hfirst', rfl⟩ := firstNested_of_ofMembers hread
      obtain ⟨rfl, rfl⟩ := hfirst.unique hfirst'
      rfl

theorem ofJson_of_object {text : String} (h : Json.parse text = .ok (.object ms)) :
    ofJson text = ofMembers ms := by
  rw [ofJson, parseJson, h]
  rfl

open Json (Blank IsNumber Spells SpellsMembers last? wholeNumber?)

/-- A text that is accepted as an object spells its members in order, and they are decoded to the
record that keeps the last of each key and has its keys ordered by bytes. There is such a record
just if every kept member is a scalar, and otherwise the error names the smallest key with a kept
list or object. A number that denotes a whole number of 64 bits with a sign, and is not minus zero,
becomes that number; every other number becomes a double, and none is refused. -/
theorem object_decoded {text : String} (h : Json.parse text = .ok (.object ms)) :
    (∃ gap token gap', text.toList = gap ++ ('\x7b' :: (token ++ gap')) ∧ Blank gap ∧ Blank gap' ∧
      SpellsMembers true token ms) ∧
    (∀ r, ofJson text = .ok r ↔ r.Keeps ms) ∧
    ((∃ r, ofJson text = .ok r) ↔ ∀ k j, last? ms k = some j → j.isScalar = true) ∧
    (∀ e, ofJson text = .error e ↔ ∃ k j, FirstNested ms k j ∧
      e = .decode k ("expected a JSON scalar, got " ++ j.canonical.render)) ∧
    (∀ token j column, IsNumber token → Spells token j →
      (∀ n : Int64, wholeNumber? token = some n.toInt → Value.ofJson column j = .ok (.int n)) ∧
      ((∀ n : Int64, wholeNumber? token ≠ some n.toInt) →
        ∃ x, Value.ofJson column j = .ok (.float x))) ∧
    ∀ column reason, ofJson text ≠ .error (.decode column ("unsupported number " ++ reason)) := by
  have hread := ofJson_of_object h
  refine ⟨?_, ?_, ?_, ?_, ?_, ?_⟩
  · obtain ⟨gap, token, gap', htext, hgap, hgap', hj⟩ := Json.spells_of_parse h
    cases hj with
    | number hj => cases hj
    | object hms => exact ⟨gap, _, gap', htext, hgap, hgap', hms⟩
  · intro r
    rw [hread]
    exact ofMembers_iff_keeps
  · rw [hread]
    exact exists_ofMembers_iff
  · intro e
    rw [hread]
    exact ofMembers_eq_error_iff
  · intro token j column hnumber hj
    have hspells := hnumber.spells hj
    exact ⟨fun n hn => Value.ofJson_of_whole hspells hn column,
      fun hn => Value.ofJson_of_other hspells hn column⟩
  · intro column reason hrefused
    rw [hread] at hrefused
    obtain ⟨k, j, hfirst, he⟩ := firstNested_of_ofMembers hrefused
    apply Value.ofJson_ne_unsupported k column reason j
    rw [Value.ofJson_eq_error hfirst.nested, he]

/-- Members with a list and a number under one key, and a number beyond 64 bits with a sign. -/
def repeated : List (String × Json) :=
  [("z", .list [.int 1]), ("é", .int 9223372036854775808), ("z", .int 7)]

def nested : List (String × Json) := [("y", .list []), ("x", .int 1), ("x", .list [.null])]

theorem exact_of_nonneg {n : Int} (hlow : 0 ≤ n) (hhigh : n ≤ 9223372036854775808) :
    (Json.int n).Exact := by
  have hmin := Int64.toInt_minValue
  have hsize : UInt64.size = 18446744073709551616 := rfl
  constructor <;> omega

theorem parse_repeated :
    Json.parse "\x7b\"z\":[1],\"é\":9223372036854775808,\"z\":7\x7d" = .ok (.object repeated) := by
  have htext : "\x7b\"z\":[1],\"é\":9223372036854775808,\"z\":7\x7d" =
      (Json.object repeated).render := by
    decide +kernel
  have hone : (Json.int 1).Exact := exact_of_nonneg (by decide) (by decide)
  have hlarge : (Json.int 9223372036854775808).Exact := exact_of_nonneg (by decide) (by decide)
  have hseven : (Json.int 7).Exact := exact_of_nonneg (by decide) (by decide)
  rw [htext]
  exact Json.parse_render (by decide) ⟨⟨hone, trivial⟩, hlarge, hseven, trivial⟩

theorem parse_nested :
    Json.parse "\x7b\"y\":[],\"x\":1,\"x\":[null]\x7d" = .ok (.object nested) := by
  have htext : "\x7b\"y\":[],\"x\":1,\"x\":[null]\x7d" = (Json.object nested).render := by
    decide +kernel
  have hone : (Json.int 1).Exact := exact_of_nonneg (by decide) (by decide)
  rw [htext]
  exact Json.parse_render (by decide) ⟨trivial, hone, ⟨trivial, trivial⟩, trivial⟩

/-- A list is forgotten if a number follows under its key, and a number beyond 64 bits is a double.
Of two lists the one with the smaller key is named, although it comes later. -/
theorem object_decoded_repeated :
    let text := "\x7b\"z\":[1],\"é\":9223372036854775808,\"z\":7\x7d"
    let text' := "\x7b\"y\":[],\"x\":1,\"x\":[null]\x7d"
    Json.parse text = .ok (.object repeated) ∧ Json.parse text' = .ok (.object nested) ∧
      (∃ r x, ofJson text = .ok r ∧ ("z", .int 7) ∈ r.entries ∧ ("é", .float x) ∈ r.entries) ∧
      ofJson text' = .error (.decode "x" "expected a JSON scalar, got [null]") := by
  intro text text'
  obtain ⟨-, hkeeps, hscalars, -, hnumbers, -⟩ := object_decoded parse_repeated
  obtain ⟨-, -, -, herror, -, -⟩ := object_decoded parse_nested
  refine ⟨parse_repeated, parse_nested, ?_, ?_⟩
  · have hsmall : IsNumber ['7'] :=
      Json.IsWhole.isNumber ⟨by decide, List.all_eq_true.1 rfl, by decide⟩ false
    have hlarge : IsNumber "9223372036854775808".toList :=
      Json.IsWhole.isNumber ⟨by decide, List.all_eq_true.1 (by decide +kernel), by decide⟩ false
    have hvalue : wholeNumber? "9223372036854775808".toList = some 9223372036854775808 := by
      decide +kernel
    have hbeyond : ∀ n : Int64, wholeNumber? "9223372036854775808".toList ≠ some n.toInt := by
      intro n hn
      have hle := n.toInt_le
      have hmax := Int64.toInt_maxValue
      have heq := Option.some.inj (hvalue.symm.trans hn)
      omega
    have hint := (hnumbers ['7'] (.int 7) "z" hsmall
      (.number (.whole hsmall (by decide +kernel) (by decide)))).1 7 (by decide +kernel)
    obtain ⟨x, hfloat⟩ := (hnumbers _ (.int 9223372036854775808) "é" hlarge
      (.number (.whole hlarge hvalue (by decide)))).2 hbeyond
    have hkept : ∀ k j, last? repeated k = some j → j.isScalar = true := by
      have hsorted : Json.sortMembers repeated =
          [("z", .int 7), ("é", .int 9223372036854775808)] := rfl
      intro k j hlast
      have hmem := Json.mem_sortMembers.2 hlast
      simp only [hsorted, List.mem_cons, Prod.mk.injEq, List.not_mem_nil, or_false] at hmem
      rcases hmem with ⟨-, rfl⟩ | ⟨-, rfl⟩ <;> rfl
    obtain ⟨r, hr⟩ := hscalars.2 hkept
    have hvalues := ((hkeeps r).1 hr).values
    exact ⟨r, x, hr, (hvalues _ _).2 ⟨_, rfl, hint⟩, (hvalues _ _).2 ⟨_, rfl, hfloat⟩⟩
  · have hsorted : Json.sortMembers nested = [("x", .list [.null]), ("y", .list [])] := rfl
    refine (herror _).2 ⟨"x", .list [.null], ⟨rfl, rfl, fun k j hlast _ => ?_⟩, by decide +kernel⟩
    have hmem := Json.mem_sortMembers.2 hlast
    simp only [hsorted, List.mem_cons, Prod.mk.injEq, List.not_mem_nil, or_false] at hmem
    rcases hmem with ⟨rfl, -⟩ | ⟨rfl, -⟩
    · exact .inl rfl
    · exact .inr (by decide +kernel)

end Record

end TableMapper
