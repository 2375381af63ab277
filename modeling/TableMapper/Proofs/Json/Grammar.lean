import TableMapper.Json.Reader
import TableMapper.Proofs.Json.Tokens

/-!
# The grammar of JSON

Which texts spell which values, as relations between the two. The members of an object stand in the
order of the text, however often a key comes back. Whatever the readers accept is spelled by the
part of the text that they take.
-/

namespace TableMapper.Json

/-- Whatever the reader accepts is spelled by the start of the text, and the rest is left. -/
def Takes {α : Type} (read : List Char → Except Fault (α × List Char))
    (spelled : List Char → α → Prop) : Prop :=
  ∀ cs a rest, read cs = .ok (a, rest) → ∃ token, cs = token ++ rest ∧ spelled token a

/-- What may stand after a backslash, and the character that it means. -/
inductive SpellsEscape : List Char → Char → Prop
  | letter {e d : Char}
      (h : (e, d) ∈ [('"', '"'), ('\\', '\\'), ('/', '/'), ('b', '\x08'), ('f', '\x0c'),
        ('n', '\n'), ('r', '\r'), ('t', '\t')]) : SpellsEscape [e] d
  | code {a b c d : Char} {n : Nat} (hn : hexNumber? a b c d = some n)
      (hlow : ¬(0xDC00 ≤ n ∧ n ≤ 0xDFFF)) (hhigh : ¬(0xD800 ≤ n ∧ n ≤ 0xDBFF)) :
      SpellsEscape ['u', a, b, c, d] (Char.ofNat n)
  | pair {a b c d a' b' c' d' : Char} {n n' : Nat} (hn : hexNumber? a b c d = some n)
      (hn' : hexNumber? a' b' c' d' = some n') (hhigh : 0xD800 ≤ n ∧ n ≤ 0xDBFF)
      (hlow : 0xDC00 ≤ n' ∧ n' ≤ 0xDFFF) :
      SpellsEscape ['u', a, b, c, d, '\\', 'u', a', b', c', d']
        (Char.ofNat (0x10000 + (n - 0xD800) * 0x400 + (n' - 0xDC00)))

/-- The characters of a string, and the quote that closes it. -/
inductive SpellsCharacters : List Char → List Char → Prop
  | close : SpellsCharacters ['"'] []
  | plain {c : Char} {cs ds : List Char} (hquote : c ≠ '"') (hbackslash : c ≠ '\\')
      (hcontrol : ¬c.toNat < 32) (h : SpellsCharacters cs ds) : SpellsCharacters (c :: cs) (c :: ds)
  | escaped {escape cs ds : List Char} {d : Char} (hescape : SpellsEscape escape d)
      (h : SpellsCharacters cs ds) : SpellsCharacters ('\\' :: (escape ++ cs)) (d :: ds)

def SpellsText (token : List Char) (s : String) : Prop := SpellsCharacters token s.toList

theorem takes_readHex :
    Takes readHex fun token n => ∃ a b c d, token = [a, b, c, d] ∧ hexNumber? a b c d = some n := by
  intro cs n rest h
  unfold readHex at h
  dsimp only at h
  split at h
  · rename_i found hfound
    cases h
    split at hfound
    · rename_i a b c d r
      obtain ⟨n', hn, hpair⟩ := Option.map_eq_some_iff.1 hfound
      cases hpair
      exact ⟨[a, b, c, d], rfl, a, b, c, d, rfl, hn⟩
    · cases hfound
  · split at h <;> cases h

theorem takes_readLowSurrogate :
    Takes readLowSurrogate fun token n => ∃ a b c d, token = ['\\', 'u', a, b, c, d] ∧
      hexNumber? a b c d = some n ∧ 0xDC00 ≤ n ∧ n ≤ 0xDFFF := by
  intro cs n rest h
  unfold readLowSurrogate at h
  split at h
  · cases h
  · cases h
  · obtain ⟨⟨low, rest'⟩, hhex, h⟩ := bind_eq_ok.1 h
    dsimp only at h
    by_cases hlow : 0xDC00 ≤ low ∧ low ≤ 0xDFFF
    · rw [if_pos hlow] at h
      cases h
      obtain ⟨_, rfl, a, b, c, d, rfl, hn⟩ := takes_readHex _ _ _ hhex
      exact ⟨['\\', 'u', a, b, c, d], rfl, a, b, c, d, rfl, hn, hlow⟩
    · rw [if_neg hlow] at h
      cases h
  · cases h
  · cases h

theorem takes_readUnicode : Takes readUnicode fun token => SpellsEscape ('u' :: token) := by
  intro cs c rest h
  obtain ⟨⟨n, cs'⟩, hhex, hchar⟩ := bind_eq_ok.1 h
  obtain ⟨token, hcs, a, b, c, d, rfl, hn⟩ := takes_readHex _ _ _ hhex
  dsimp only at hchar
  by_cases hlow : 0xDC00 ≤ n ∧ n ≤ 0xDFFF
  · rw [if_pos hlow] at hchar
    cases hchar
  rw [if_neg hlow] at hchar
  by_cases hhigh : 0xD800 ≤ n ∧ n ≤ 0xDBFF
  · rw [if_pos hhigh] at hchar
    obtain ⟨⟨n', rest'⟩, hsecond, hpair⟩ := bind_eq_ok.1 hchar
    rw [Except.ok.injEq, Prod.mk.injEq] at hpair
    obtain ⟨rfl, rfl⟩ := hpair
    obtain ⟨token', rfl, a', b', c', d', rfl, hn', hlow'⟩ := takes_readLowSurrogate _ _ _ hsecond
    exact ⟨[a, b, c, d] ++ ['\\', 'u', a', b', c', d'], hcs, .pair hn hn' hhigh hlow'⟩
  · rw [if_neg hhigh] at hchar
    cases hchar
    exact ⟨[a, b, c, d], hcs, .code hn hlow hhigh⟩

theorem takes_readEscape : Takes readEscape SpellsEscape := by
  intro cs d rest h
  rw [readEscape.eq_def] at h
  split at h
  · cases h
  case h_10 r =>
    obtain ⟨token, rfl, hd⟩ := takes_readUnicode _ _ _ h
    exact ⟨'u' :: token, rfl, hd⟩
  case h_11 => cases h
  all_goals
    cases h
    exact ⟨[_], rfl, .letter (by simp)⟩

theorem takes_readCharacters (fuel : Nat) : Takes (readCharacters fuel) SpellsCharacters := by
  intro cs ds rest h
  induction fuel generalizing cs ds with
  | zero => cases h
  | succ fuel ih =>
    cases cs with
    | nil => cases h
    | cons c cs =>
      rw [readCharacters] at h
      by_cases hquote : c = '"'
      · rw [if_pos hquote] at h
        cases h
        exact ⟨['"'], by rw [hquote]; rfl, .close⟩
      rw [if_neg hquote] at h
      by_cases hbackslash : c = '\\'
      · rw [if_pos hbackslash] at h
        obtain ⟨⟨d, cs'⟩, hescape, h⟩ := bind_eq_ok.1 h
        obtain ⟨⟨ds', rest'⟩, hmore, h⟩ := bind_eq_ok.1 h
        cases h
        obtain ⟨escape, rfl, hd⟩ := takes_readEscape _ _ _ hescape
        obtain ⟨token, rfl, hds⟩ := ih _ _ hmore
        exact ⟨'\\' :: (escape ++ token), by simp [hbackslash], .escaped hd hds⟩
      rw [if_neg hbackslash] at h
      by_cases hcontrol : c.toNat < 32
      · rw [if_pos hcontrol] at h
        cases h
      · rw [if_neg hcontrol] at h
        obtain ⟨⟨ds', rest'⟩, hmore, h⟩ := bind_eq_ok.1 h
        cases h
        obtain ⟨token, rfl, hds⟩ := ih _ _ hmore
        exact ⟨c :: token, rfl, .plain hquote hbackslash hcontrol hds⟩

theorem takes_readString : Takes readString SpellsText := by
  intro cs s rest h
  rw [readString] at h
  obtain ⟨⟨ds, rest'⟩, hread, h⟩ := bind_eq_ok.1 h
  cases h
  obtain ⟨token, hcs, hds⟩ := takes_readCharacters _ _ _ _ hread
  exact ⟨token, hcs, by rwa [SpellsText, String.toList_ofList]⟩

def Blank (gap : List Char) : Prop := ∀ c ∈ gap, isSpace c = true

/-- What stands before an item: blanks before the first one, and a comma between blanks before any
other. -/
inductive Lead : Bool → List Char → Prop
  | start {gap : List Char} (h : Blank gap) : Lead true gap
  | comma {gap gap' : List Char} (h : Blank gap) (h' : Blank gap') :
      Lead false (gap ++ ',' :: gap')

theorem Blank.append {gap gap' : List Char} (h : Blank gap) (h' : Blank gap') :
    Blank (gap ++ gap') := by
  intro c hc
  exact (List.mem_append.1 hc).elim (h c) (h' c)

theorem Lead.append {first : Bool} {lead gap : List Char} (h : Lead first lead) (hgap : Blank gap) :
    Lead first (lead ++ gap) := by
  cases h with
  | start h => exact .start (h.append hgap)
  | comma h h' =>
    rw [List.append_assoc, List.cons_append]
    exact .comma h (h'.append hgap)

theorem exists_gap (cs : List Char) : ∃ gap, Blank gap ∧ cs = gap ++ skipSpace cs :=
  ⟨cs.takeWhile isSpace, fun _ hc => List.mem_takeWhile_imp hc,
    List.takeWhile_append_dropWhile.symm⟩

theorem lead_of_nextItem {first : Bool} {cs start left : List Char}
    (h : nextItem first cs = .ok (some start, left)) :
    ∃ lead, cs = lead ++ start ∧ Lead first lead := by
  obtain ⟨gap, hgap, hcs⟩ := exists_gap cs
  rw [nextItem] at h
  generalize skipSpace cs = cs' at h hcs
  subst hcs
  cases first with
  | true =>
    have hstart : cs' = start := by
      split at h <;> cases h <;> rfl
    exact ⟨gap, by rw [hstart], .start hgap⟩
  | false =>
    split at h
    · cases h
    · cases h
    · rename_i r
      obtain ⟨gap', hgap', hr⟩ := exists_gap r
      generalize skipSpace r = r' at h hr
      subst hr
      have hstart : r' = start := by
        simp only [Bool.false_eq_true, if_false] at h
        split at h
        · cases h
        · cases h
        · cases h
          rfl
      exact ⟨gap ++ ',' :: gap', by simp [hstart], .comma hgap hgap'⟩
    · cases h

theorem close_of_nextItem {first : Bool} {cs rest : List Char}
    (h : nextItem first cs = .ok (none, rest)) : ∃ gap, cs = gap ++ ']' :: rest ∧ Blank gap := by
  obtain ⟨gap, hgap, hcs⟩ := exists_gap cs
  rw [nextItem] at h
  generalize skipSpace cs = cs' at h hcs
  subst hcs
  split at h
  · cases h
  · cases h
    exact ⟨gap, rfl, hgap⟩
  · split at h
    · cases h
    · split at h <;> cases h
  · split at h <;> cases h

theorem lead_of_nextKey {first : Bool} {cs start left : List Char}
    (h : nextKey first cs = .ok (some start, left)) :
    ∃ lead, cs = lead ++ '"' :: start ∧ Lead first lead := by
  obtain ⟨gap, hgap, hcs⟩ := exists_gap cs
  rw [nextKey] at h
  generalize skipSpace cs = cs' at h hcs
  subst hcs
  cases first with
  | true =>
    split at h
    · cases h
    · cases h
    · cases h
      exact ⟨gap, rfl, .start hgap⟩
    · cases h
    · cases h
  | false =>
    split at h
    · cases h
    · cases h
    · cases h
    · rename_i r
      obtain ⟨gap', hgap', hr⟩ := exists_gap r
      generalize skipSpace r = r' at h hr
      subst hr
      simp only [Bool.false_eq_true, if_false] at h
      split at h
      · cases h
      · cases h
        exact ⟨gap ++ ',' :: gap', by simp, .comma hgap hgap'⟩
      · cases h
      · cases h
    · cases h

theorem close_of_nextKey {first : Bool} {cs rest : List Char}
    (h : nextKey first cs = .ok (none, rest)) : ∃ gap, cs = gap ++ '\x7d' :: rest ∧ Blank gap := by
  obtain ⟨gap, hgap, hcs⟩ := exists_gap cs
  rw [nextKey] at h
  generalize skipSpace cs = cs' at h hcs
  subst hcs
  split at h
  · cases h
  · cases h
    exact ⟨gap, rfl, hgap⟩
  · split at h <;> cases h
  · split at h
    · cases h
    · split at h <;> cases h
  · cases h

theorem gap_of_readColon {cs rest : List Char} (h : readColon cs = .ok rest) :
    ∃ gap, cs = gap ++ ':' :: rest ∧ Blank gap := by
  obtain ⟨gap, hgap, hcs⟩ := exists_gap cs
  rw [readColon] at h
  generalize skipSpace cs = cs' at h hcs
  subst hcs
  split at h
  · cases h
  · cases h
    exact ⟨gap, rfl, hgap⟩
  · cases h

mutual

inductive Spells : List Char → Json → Prop
  | nullWord : Spells ['n', 'u', 'l', 'l'] .null
  | trueWord : Spells ['t', 'r', 'u', 'e'] (.bool true)
  | falseWord : Spells ['f', 'a', 'l', 's', 'e'] (.bool false)
  | number {token : List Char} {j : Json} (h : SpellsNumber token j) : Spells token j
  | text {token : List Char} {s : String} (h : SpellsText token s) : Spells ('"' :: token) (.text s)
  | list {token : List Char} {js : List Json} (h : SpellsItems true token js) :
      Spells ('[' :: token) (.list js)
  | object {token : List Char} {ms : List (String × Json)} (h : SpellsMembers true token ms) :
      Spells ('\x7b' :: token) (.object ms)

/-- The items that are left of a list, of which the first one or a later one comes next. -/
inductive SpellsItems : Bool → List Char → List Json → Prop
  | close {first : Bool} {gap : List Char} (hgap : Blank gap) : SpellsItems first (gap ++ [']']) []
  | item {first : Bool} {lead token rest : List Char} {j : Json} {js : List Json}
      (hlead : Lead first lead) (h : Spells token j) (hrest : SpellsItems false rest js) :
      SpellsItems first (lead ++ (token ++ rest)) (j :: js)

inductive SpellsMembers : Bool → List Char → List (String × Json) → Prop
  | close {first : Bool} {gap : List Char} (hgap : Blank gap) :
      SpellsMembers first (gap ++ ['\x7d']) []
  | member {first : Bool} {lead key gap gap' token rest : List Char} {k : String} {j : Json}
      {ms : List (String × Json)} (hlead : Lead first lead) (hkey : SpellsText key k)
      (hgap : Blank gap) (hgap' : Blank gap') (h : Spells token j)
      (hrest : SpellsMembers false rest ms) :
      SpellsMembers first
        (lead ++ '"' :: (key ++ (gap ++ ':' :: (gap' ++ (token ++ rest))))) ((k, j) :: ms)

end

def SpellsAfterGap (cs : List Char) (j : Json) : Prop :=
  ∃ gap token, cs = gap ++ token ∧ Blank gap ∧ Spells token j

theorem takes_readWord (j : Json) (word : List Char) :
    Takes (readWord j word) fun token j' => token = word ∧ j' = j := by
  intro cs j' rest h
  induction word generalizing cs with
  | nil =>
    rw [readWord] at h
    cases h
    exact ⟨[], rfl, rfl, rfl⟩
  | cons w word ih =>
    cases cs with
    | nil => cases h
    | cons c cs =>
      rw [readWord] at h
      by_cases hc : c = w
      · rw [if_pos hc] at h
        obtain ⟨token, rfl, rfl, rfl⟩ := ih _ h
        exact ⟨w :: token, by rw [hc, List.cons_append], rfl, rfl⟩
      · rw [if_neg hc] at h
        cases h

/-- The three readers of nested values take what the grammar says, with so much fuel. -/
structure TakesNested (fuel : Nat) : Prop where
  value : ∀ depth, Takes (readValue fuel depth) SpellsAfterGap
  items : ∀ depth first, Takes (readItems fuel depth first) (SpellsItems first)
  members : ∀ depth first, Takes (readMembers fuel depth first) (SpellsMembers first)

section Step

variable {fuel : Nat} (ih : TakesNested fuel)

include ih

theorem takes_readValue_succ (depth : Nat) : Takes (readValue (fuel + 1) depth) SpellsAfterGap := by
  intro cs j rest h
  obtain ⟨gap, hgap, hcs⟩ := exists_gap cs
  suffices hvalue : ∃ token, skipSpace cs = token ++ rest ∧ Spells token j by
    obtain ⟨token, hskip, hj⟩ := hvalue
    refine ⟨gap ++ token, ?_, gap, token, rfl, hgap, hj⟩
    rw [List.append_assoc, ← hskip]
    exact hcs
  rw [readValue] at h
  -- The first character behind the blanks decides what is read.
  generalize skipSpace cs = start at h
  split at h
  · cases h
  · obtain ⟨_, rfl, rfl, rfl⟩ := takes_readWord _ _ _ _ _ h
    exact ⟨['n', 'u', 'l', 'l'], rfl, .nullWord⟩
  · obtain ⟨_, rfl, rfl, rfl⟩ := takes_readWord _ _ _ _ _ h
    exact ⟨['t', 'r', 'u', 'e'], rfl, .trueWord⟩
  · obtain ⟨_, rfl, rfl, rfl⟩ := takes_readWord _ _ _ _ _ h
    exact ⟨['f', 'a', 'l', 's', 'e'], rfl, .falseWord⟩
  · obtain ⟨token, rfl, hj⟩ := taken_of_readNumber h
    exact ⟨'-' :: token, rfl, .number hj⟩
  · obtain ⟨⟨s, rest'⟩, hread, h⟩ := map_eq_ok.1 h
    cases h
    obtain ⟨token, rfl, hs⟩ := takes_readString _ _ _ hread
    exact ⟨'"' :: token, rfl, .text hs⟩
  · split at h
    · cases h
    · obtain ⟨⟨js, rest'⟩, hread, h⟩ := map_eq_ok.1 h
      cases h
      obtain ⟨token, rfl, hjs⟩ := ih.items _ _ _ _ _ hread
      exact ⟨'[' :: token, rfl, .list hjs⟩
  · split at h
    · cases h
    · obtain ⟨⟨ms, rest'⟩, hread, h⟩ := map_eq_ok.1 h
      cases h
      obtain ⟨token, rfl, hms⟩ := ih.members _ _ _ _ _ hread
      exact ⟨'\x7b' :: token, rfl, .object hms⟩
  · split at h
    · obtain ⟨token, hstart, hj⟩ := taken_of_readNumber h
      exact ⟨token, hstart, .number hj⟩
    · cases h

theorem takes_readItems_succ (depth : Nat) (first : Bool) :
    Takes (readItems (fuel + 1) depth first) (SpellsItems first) := by
  intro cs js rest h
  rw [readItems] at h
  obtain ⟨⟨start?, left⟩, hnext, h⟩ := bind_eq_ok.1 h
  cases start? with
  | none =>
    cases h
    obtain ⟨gap, rfl, hgap⟩ := close_of_nextItem hnext
    exact ⟨gap ++ [']'], by simp, .close hgap⟩
  | some start =>
    obtain ⟨⟨j, rest'⟩, hitem, h⟩ := bind_eq_ok.1 h
    obtain ⟨⟨js', rest''⟩, hitems, h⟩ := bind_eq_ok.1 h
    cases h
    obtain ⟨lead, rfl, hlead⟩ := lead_of_nextItem hnext
    obtain ⟨_, rfl, gap, token, rfl, hgap, hj⟩ := ih.value _ _ _ _ hitem
    obtain ⟨token', rfl, hjs⟩ := ih.items _ _ _ _ _ hitems
    exact ⟨(lead ++ gap) ++ (token ++ token'), by simp, .item (hlead.append hgap) hj hjs⟩

theorem takes_readMembers_succ (depth : Nat) (first : Bool) :
    Takes (readMembers (fuel + 1) depth first) (SpellsMembers first) := by
  intro cs ms rest h
  rw [readMembers] at h
  obtain ⟨⟨start?, left⟩, hnext, h⟩ := bind_eq_ok.1 h
  cases start? with
  | none =>
    cases h
    obtain ⟨gap, rfl, hgap⟩ := close_of_nextKey hnext
    exact ⟨gap ++ ['\x7d'], by simp, .close hgap⟩
  | some start =>
    obtain ⟨⟨k, cs'⟩, hkey, h⟩ := bind_eq_ok.1 h
    obtain ⟨cs'', hcolon, h⟩ := bind_eq_ok.1 h
    obtain ⟨⟨j, rest'⟩, hmember, h⟩ := bind_eq_ok.1 h
    obtain ⟨⟨ms', rest''⟩, hmembers, h⟩ := bind_eq_ok.1 h
    cases h
    obtain ⟨lead, rfl, hlead⟩ := lead_of_nextKey hnext
    obtain ⟨key, rfl, hk⟩ := takes_readString _ _ _ hkey
    obtain ⟨gap, rfl, hgap⟩ := gap_of_readColon hcolon
    obtain ⟨_, rfl, gap', token, rfl, hgap', hj⟩ := ih.value _ _ _ _ hmember
    obtain ⟨token', rfl, hms⟩ := ih.members _ _ _ _ _ hmembers
    exact ⟨_, by simp, .member hlead hk hgap hgap' hj hms⟩

end Step

theorem takesNested (fuel : Nat) : TakesNested fuel := by
  -- Every reader calls the others with one unit of fuel less.
  induction fuel with
  | zero =>
    refine ⟨fun depth cs a rest h => ?_, fun depth first cs a rest h => ?_,
      fun depth first cs a rest h => ?_⟩
    all_goals cases h
  | succ fuel ih =>
    exact ⟨takes_readValue_succ ih, takes_readItems_succ ih, takes_readMembers_succ ih⟩

/-- A text that is accepted as a whole spells what is read, apart from the blanks around it. -/
theorem spells_of_parse {s : String} {j : Json} (h : parse s = .ok j) :
    ∃ gap token gap', s.toList = gap ++ (token ++ gap') ∧ Blank gap ∧ Blank gap' ∧
      Spells token j := by
  rw [parse, parseChars] at h
  obtain ⟨⟨j', rest⟩, hread, h⟩ := bind_eq_ok.1 h
  obtain ⟨_, hs, gap, token, rfl, hgap, hj⟩ := (takesNested _).value _ _ _ _ hread
  obtain ⟨gap', hgap', hrest⟩ := exists_gap rest
  dsimp only at h
  generalize skipSpace rest = left at h hrest
  cases left with
  | nil =>
    cases h
    rw [List.append_nil] at hrest
    exact ⟨gap, token, gap', by rw [hs, hrest, List.append_assoc], hgap, hgap', hj⟩
  | cons c left => cases h

end TableMapper.Json
