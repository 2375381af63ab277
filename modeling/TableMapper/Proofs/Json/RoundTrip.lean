import TableMapper.Proofs.Decimal.Layout
import TableMapper.Proofs.Json.Numbers
import TableMapper.Proofs.Json.Strings

/-!
# Reading back JSON values

A value is read back from its text if its whole numbers have 64 bits, its doubles are read back
from theirs, and it nests less deep than the reader goes. The reader's fuel is measured by the
length of the text: every call spends one unit, and every value and separator takes a character.
-/

namespace TableMapper.Json

open Decimal (digits)

/-- A finite double that is read back unchanged from the number it is written as. -/
def ReadsBack (x : Float) : Prop := isFinite x = true ∧ parse (render (.float x)) = .ok (.float x)

def float? : Json → Option Float
  | float x => some x
  | _ => none

theorem float?_eq_some {j : Json} {x : Float} : j.float? = some x ↔ j = .float x := by
  cases j <;> simp [float?]

instance (x : Float) : Decidable (ReadsBack x) :=
  decidable_of_iff
    (isFinite x = true ∧ (parse (render (.float x))).toOption.bind float? = some x) <| by
      rw [ReadsBack]
      cases parse (render (.float x)) <;> simp [Except.toOption, float?_eq_some]

mutual

/-- Every number in the value is read back from its own text. -/
def Exact : Json → Prop
  | int n => Int64.minValue.toInt ≤ n ∧ n < UInt64.size
  | float x => ReadsBack x
  | list js => ExactItems js
  | object ms => ExactMembers ms
  | _ => True

def ExactItems : List Json → Prop
  | [] => True
  | j :: js => Exact j ∧ ExactItems js

def ExactMembers : List (String × Json) → Prop
  | [] => True
  | (_, j) :: ms => Exact j ∧ ExactMembers ms

end

mutual

def height : Json → Nat
  | list js => heightItems js + 1
  | object ms => heightMembers ms + 1
  | _ => 0

def heightItems : List Json → Nat
  | [] => 0
  | j :: js => max (height j) (heightItems js)

def heightMembers : List (String × Json) → Nat
  | [] => 0
  | (_, j) :: ms => max (height j) (heightMembers ms)

end

def StartsValue (c : Char) : Prop :=
  c ∈ ['n', 't', 'f', '"', '[', '\x7b', '-'] ∨ c.isDigit = true

theorem StartsValue.ne {c : Char} (h : StartsValue c) :
    isSpace c = false ∧ c ≠ ']' ∧ c ≠ ',' := by
  rcases h with h | h
  · simp only [List.mem_cons, List.not_mem_nil, or_false] at h
    rcases h with rfl | rfl | rfl | rfl | rfl | rfl | rfl <;> decide
  · have hne : ∀ d, d.isDigit = false → c ≠ d := by
      rintro d hd rfl
      rw [h] at hd
      cases hd
    simp [isSpace, hne ' ' (by decide), hne '\n' (by decide), hne '\t' (by decide),
      hne '\r' (by decide), hne ']' (by decide), hne ',' (by decide)]

theorem printFloat_starts (x : Float) :
    ∃ c cs, printFloat x = c :: cs ∧ (c = 'n' ∨ c = '-' ∨ c.isDigit = true) := by
  rw [printFloat]
  by_cases hx : isFinite x = true
  · rw [if_pos hx]
    rw [isFinite] at hx
    rw [Decimal.Layout.render]
    cases hb : Decimal.Binary.ofFloat x with
    | nan => simp [hb] at hx
    | infinite negative => simp [hb] at hx
    | finite negative m q =>
      obtain ⟨c, cs, he, hc⟩ := Decimal.Layout.head_magnitude .json m q
      cases negative with
      | false => exact ⟨c, cs, by simp [Decimal.signed, he], .inr (.inr hc)⟩
      | true => exact ⟨'-', c :: cs, by simp [Decimal.signed, he], .inr (.inl rfl)⟩
  · rw [if_neg hx]
    exact ⟨'n', _, rfl, .inl rfl⟩

theorem print_starts (j : Json) : ∃ c cs, print j = c :: cs ∧ StartsValue c := by
  cases j with
  | null => exact ⟨'n', _, rfl, .inl (by simp)⟩
  | bool b => cases b <;> exact ⟨_, _, rfl, .inl (by simp)⟩
  | int n =>
    obtain ⟨c, cs, he, hc, -⟩ := Decimal.digits_cons n.natAbs
    by_cases hn : n < 0
    · exact ⟨'-', digits n.natAbs, by simp [print, Decimal.intDigits, hn], .inl (by simp)⟩
    · exact ⟨c, cs, by simp [print, Decimal.intDigits, hn, he], .inr hc⟩
  | float x =>
    obtain ⟨c, cs, he, hc⟩ := printFloat_starts x
    refine ⟨c, cs, by rw [print, he], ?_⟩
    rcases hc with rfl | rfl | hc
    · exact .inl (by simp)
    · exact .inl (by simp)
    · exact .inr hc
  | text s => exact ⟨'"', _, rfl, .inl (by simp)⟩
  | list js =>
    cases js with
    | nil => exact ⟨'[', _, rfl, .inl (by simp)⟩
    | cons j js => exact ⟨'[', _, by rw [print, List.cons_append], .inl (by simp)⟩
  | object ms =>
    cases ms with
    | nil => exact ⟨'\x7b', _, rfl, .inl (by simp)⟩
    | cons m ms =>
      obtain ⟨k, j⟩ := m
      exact ⟨'\x7b', _, by rw [print, List.cons_append, List.cons_append], .inl (by simp)⟩

theorem skipSpace_cons {c : Char} {cs : List Char} (h : isSpace c = false) :
    skipSpace (c :: cs) = c :: cs := by
  simp [skipSpace, h]

theorem nextItem_first {c : Char} {cs : List Char} (h : StartsValue c) :
    nextItem true (c :: cs) = .ok (some (c :: cs), []) := by
  obtain ⟨hs, hclose, hcomma⟩ := h.ne
  rw [nextItem, skipSpace_cons hs]
  split <;> simp_all

theorem nextItem_comma {c : Char} {cs : List Char} (h : StartsValue c) :
    nextItem false (',' :: c :: cs) = .ok (some (c :: cs), []) := by
  obtain ⟨hs, hclose, hcomma⟩ := h.ne
  have hskip : skipSpace (',' :: c :: cs) = ',' :: c :: cs := skipSpace_cons (by decide)
  simp only [nextItem, hskip, skipSpace_cons hs, Bool.false_eq_true, if_false]
  split <;> simp_all

theorem nextItem_first_print (j : Json) (cs : List Char) :
    nextItem true (print j ++ cs) = .ok (some (print j ++ cs), []) := by
  obtain ⟨c, cs', he, hc⟩ := print_starts j
  rw [he]
  exact nextItem_first hc

theorem nextItem_comma_print (j : Json) (cs : List Char) :
    nextItem false (',' :: (print j ++ cs)) = .ok (some (print j ++ cs), []) := by
  obtain ⟨c, cs', he, hc⟩ := print_starts j
  rw [he]
  exact nextItem_comma hc

theorem nextItem_close (first : Bool) (cs : List Char) :
    nextItem first (']' :: cs) = .ok (none, cs) := by
  have hskip : skipSpace (']' :: cs) = ']' :: cs := skipSpace_cons (by decide)
  simp only [nextItem, hskip]

theorem nextKey_first (cs : List Char) : nextKey true ('"' :: cs) = .ok (some cs, []) := by
  have hskip : skipSpace ('"' :: cs) = '"' :: cs := skipSpace_cons (by decide)
  simp only [nextKey, hskip, if_true]

theorem nextKey_comma (cs : List Char) : nextKey false (',' :: '"' :: cs) = .ok (some cs, []) := by
  have hskip : skipSpace (',' :: '"' :: cs) = ',' :: '"' :: cs := skipSpace_cons (by decide)
  have hquote : skipSpace ('"' :: cs) = '"' :: cs := skipSpace_cons (by decide)
  simp only [nextKey, hskip, hquote, Bool.false_eq_true, if_false]

theorem nextKey_close (first : Bool) (cs : List Char) :
    nextKey first ('\x7d' :: cs) = .ok (none, cs) := by
  have hskip : skipSpace ('\x7d' :: cs) = '\x7d' :: cs := skipSpace_cons (by decide)
  simp only [nextKey, hskip]

theorem readColon_colon (cs : List Char) : readColon (':' :: cs) = .ok cs := by
  have hskip : skipSpace (':' :: cs) = ':' :: cs := skipSpace_cons (by decide)
  simp only [readColon, hskip]

theorem readValue_digit {fuel depth : Nat} {c : Char} {cs : List Char} (hc : c.isDigit = true) :
    readValue (fuel + 1) depth (c :: cs) = readNumber false (c :: cs) := by
  have hskip : skipSpace (c :: cs) = c :: cs := skipSpace_cons (StartsValue.ne (.inr hc)).1
  have hne : ∀ d, d.isDigit = false → c ≠ d := by
    rintro d hd rfl
    rw [hc] at hd
    cases hd
  rw [readValue, hskip]
  split <;> simp_all

theorem readValue_minus (fuel depth : Nat) (cs : List Char) :
    readValue (fuel + 1) depth ('-' :: cs) = readNumber true cs := by
  have hskip : skipSpace ('-' :: cs) = '-' :: cs := skipSpace_cons (by decide)
  rw [readValue]
  simp only [hskip]

theorem readValue_signed (fuel depth : Nat) (negative : Bool) {ds : List Char}
    (hd : ∃ d r, ds = d :: r ∧ d.isDigit = true) (cs : List Char) :
    readValue (fuel + 1) depth (Decimal.signed negative ds ++ cs) =
      readNumber negative (ds ++ cs) := by
  obtain ⟨d, r, rfl, hd⟩ := hd
  cases negative with
  | false => exact readValue_digit hd
  | true => exact readValue_minus fuel depth (d :: r ++ cs)

theorem isSpace_of_isNumeric {c : Char} (h : Decimal.IsNumeric c) : isSpace c = false := by
  rcases h with h | h
  · exact (StartsValue.ne (.inr h)).1
  · simp only [List.mem_cons, List.not_mem_nil, or_false] at h
    rcases h with rfl | rfl | rfl | rfl <;> decide

theorem ReadsBack.readNumber {x : Float} (h : ReadsBack x) :
    ∃ negative ds, printFloat x = Decimal.signed negative ds ∧
      (∃ d r, ds = d :: r ∧ d.isDigit = true) ∧
      Json.readNumber negative ds = .ok (.float x, []) := by
  obtain ⟨hfinite, hparse⟩ := h
  have hprint : printFloat x = Decimal.Layout.json.render x := if_pos hfinite
  rw [isFinite] at hfinite
  rw [Decimal.Layout.render] at hprint
  cases hb : Decimal.Binary.ofFloat x with
  | nan => simp [hb] at hfinite
  | infinite negative => simp [hb] at hfinite
  | finite negative m q =>
    simp only [hb] at hprint
    obtain ⟨d, r, hds, hd⟩ := Decimal.Layout.head_magnitude .json m q
    refine ⟨negative, Decimal.Layout.json.magnitude m q, hprint, ⟨d, r, hds, hd⟩, ?_⟩
    rw [parse, render, String.toList_ofList, print, parseChars, bind_eq_ok] at hparse
    obtain ⟨⟨j, rest⟩, hread, hend⟩ := hparse
    have hsigned := readValue_signed (2 * (printFloat x).length + 1) depthLimit negative
      ⟨d, r, hds, hd⟩ []
    rw [List.append_nil, List.append_nil, ← hprint, hread] at hsigned
    obtain ⟨hsuffix, -⟩ := stable_readNumber _ _ _ _ hsigned.symm
    have hrest : skipSpace rest = rest := by
      cases rest with
      | nil => rfl
      | cons c cs =>
        have hc : c ∈ Decimal.Layout.json.magnitude m q := hsuffix.subset (by simp)
        exact skipSpace_cons (isSpace_of_isNumeric (Decimal.Layout.isNumeric_magnitude c hc))
    simp only [hrest] at hend
    cases rest with
    | nil =>
      cases hend
      exact hsigned.symm
    | cons c cs => cases hend

theorem readWord_append (j : Json) (word rest : List Char) :
    readWord j word (word ++ rest) = .ok (j, rest) := by
  induction word with
  | nil => rfl
  | cons c word ih => simp [readWord, ih]

theorem readValue_int {n : Int} (hlow : Int64.minValue.toInt ≤ n)
    (hhigh : n < UInt64.size) {rest : List Char}
    (hr : EndsNumber rest) (fuel depth : Nat) :
    readValue (fuel + 1) depth (Decimal.intDigits n ++ rest) = .ok (.int n, rest) := by
  obtain ⟨d, r, hds, hd, -⟩ := Decimal.digits_cons n.natAbs
  by_cases hn : n < 0
  · have hmin := Int64.toInt_minValue
    have hbound : n.natAbs ≤ Nat.pow 2 63 := show n.natAbs ≤ 9223372036854775808 by omega
    have hread := readNumber_negative (by omega) hbound
    have hneg : -(n.natAbs : Int) = n := by omega
    rw [hneg] at hread
    rw [Decimal.intDigits, if_pos hn, List.cons_append, readValue_minus,
      ((stable_readNumber true) _ _ _ hread).2 rest hr]
    rfl
  · have hread := readNumber_whole (n := n.natAbs) (by omega)
    have hpos : (n.natAbs : Int) = n := by omega
    rw [hpos] at hread
    have hstable := ((stable_readNumber false) _ _ _ hread).2 rest hr
    rw [hds, List.cons_append] at hstable
    rw [Decimal.intDigits, if_neg hn, hds, List.cons_append, readValue_digit hd, hstable]
    rfl

theorem readValue_float {x : Float} (hx : ReadsBack x) {rest : List Char} (hr : EndsNumber rest)
    (fuel depth : Nat) :
    readValue (fuel + 1) depth (printFloat x ++ rest) = .ok (.float x, rest) := by
  obtain ⟨negative, ds, hprint, hd, hread⟩ := hx.readNumber
  rw [hprint, readValue_signed fuel depth negative hd,
    ((stable_readNumber negative) _ _ _ hread).2 rest hr]
  rfl

theorem readValue_text (fuel depth : Nat) (s : String) (rest : List Char) :
    readValue (fuel + 1) depth (printText s ++ rest) = .ok (.text s, rest) := by
  have hprint : printText s ++ rest = '"' :: (s.toList.flatMap escape ++ '"' :: rest) := by
    simp [printText]
  have hskip : ∀ cs, skipSpace ('"' :: cs) = '"' :: cs := fun _ => skipSpace_cons (by decide)
  rw [hprint]
  rw [readValue]
  simp only [hskip, readString_printText, map_ok]

theorem endsNumber_printItems (js : List Json) (rest : List Char) :
    EndsNumber (printItems js ++ rest) := by
  cases js <;> simp [printItems]

theorem endsNumber_printMembers (ms : List (String × Json)) (rest : List Char) :
    EndsNumber (printMembers ms ++ rest) := by
  cases ms <;> simp [printMembers]

theorem readValue_list {fuel depth : Nat} {cs rest : List Char} {js : List Json}
    (hdepth : 1 < depth) (h : readItems fuel (depth - 1) true cs = .ok (js, rest)) :
    readValue (fuel + 1) depth ('[' :: cs) = .ok (.list js, rest) := by
  have hskip : skipSpace ('[' :: cs) = '[' :: cs := skipSpace_cons (by decide)
  have hnot : ¬depth ≤ 1 := by omega
  rw [readValue]
  simp only [hskip, if_neg hnot, h, map_ok]

theorem readValue_object {fuel depth : Nat} {cs rest : List Char} {ms : List (String × Json)}
    (hdepth : 1 < depth) (h : readMembers fuel (depth - 1) true cs = .ok (ms, rest)) :
    readValue (fuel + 1) depth ('\x7b' :: cs) = .ok (.object ms, rest) := by
  have hskip : skipSpace ('\x7b' :: cs) = '\x7b' :: cs := skipSpace_cons (by decide)
  have hnot : ¬depth ≤ 1 := by omega
  rw [readValue]
  simp only [hskip, if_neg hnot, h, map_ok]

theorem readItems_none {fuel depth : Nat} (first : Bool) (rest : List Char) :
    readItems (fuel + 1) depth first (']' :: rest) = .ok ([], rest) := by
  simp only [readItems, nextItem_close, ok_bind]

theorem readItems_some {fuel depth : Nat} {first : Bool} {cs start cs' rest : List Char} {j : Json}
    {js : List Json} (hstart : nextItem first cs = .ok (some start, []))
    (hitem : readValue fuel depth start = .ok (j, cs'))
    (hitems : readItems fuel depth false cs' = .ok (js, rest)) :
    readItems (fuel + 1) depth first cs = .ok (j :: js, rest) := by
  simp only [readItems, hstart, hitem, hitems, ok_bind]

theorem readMembers_none {fuel depth : Nat} (first : Bool) (rest : List Char) :
    readMembers (fuel + 1) depth first ('\x7d' :: rest) = .ok ([], rest) := by
  simp only [readMembers, nextKey_close, ok_bind]

theorem readMembers_some {fuel depth : Nat} {first : Bool} {cs cs' rest start : List Char}
    {k : String} {j : Json} {ms : List (String × Json)}
    (hstart : nextKey first cs =
      .ok (some (k.toList.flatMap escape ++ '"' :: ':' :: start), []))
    (hmember : readValue fuel depth start = .ok (j, cs'))
    (hmembers : readMembers fuel depth false cs' = .ok (ms, rest)) :
    readMembers (fuel + 1) depth first cs = .ok ((k, j) :: ms, rest) := by
  simp only [readMembers, hstart, readString_printText, readColon_colon, hmember, hmembers, ok_bind]

theorem length_print_pos (j : Json) : 0 < (print j).length := by
  obtain ⟨c, cs, he, -⟩ := print_starts j
  simp [he]

mutual

/-- A value is read back from its text, whatever stands after it that continues no number. -/
theorem readValue_print (j : Json) (fuel depth : Nat) (rest : List Char)
    (hfuel : 2 * (print j).length ≤ fuel) (hdepth : height j < depth) (hj : Exact j)
    (hr : EndsNumber rest) : readValue fuel depth (print j ++ rest) = .ok (j, rest) := by
  have hpos := length_print_pos j
  obtain ⟨fuel, rfl⟩ : ∃ f, fuel = f + 1 := ⟨fuel - 1, by omega⟩
  -- The value is smaller in each call, and its text leaves two units of fuel for every character.
  cases j with
  | null => exact readWord_append .null ['u', 'l', 'l'] rest
  | bool b =>
    cases b with
    | true => exact readWord_append (.bool true) ['r', 'u', 'e'] rest
    | false => exact readWord_append (.bool false) ['a', 'l', 's', 'e'] rest
  | int n => exact readValue_int hj.1 hj.2 hr fuel depth
  | float x => exact readValue_float hj hr fuel depth
  | text s => exact readValue_text fuel depth s rest
  | list js =>
    simp only [height] at hdepth
    cases js with
    | nil =>
      simp only [print, List.length_cons, List.length_nil] at hfuel
      obtain ⟨fuel, rfl⟩ : ∃ f, fuel = f + 1 := ⟨fuel - 1, by omega⟩
      exact readValue_list (by omega) (readItems_none true rest)
    | cons j js =>
      have hposj := length_print_pos j
      simp only [heightItems] at hdepth
      simp only [print, List.length_cons, List.length_append] at hfuel
      obtain ⟨fuel, rfl⟩ : ∃ f, fuel = f + 1 := ⟨fuel - 1, by omega⟩
      have hitem := readValue_print j fuel (depth - 1) (printItems js ++ rest) (by omega)
        (by omega) hj.1 (endsNumber_printItems js rest)
      have hitems := readItems_printItems js fuel (depth - 1) rest (by omega) (by omega) hj.2
      have hfirst := nextItem_first_print j (printItems js ++ rest)
      rw [print, List.cons_append, List.cons_append, List.append_assoc]
      exact readValue_list (by omega) (readItems_some hfirst hitem hitems)
  | object ms =>
    simp only [height] at hdepth
    cases ms with
    | nil =>
      simp only [print, List.length_cons, List.length_nil] at hfuel
      obtain ⟨fuel, rfl⟩ : ∃ f, fuel = f + 1 := ⟨fuel - 1, by omega⟩
      exact readValue_object (by omega) (readMembers_none true rest)
    | cons m ms =>
      obtain ⟨k, j⟩ := m
      have hposj := length_print_pos j
      simp only [heightMembers] at hdepth
      simp only [print, List.length_cons, List.length_append] at hfuel
      obtain ⟨fuel, rfl⟩ : ∃ f, fuel = f + 1 := ⟨fuel - 1, by omega⟩
      have hmember := readValue_print j fuel (depth - 1) (printMembers ms ++ rest) (by omega)
        (by omega) hj.1 (endsNumber_printMembers ms rest)
      have hmembers := readMembers_printMembers ms fuel (depth - 1) rest (by omega) (by omega) hj.2
      have hprint : print (.object ((k, j) :: ms)) ++ rest = '\x7b' :: '"' ::
          (k.toList.flatMap escape ++ '"' :: ':' :: (print j ++ (printMembers ms ++ rest))) := by
        simp [print, printText]
      rw [hprint]
      exact readValue_object (by omega) (readMembers_some (nextKey_first _) hmember hmembers)

theorem readItems_printItems (js : List Json) (fuel depth : Nat) (rest : List Char)
    (hfuel : 2 * (printItems js).length ≤ fuel) (hdepth : heightItems js < depth)
    (hjs : ExactItems js) : readItems fuel depth false (printItems js ++ rest) = .ok (js, rest) := by
  cases js with
  | nil =>
    simp only [printItems, List.length_cons, List.length_nil] at hfuel
    obtain ⟨fuel, rfl⟩ : ∃ f, fuel = f + 1 := ⟨fuel - 1, by omega⟩
    exact readItems_none false rest
  | cons j js =>
    have hposj := length_print_pos j
    simp only [heightItems] at hdepth
    simp only [printItems, List.length_cons, List.length_append] at hfuel
    obtain ⟨fuel, rfl⟩ : ∃ f, fuel = f + 1 := ⟨fuel - 1, by omega⟩
    have hitem := readValue_print j fuel depth (printItems js ++ rest) (by omega) (by omega)
      hjs.1 (endsNumber_printItems js rest)
    have hitems := readItems_printItems js fuel depth rest (by omega) (by omega) hjs.2
    have hnext := nextItem_comma_print j (printItems js ++ rest)
    rw [printItems, List.cons_append, List.cons_append, List.append_assoc]
    exact readItems_some hnext hitem hitems

theorem readMembers_printMembers (ms : List (String × Json)) (fuel depth : Nat) (rest : List Char)
    (hfuel : 2 * (printMembers ms).length ≤ fuel) (hdepth : heightMembers ms < depth)
    (hms : ExactMembers ms) :
    readMembers fuel depth false (printMembers ms ++ rest) = .ok (ms, rest) := by
  cases ms with
  | nil =>
    simp only [printMembers, List.length_cons, List.length_nil] at hfuel
    obtain ⟨fuel, rfl⟩ : ∃ f, fuel = f + 1 := ⟨fuel - 1, by omega⟩
    exact readMembers_none false rest
  | cons m ms =>
    obtain ⟨k, j⟩ := m
    have hposj := length_print_pos j
    simp only [heightMembers] at hdepth
    simp only [printMembers, List.length_cons, List.length_append] at hfuel
    obtain ⟨fuel, rfl⟩ : ∃ f, fuel = f + 1 := ⟨fuel - 1, by omega⟩
    have hmember := readValue_print j fuel depth (printMembers ms ++ rest) (by omega) (by omega)
      hms.1 (endsNumber_printMembers ms rest)
    have hmembers := readMembers_printMembers ms fuel depth rest (by omega) (by omega) hms.2
    have hprint : printMembers ((k, j) :: ms) ++ rest = ',' :: '"' ::
        (k.toList.flatMap escape ++ '"' :: ':' :: (print j ++ (printMembers ms ++ rest))) := by
      simp [printMembers, printText]
    rw [hprint]
    exact readMembers_some (nextKey_comma _) hmember hmembers

end

/-- A text that was written is read back, if its numbers are and it does not nest too deep. -/
theorem parse_render {j : Json} (hdepth : height j < depthLimit) (hj : Exact j) :
    parse (render j) = .ok j := by
  have hread := readValue_print j (2 * (print j).length + 2) depthLimit [] (by omega) hdepth hj
    endsNumber_nil
  rw [List.append_nil] at hread
  simp only [parse, render, String.toList_ofList, parseChars, hread, ok_bind]
  rfl

end TableMapper.Json
