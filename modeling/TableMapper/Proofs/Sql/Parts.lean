import Mathlib.Data.List.Forall2
import TableMapper.Proofs.Value.Literal

/-!
# Statements as lists of parts

A statement is put together from words of its own and from values. As long as none of them brings a
quote, the quotes of its text are those around the values: they cut it into what is shown of the
values and what stands between, and the latter does not depend on what the values are.
-/

namespace TableMapper

inductive Part
  | words (s : String)
  | value (v : Value)

namespace Part

def text : Part → String
  | words s => s
  | value v => v.quoted

def texts (ps : List Part) : String := String.join (ps.map text)

def QuoteFree : Part → Prop
  | words s => Text.QuoteFree s
  | value v => v.QuoteFree

def shown? : Part → Option String
  | words _ => none
  | value v => v.shown?

/-- The same words, or values that are both NULL or both not. -/
inductive SameShape : Part → Part → Prop
  | words (s : String) : SameShape (words s) (words s)
  | value {v w : Value} : v.isNull = w.isNull → SameShape (value v) (value w)

theorem texts_append (ps qs : List Part) : texts (ps ++ qs) = texts ps ++ texts qs := by
  rw [texts, List.map_append, String.join_append]
  rfl

theorem texts_cons (p : Part) (ps : List Part) : texts (p :: ps) = p.text ++ texts ps := by
  rw [texts, List.map_cons, String.join_cons]
  rfl

/-- What comes between the quotes: a value that is shown opens and closes a quote, and all other
parts only add to the piece outside. -/
def pieces : List Part → List (List Char)
  | [] => [[]]
  | p :: ps =>
    match p.shown? with
    | some s => [] :: s.toList :: pieces ps
    | none => (pieces ps).modifyHead (p.text.toList ++ ·)

theorem pieces_of_shown {p : Part} {s : String} (h : p.shown? = some s) (ps : List Part) :
    pieces (p :: ps) = [] :: s.toList :: pieces ps := by
  rw [pieces, h]

theorem pieces_of_not_shown {p : Part} (h : p.shown? = none) (ps : List Part) :
    pieces (p :: ps) = (pieces ps).modifyHead (p.text.toList ++ ·) := by
  rw [pieces, h]

theorem pieces_ne_nil (ps : List Part) : pieces ps ≠ [] := by
  induction ps with
  | nil => exact List.cons_ne_nil _ _
  | cons p ps ih =>
    cases h : p.shown? with
    | some s =>
      rw [pieces_of_shown h]
      exact List.cons_ne_nil _ _
    | none =>
      rw [pieces_of_not_shown h]
      simpa using ih

theorem text_of_shown {p : Part} {s : String} (h : p.shown? = some s) :
    p.text.toList = '\'' :: (s.toList ++ ['\'']) := by
  cases p with
  | words t => cases h
  | value v =>
    rw [text, Value.quoted_of_shown? h]
    simp

theorem intercalate_pieces (ps : List Part) :
    ['\''].intercalate (pieces ps) = (texts ps).toList := by
  induction ps with
  | nil => rfl
  | cons p ps ih =>
    rw [texts_cons, String.toList_append, ← ih]
    cases h : p.shown? with
    | some s =>
      obtain ⟨q, qs, hq⟩ := List.exists_cons_of_ne_nil (pieces_ne_nil ps)
      rw [pieces_of_shown h, text_of_shown h, hq, List.intercalate_cons_cons,
        List.intercalate_cons_cons]
      simp
    | none =>
      rw [pieces_of_not_shown h]
      exact Text.intercalate_modifyHead _ _ (pieces_ne_nil ps)

theorem quoteFree_text {p : Part} (hp : p.QuoteFree) (h : p.shown? = none) :
    Text.QuoteFree p.text := by
  cases p with
  | words s => exact hp
  | value v =>
    rw [text, Value.quoted_of_isNull (Value.shown?_eq_none.1 h)]
    decide

theorem quoteFree_shown {p : Part} {s : String} (hp : p.QuoteFree) (h : p.shown? = some s) :
    Text.QuoteFree s := by
  cases p with
  | words t => cases h
  | value v => exact Value.quoteFree_of_shown? hp h

theorem quoteFree_pieces {ps : List Part} (h : ∀ p ∈ ps, p.QuoteFree) :
    ∀ cs ∈ pieces ps, '\'' ∉ cs := by
  induction ps with
  | nil => simp [pieces]
  | cons p ps ih =>
    have hp := h p List.mem_cons_self
    have hps := ih fun q hq => h q (List.mem_cons_of_mem p hq)
    intro cs hcs
    cases hs : p.shown? with
    | some s =>
      rw [pieces_of_shown hs, List.mem_cons, List.mem_cons] at hcs
      rcases hcs with rfl | rfl | hcs
      · exact List.not_mem_nil
      · exact quoteFree_shown hp hs
      · exact hps cs hcs
    | none =>
      obtain ⟨q, qs, hq⟩ := List.exists_cons_of_ne_nil (pieces_ne_nil ps)
      rw [hq] at hps
      rw [pieces_of_not_shown hs, hq, List.modifyHead_cons, List.mem_cons] at hcs
      rcases hcs with rfl | hcs
      · rw [List.mem_append, not_or]
        exact ⟨quoteFree_text hp hs, hps q List.mem_cons_self⟩
      · exact hps cs (List.mem_cons_of_mem q hcs)

/-- Quotes cut the text of the parts where its values begin and end, and nowhere else. -/
theorem splitOn_texts {ps : List Part} (h : ∀ p ∈ ps, p.QuoteFree) :
    (texts ps).toList.splitOn '\'' = pieces ps := by
  rw [← intercalate_pieces]
  exact List.splitOn_intercalate '\'' (quoteFree_pieces h) (pieces_ne_nil ps)

theorem inside_texts {ps : List Part} (h : ∀ p ∈ ps, p.QuoteFree) :
    Text.inside (texts ps) = ps.filterMap shown? := by
  rw [Text.inside, splitOn_texts h]
  clear h
  induction ps with
  | nil => rfl
  | cons p ps ih =>
    cases hs : p.shown? with
    | some s =>
      obtain ⟨q, qs, hq⟩ := List.exists_cons_of_ne_nil (pieces_ne_nil ps)
      rw [hq] at ih
      rw [pieces_of_shown hs, List.filterMap_cons_some hs, ← ih, hq, List.tail_cons,
        Text.alternate, List.map_cons, String.ofList_toList, List.tail_cons]
    | none =>
      rw [pieces_of_not_shown hs, List.filterMap_cons_none hs, List.tail_modifyHead, ih]

theorem shown?_eq_none_of_sameShape {p q : Part} (h : SameShape p q) :
    p.shown? = none ↔ q.shown? = none := by
  cases h with
  | words s => exact Iff.rfl
  | value hnull =>
    rw [shown?, shown?, Value.shown?_eq_none, Value.shown?_eq_none, hnull]

theorem text_eq_of_sameShape {p q : Part} (h : SameShape p q) (hp : p.shown? = none) :
    p.text = q.text := by
  have hq := (shown?_eq_none_of_sameShape h).1 hp
  cases h with
  | words s => rfl
  | value hnull =>
    rw [text, text, Value.quoted_of_isNull (Value.shown?_eq_none.1 hp),
      Value.quoted_of_isNull (Value.shown?_eq_none.1 hq)]

theorem outside_pieces {ps qs : List Part} (h : List.Forall₂ SameShape ps qs) :
    Text.alternate (pieces ps) = Text.alternate (pieces qs) := by
  induction h with
  | nil => rfl
  | @cons p q ps qs hpq _ ih =>
    cases hp : p.shown? with
    | some s =>
      cases hq : q.shown? with
      | some t =>
        rw [pieces_of_shown hp, pieces_of_shown hq, Text.alternate, Text.alternate, ih]
      | none =>
        rw [(shown?_eq_none_of_sameShape hpq).2 hq] at hp
        cases hp
    | none =>
      have hq := (shown?_eq_none_of_sameShape hpq).1 hp
      rw [pieces_of_not_shown hp, pieces_of_not_shown hq, Text.alternate_modifyHead,
        Text.alternate_modifyHead, ih, text_eq_of_sameShape hpq hp]

theorem outside_texts {ps qs : List Part} (hps : ∀ p ∈ ps, p.QuoteFree)
    (hqs : ∀ q ∈ qs, q.QuoteFree) (h : List.Forall₂ SameShape ps qs) :
    Text.outside (texts ps) = Text.outside (texts qs) := by
  rw [Text.outside, Text.outside, splitOn_texts hps, splitOn_texts hqs, outside_pieces h]

def entries (separator : String) : List (String × Value) → List Part
  | [] => []
  | [e] => [words e.1, value e.2]
  | e :: e' :: es => words e.1 :: value e.2 :: words separator :: entries separator (e' :: es)

theorem texts_entries (separator : String) (es : List (String × Value)) :
    texts (entries separator es) = separator.intercalate (es.map fun e => e.1 ++ e.2.quoted) := by
  fun_induction entries separator es with
  | case1 => rfl
  | case2 e => simp [texts, text]
  | case3 e e' es ih =>
    rw [texts_cons, texts_cons, texts_cons, ih]
    simp only [text, List.map_cons, String.intercalate_cons_cons, String.append_assoc]

theorem quoteFree_entries {separator : String} {es : List (String × Value)}
    (hs : Text.QuoteFree separator) (h : ∀ e ∈ es, Text.QuoteFree e.1 ∧ e.2.QuoteFree) :
    ∀ p ∈ entries separator es, p.QuoteFree := by
  intro p hp
  fun_induction entries separator es with
  | case1 => cases hp
  | case2 e =>
    obtain ⟨hwords, hvalue⟩ := h e List.mem_cons_self
    simp only [List.mem_cons, List.not_mem_nil, or_false] at hp
    rcases hp with rfl | rfl
    · exact hwords
    · exact hvalue
  | case3 e e' es ih =>
    obtain ⟨hwords, hvalue⟩ := h e List.mem_cons_self
    simp only [List.mem_cons] at hp
    rcases hp with rfl | rfl | rfl | hp
    · exact hwords
    · exact hvalue
    · exact hs
    · exact ih (fun e'' he => h e'' (List.mem_cons_of_mem e he)) hp

theorem filterMap_entries (separator : String) (es : List (String × Value)) :
    (entries separator es).filterMap shown? = es.filterMap (·.2.shown?) := by
  have hwords : ∀ s, (words s).shown? = none := fun _ => rfl
  have hvalue : ∀ v, (value v).shown? = v.shown? := fun _ => rfl
  fun_induction entries separator es with
  | case1 => rfl
  | case2 e => simp only [List.filterMap_cons, List.filterMap_nil, hwords, hvalue]
  | case3 e e' es ih => simp only [List.filterMap_cons, hwords, hvalue, ih]

theorem sameShape_entries (separator : String) {es es' : List (String × Value)}
    (h : List.Forall₂ (fun e e' => e.1 = e'.1 ∧ e.2.isNull = e'.2.isNull) es es') :
    List.Forall₂ SameShape (entries separator es) (entries separator es') := by
  induction h with
  | nil => exact .nil
  | @cons e e' es es' he hes ih =>
    obtain ⟨lead, v⟩ := e
    obtain ⟨lead', v'⟩ := e'
    obtain ⟨rfl, hnull⟩ := he
    cases hes with
    | nil => exact .cons (.words _) (.cons (.value hnull) .nil)
    | cons he' hes => exact .cons (.words _) (.cons (.value hnull) (.cons (.words separator) ih))

end Part

end TableMapper
