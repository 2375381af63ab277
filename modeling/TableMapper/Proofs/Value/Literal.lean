import TableMapper.Proofs.Decimal.Layout
import TableMapper.Proofs.Text.Quotes
import TableMapper.Value

/-!
# Values between quotes

A value other than NULL is written between two quotes. A text may bring quotes of its own, but the
numbers, dates and times that all other kinds are written as never do. In an insert numbers stand
without quotes, and they never bring a comma either.
-/

namespace TableMapper

namespace Decimal

theorem mem_intDigits {n : Int} {c : Char} (h : c ∈ intDigits n) : c.isDigit = true ∨ c = '-' := by
  rw [intDigits] at h
  split at h
  · rcases List.mem_cons.1 h with rfl | h
    · exact .inr rfl
    · exact .inl (isDigit_of_mem_digits h)
  · exact .inl (isDigit_of_mem_digits h)

theorem mem_render {l : Layout} {x : Float} {c : Char} (h : c ∈ l.render x) :
    IsNumeric c ∨ c ∈ ['N', 'a', 'i', 'n', 'f'] := by
  have hminus : IsNumeric '-' := .inr (by simp)
  rw [Layout.render] at h
  cases hb : Binary.ofFloat x with
  | nan =>
    simp only [hb] at h
    exact .inr (by grind)
  | infinite negative =>
    simp only [hb] at h
    rcases mem_signed h with rfl | h
    · exact .inl hminus
    · exact .inr (by grind)
  | finite negative m q =>
    simp only [hb] at h
    rcases mem_signed h with rfl | h
    · exact .inl hminus
    · exact .inl (Layout.isNumeric_magnitude c h)

/-- What numbers are written with besides digits. -/
def numberMarks : List Char := ['.', 'e', '+', '-', 'N', 'a', 'i', 'n', 'f']

theorem intDigits_marks {n : Int} {c : Char} (h : c ∈ intDigits n) :
    c.isDigit = true ∨ c ∈ numberMarks := by
  rcases mem_intDigits h with hdigit | rfl
  · exact .inl hdigit
  · exact .inr (by decide)

theorem render_marks {l : Layout} {x : Float} {c : Char} (h : c ∈ l.render x) :
    c.isDigit = true ∨ c ∈ numberMarks := by
  rcases mem_render h with (hdigit | hsign) | hword
  · exact .inl hdigit
  · exact .inr (by grind [numberMarks])
  · exact .inr (by grind [numberMarks])

end Decimal

namespace Calendar

open Decimal (isDigit_of_mem_padded)

theorem mem_yearText {year : Int} {c : Char} (h : c ∈ yearText year) :
    c.isDigit = true ∨ c ∈ ['-', '+'] := by
  rw [yearText] at h
  rcases List.mem_append.1 h with h | h
  · exact .inr (by grind)
  · exact .inl (isDigit_of_mem_padded h)

theorem Date.mem_text {d : Date} {c : Char} (h : c ∈ d.text) :
    c.isDigit = true ∨ c ∈ ['-', '+'] := by
  simp only [Date.text, List.mem_append, List.mem_cons] at h
  rcases h with (h | rfl | h) | rfl | h
  · exact mem_yearText h
  · exact .inr (by simp)
  · exact .inl (isDigit_of_mem_padded h)
  · exact .inr (by simp)
  · exact .inl (isDigit_of_mem_padded h)

theorem mem_fractionText {nanos : Nat} {c : Char} (h : c ∈ fractionText nanos) :
    c.isDigit = true ∨ c = '.' := by
  have hpoint : ∀ {width n : Nat}, c ∈ '.' :: Decimal.padded width n →
      c.isDigit = true ∨ c = '.' := by
    intro width n h
    rcases List.mem_cons.1 h with rfl | h
    · exact .inr rfl
    · exact .inl (isDigit_of_mem_padded h)
  rw [fractionText] at h
  split at h
  · simp at h
  · split at h
    · exact hpoint h
    · split at h
      · exact hpoint h
      · exact hpoint h

theorem Clock.mem_text {t : Clock} {c : Char} (h : c ∈ t.text) :
    c.isDigit = true ∨ c ∈ [':', '.'] := by
  simp only [Clock.text, List.mem_append, List.mem_cons] at h
  rcases h with ((h | rfl | h) | rfl | h) | h
  · exact .inl (isDigit_of_mem_padded h)
  · exact .inr (by simp)
  · exact .inl (isDigit_of_mem_padded h)
  · exact .inr (by simp)
  · exact .inl (isDigit_of_mem_padded h)
  · rcases mem_fractionText h with h | rfl
    · exact .inl h
    · exact .inr (by simp)

theorem Timestamp.mem_text {t : Timestamp} {separator c : Char} (h : c ∈ t.text separator) :
    c.isDigit = true ∨ c ∈ [separator, '-', '+', ':', '.'] := by
  simp only [Timestamp.text, List.mem_append, List.mem_cons] at h
  rcases h with h | rfl | h
  · rcases Date.mem_text h with h | h
    · exact .inl h
    · exact .inr (by grind)
  · exact .inr (by simp)
  · rcases Clock.mem_text h with h | h
    · exact .inl h
    · exact .inr (by grind)

theorem Instant.mem_text {i : Instant} {separator c : Char} (h : c ∈ i.text separator) :
    c.isDigit = true ∨ c ∈ [separator, '-', '+', ':', '.'] := by
  rw [Instant.text] at h
  rcases List.mem_append.1 h with h | h
  · exact Timestamp.mem_text h
  · simp only [List.mem_cons, List.not_mem_nil, or_false] at h
    rcases h with rfl | rfl | rfl | rfl | rfl | rfl
    · exact .inr (by simp)
    · exact .inl (by decide)
    · exact .inl (by decide)
    · exact .inr (by simp)
    · exact .inl (by decide)
    · exact .inl (by decide)

end Calendar

namespace Value

open Calendar (Date Timestamp Instant)

/-- A text must bring no quote; the other kinds of values never do. -/
def QuoteFree : Value → Prop
  | text s => Text.QuoteFree s
  | _ => True

/-- What stands between the quotes of a value: its plain text, or a digit for a truth value. NULL
stands outside of quotes. -/
def shown? : Value → Option String
  | null => none
  | bool b => some (if b then "1" else "0")
  | v => some v.display

theorem shown?_eq_none {v : Value} : v.shown? = none ↔ v.isNull = true := by
  cases v <;> simp [shown?, isNull]

theorem quoted_of_isNull {v : Value} (h : v.isNull = true) : v.quoted = "NULL" := by
  cases v with
  | null => rfl
  | _ => simp [isNull] at h

theorem quoted_of_shown? {v : Value} {s : String} (h : v.shown? = some s) :
    v.quoted = "'" ++ s ++ "'" := by
  cases v with
  | null => cases h
  | bool b =>
    cases b <;> cases h <;> rfl
  | _ => cases h; rfl

theorem not_mem_of_marks {cs : List Char} (marks : List Char) {c : Char} (hdigit : c.isDigit = false)
    (hmarks : c ∉ marks) (h : ∀ c ∈ cs, c.isDigit = true ∨ c ∈ marks) : c ∉ cs := by
  intro hc
  rcases h c hc with hdigit' | hmark
  · rw [hdigit] at hdigit'
    cases hdigit'
  · exact hmarks hmark

theorem quoteFree_of_marks {cs : List Char} (marks : List Char) (hmarks : '\'' ∉ marks)
    (h : ∀ c ∈ cs, c.isDigit = true ∨ c ∈ marks) : Text.QuoteFree (String.ofList cs) := by
  rw [Text.quoteFree_ofList]
  exact not_mem_of_marks marks (by decide) hmarks h

theorem quoteFree_of_shown? {v : Value} {s : String} (hv : v.QuoteFree) (h : v.shown? = some s) :
    Text.QuoteFree s := by
  cases v with
  | null => cases h
  | bool b => cases b <;> cases h <;> decide
  | int n =>
    cases h
    exact quoteFree_of_marks _ (by decide) fun c hc => Decimal.intDigits_marks hc
  | float x =>
    cases h
    exact quoteFree_of_marks _ (by decide) fun c hc => Decimal.render_marks hc
  | text s =>
    cases h
    exact hv
  | date d =>
    cases h
    exact quoteFree_of_marks _ (by decide) fun c hc => Date.mem_text hc
  | timestamp t =>
    cases h
    exact quoteFree_of_marks _ (by decide) fun c hc => Timestamp.mem_text hc
  | instant i =>
    cases h
    exact quoteFree_of_marks _ (by decide) fun c hc => Instant.mem_text hc

theorem whole_of_marks {cs : List Char}
    (h : ∀ c ∈ cs, c.isDigit = true ∨ c ∈ Decimal.numberMarks) : Text.Whole (String.ofList cs) := by
  apply Text.whole_of_free
  · exact quoteFree_of_marks _ (by decide) h
  · rw [String.toList_ofList]
    exact not_mem_of_marks _ (by decide) (by decide) h

theorem whole_quoted {v : Value} (hv : v.QuoteFree) {s : String} (h : v.shown? = some s) :
    Text.Whole v.quoted := by
  rw [quoted_of_shown? h]
  exact Text.whole_quoted (quoteFree_of_shown? hv h)

theorem whole_sqlLiteral {v : Value} (hv : v.QuoteFree) : Text.Whole v.sqlLiteral := by
  cases v with
  | null => exact Text.whole_of_free (by decide) (by decide)
  | bool b => cases b <;> exact Text.whole_of_free (by decide) (by decide)
  | int n => exact whole_of_marks fun c hc => Decimal.intDigits_marks hc
  | float x => exact whole_of_marks fun c hc => Decimal.render_marks hc
  | text s => exact whole_quoted hv rfl
  | date d => exact whole_quoted hv rfl
  | timestamp t => exact whole_quoted hv rfl
  | instant i => exact whole_quoted hv rfl

end Value

end TableMapper
