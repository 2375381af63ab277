import Mathlib.Data.List.TakeWhile
import TableMapper.Logging
import TableMapper.Proofs.Text.Basic
import TableMapper.Proofs.Text.Bytes

/-!
# Statements in the log

The kind of a statement is told by its first word, the letters behind the blanks and opening brackets
at its start. They end before the first character that is no letter of ASCII, so a longer word or one
with other letters tells nothing.

A statement is logged in full as long as it fits into the limit of the logger. Of a longer one the
longest front that fits is logged, with dots behind it, and no character of it is split.
-/

namespace TableMapper.StatementKind

variable {s t lead word rest : String}

/-- A character that may stand before the first word. -/
def IsLead (c : Char) : Prop := Text.isBlank c = true ∨ c = '('

/-- The text is taken apart before and behind its first word, neither of which could be longer. -/
structure Splits (s lead word rest : String) : Prop where
  text : s = lead ++ word ++ rest
  leading : ∀ c ∈ lead.toList, IsLead c
  letters : ∀ c ∈ word.toList, c.isAlpha = true
  first : ∀ c ∈ (word ++ rest).toList.head?, ¬IsLead c
  last : ∀ c ∈ rest.toList.head?, c.isAlpha = false

def FirstWord (s word : String) : Prop := ∃ lead rest, Splits s lead word rest

def isLead (c : Char) : Bool := Text.isBlank c || c == '('

def firstLetters (cs : List Char) : List Char := (cs.dropWhile isLead).takeWhile Char.isAlpha

theorem keyword_eq (cs : List Char) : keyword cs = (firstLetters cs).map Char.toUpper := rfl

theorem isLead_iff {c : Char} : isLead c = true ↔ IsLead c := by
  simp [isLead, IsLead]

theorem not_isLead_of_isAlpha {c : Char} (h : c.isAlpha = true) : ¬IsLead c := by
  have hcode := (Text.isAlpha_iff c).1 h
  rintro (hblank | rfl)
  · rw [Text.isBlank, Text.within_iff] at hblank
    simp only [Text.blankRanges, List.mem_cons, List.not_mem_nil, or_false, exists_eq_or_imp,
      exists_eq_left] at hblank
    omega
  · cases h

theorem head_dropWhile {p : Char → Bool} {cs : List Char} :
    ∀ c ∈ (cs.dropWhile p).head?, p c = false := by
  intro c hc
  have h := List.head?_dropWhile_not p cs
  rw [hc] at h
  exact h

theorem Splits.firstLetters_eq (h : Splits s lead word rest) :
    firstLetters s.toList = word.toList := by
  have hleading : ∀ c ∈ lead.toList, isLead c = true := fun c hc => isLead_iff.2 (h.leading c hc)
  have hhead : ∀ {cs : List Char} (hpos : 0 < cs.length), cs[0] ∈ cs.head? := by
    intro cs hpos
    rw [List.head?_eq_getElem?, List.getElem?_eq_getElem hpos]
    rfl
  have hfirst : (word ++ rest).toList.dropWhile isLead = (word ++ rest).toList :=
    List.dropWhile_eq_self_iff.2 fun hpos => mt isLead_iff.1 (h.first _ (hhead hpos))
  have hlast : rest.toList.takeWhile Char.isAlpha = [] :=
    List.takeWhile_eq_nil_iff.2 fun hpos => Bool.eq_false_iff.1 (h.last _ (hhead hpos))
  rw [firstLetters, h.text, String.append_assoc, String.toList_append,
    List.dropWhile_append_of_pos hleading, hfirst, String.toList_append,
    List.takeWhile_append_of_pos h.letters, hlast, List.append_nil]

theorem splits_firstLetters (s : String) :
    Splits s (.ofList (s.toList.takeWhile isLead)) (.ofList (firstLetters s.toList))
      (.ofList ((s.toList.dropWhile isLead).dropWhile Char.isAlpha)) := by
  have hrest : firstLetters s.toList ++ (s.toList.dropWhile isLead).dropWhile Char.isAlpha =
      s.toList.dropWhile isLead := List.takeWhile_append_dropWhile
  refine ⟨?_, ?_, ?_, ?_, ?_⟩
  · apply String.toList_inj.1
    simp only [String.toList_append, String.toList_ofList]
    rw [List.append_assoc, hrest, List.takeWhile_append_dropWhile]
  · intro c hc
    rw [String.toList_ofList] at hc
    exact isLead_iff.1 (List.all_eq_true.1 List.all_takeWhile c hc)
  · intro c hc
    rw [String.toList_ofList] at hc
    exact List.all_eq_true.1 List.all_takeWhile c hc
  · intro c hc
    rw [String.toList_append, String.toList_ofList, String.toList_ofList, hrest] at hc
    exact mt isLead_iff.2 (Bool.eq_false_iff.1 (head_dropWhile c hc))
  · intro c hc
    rw [String.toList_ofList] at hc
    exact head_dropWhile c hc

/-- Every text has one first word, which may be empty. -/
theorem firstWord_iff : FirstWord s word ↔ word = .ofList (firstLetters s.toList) := by
  constructor
  · rintro ⟨lead, rest, h⟩
    rw [h.firstLetters_eq, String.ofList_toList]
  · rintro rfl
    exact ⟨_, _, splits_firstLetters s⟩

instance (s word : String) : Decidable (FirstWord s word) :=
  decidable_of_iff _ firstWord_iff.symm

theorem firstWord_append (hne : word ≠ "") (hletters : ∀ c ∈ word.toList, c.isAlpha = true)
    (rest : String) : FirstWord (word ++ " " ++ rest) word := by
  refine ⟨"", " " ++ rest, ?_, ?_, hletters, ?_, ?_⟩
  · rw [String.empty_append, String.append_assoc]
  · intro c hc
    cases hc
  · intro c hc
    obtain ⟨d, ds, hword⟩ := List.exists_cons_of_ne_nil (mt String.toList_eq_nil_iff.1 hne)
    rw [String.toList_append, hword] at hc
    cases hc
    exact not_isLead_of_isAlpha (hletters c (hword ▸ List.mem_cons_self))
  · intro c hc
    have hspace : " ".toList = [' '] := by decide
    rw [String.toList_append, hspace] at hc
    cases hc
    decide

theorem firstLetters_append {lead cs : List Char} (h : ∀ c ∈ lead, IsLead c) :
    firstLetters (lead ++ cs) = firstLetters cs := by
  rw [firstLetters, List.dropWhile_append_of_pos fun c hc => isLead_iff.2 (h c hc), firstLetters]

theorem isLead_toUpper (c : Char) : isLead c.toUpper = isLead c := by
  have hbracket : '('.isAlpha = false := by decide
  rw [Bool.eq_iff_iff, isLead_iff, isLead_iff, IsLead, IsLead, Text.isBlank_toUpper,
    Text.toUpper_eq_iff hbracket]

theorem keyword_map_toUpper (cs : List Char) : keyword (cs.map Char.toUpper) = keyword cs := by
  have hlead : isLead ∘ Char.toUpper = isLead := funext isLead_toUpper
  have hletter : Char.isAlpha ∘ Char.toUpper = Char.isAlpha := funext Text.isAlpha_toUpper
  have hupper : Char.toUpper ∘ Char.toUpper = Char.toUpper := funext Text.toUpper_toUpper
  rw [keyword_eq, keyword_eq, firstLetters, List.dropWhile_map, hlead, List.takeWhile_map, hletter,
    List.map_map, hupper, firstLetters]

theorem ofSql_congr (h : keyword s.toList = keyword t.toList) : ofSql s = ofSql t := by
  rw [ofSql, ofSql, h]

theorem ofSql_append (h : ∀ c ∈ lead.toList, IsLead c) : ofSql (lead ++ s) = ofSql s := by
  apply ofSql_congr
  rw [keyword_eq, keyword_eq, String.toList_append, firstLetters_append h]

theorem ofSql_of_recased (h : Text.Recased s t) : ofSql t = ofSql s := by
  apply ofSql_congr
  rw [← keyword_map_toUpper t.toList, Text.map_toUpper_of_recased h, keyword_map_toUpper]

def words : StatementKind → List String
  | select => ["SELECT", "WITH"]
  | insert => ["INSERT"]
  | update => ["UPDATE"]
  | delete => ["DELETE"]
  | other => []

theorem ofSql_of_firstWord (h : FirstWord s word) :
    ofSql s = if word.toUpper = "SELECT" ∨ word.toUpper = "WITH" then select
      else if word.toUpper = "INSERT" then insert
      else if word.toUpper = "UPDATE" then update
      else if word.toUpper = "DELETE" then delete
      else other := by
  have hupper : String.ofList (keyword s.toList) = word.toUpper := by
    apply String.toList_inj.1
    rw [String.toList_ofList, keyword_eq, firstWord_iff.1 h, String.toUpper, String.toList_map,
      String.toList_ofList]
  rw [ofSql, hupper]

theorem ofSql_eq_iff (h : FirstWord s word) {k : StatementKind} (hk : k ≠ other) :
    ofSql s = k ↔ word.toUpper ∈ k.words := by
  rw [ofSql_of_firstWord h]
  generalize word.toUpper = w
  constructor
  · rintro rfl
    grind [words]
  · intro hw
    cases k with
    | other => exact absurd rfl hk
    | _ => grind [words]

theorem ofSql_ne_other_iff (h : FirstWord s word) :
    ofSql s ≠ other ↔ word.toUpper ∈ ["SELECT", "WITH", "INSERT", "UPDATE", "DELETE"] := by
  rw [ofSql_of_firstWord h]
  generalize word.toUpper = w
  grind

end TableMapper.StatementKind

namespace TableMapper.StatementLogger

variable {l : StatementLogger} {limit : Nat} (h : l.maxLength = some limit)

include h

theorem shown_of_le {sql : String} (hle : sql.utf8ByteSize ≤ limit) : l.shown sql = sql := by
  rw [← Text.byteLength_toList] at hle
  rw [shown, h]
  exact if_pos hle

theorem shown_of_lt {sql : String} (hlt : limit < sql.utf8ByteSize) :
    l.shown sql = String.ofList (Text.cut limit sql.toList) ++ "..." := by
  rw [← Text.byteLength_toList] at hlt
  rw [shown, h]
  exact if_neg (Nat.not_le_of_lt hlt)

/-- A statement that fits is shown unchanged. Of any other the longest front is shown that fits, which
falls short of the limit by three bytes at most and is empty only if the first character is too long;
in bytes it ends where going back from the limit first meets the beginning of a character. -/
theorem shown_longest_front (sql : String) :
    (sql.utf8ByteSize ≤ limit → l.shown sql = sql) ∧
    (limit < sql.utf8ByteSize → ∃ p, l.shown sql = p ++ "..." ∧ Text.IsLongestFront limit sql p ∧
      limit ≤ p.utf8ByteSize + 3 ∧ (p = "" ↔ ∀ c ∈ sql.toList.head?, limit < c.utf8Size) ∧
      p.toByteArray = sql.toByteArray.extract 0 (Text.backOff sql limit)) := by
  refine ⟨shown_of_le h, fun hlt => ?_⟩
  have hlongest := Text.isLongestFront_cut limit sql
  refine ⟨_, shown_of_lt h hlt, hlongest, ?_, ?_, hlongest.bytes_eq⟩
  · rw [← Text.byteLength_toList] at hlt
    have hnear := Text.limit_lt_byteLength_cut hlt
    rw [Text.byteLength_ofList]
    omega
  · rw [← String.toList_eq_nil_iff, String.toList_ofList]
    exact Text.cut_eq_nil_iff

omit h in
/-- The limit falls into the second character, which has three bytes. -/
theorem shown_longest_front_price :
    (⟨.info, some 3⟩ : StatementLogger).maxLength = some 3 ∧ 3 < "'€'".utf8ByteSize ∧
      (⟨.info, some 3⟩ : StatementLogger).shown "'€'" = "'..." ∧ Text.backOff "'€'" 3 = 1 ∧
      ∃ p, (⟨.info, some 3⟩ : StatementLogger).shown "'€'" = p ++ "..." ∧
        Text.IsLongestFront 3 "'€'" p := by
  have hlimit : (⟨.info, some 3⟩ : StatementLogger).maxLength = some 3 := rfl
  have hlong : 3 < "'€'".utf8ByteSize := by decide
  obtain ⟨p, hshown, hlongest, -⟩ := (shown_longest_front hlimit "'€'").2 hlong
  exact ⟨hlimit, hlong, by decide, by decide, p, hshown, hlongest⟩

end TableMapper.StatementLogger
