import TableMapper.Proofs.Decimal.Notation
import TableMapper.Proofs.Sql.Insert

/-!
# Well-formed literals

A literal of an insert is a word for NULL or a truth value, a number without an exponent, or a text in
quotes. The values of an insert are written as such literals, except for a double that is not finite:
it becomes a bare word, which is no literal.
-/

namespace TableMapper

namespace Text

/-- The item holds a character outside of its quotes that no number has. -/
def isBareWord (item : String) : Bool :=
  (outside item).any fun piece => piece.toList.any fun c => !Decimal.isPlainChar c

/-- The items of a list that are neither numbers nor texts in quotes. -/
def bareWords (s : String) : List String := (items s).filter isBareWord

theorem outside_intercalate {pieces : List (List Char)} (hne : pieces ≠ [])
    (hfree : ∀ piece ∈ pieces, '\'' ∉ piece) :
    outside (String.ofList (List.intercalate ['\''] pieces)) =
      (alternate pieces).map String.ofList := by
  rw [outside, String.toList_ofList, List.splitOn_intercalate '\'' hfree hne]

theorem outside_of_quoteFree {s : String} (h : QuoteFree s) : outside s = [s] := by
  have hpieces : ∀ piece ∈ [s.toList], '\'' ∉ piece := by simpa [QuoteFree] using h
  have houtside := outside_intercalate (List.cons_ne_nil _ _) hpieces
  simpa [alternate] using houtside

theorem outside_quoted {s : String} (h : QuoteFree s) : outside ("'" ++ s ++ "'") = ["", ""] := by
  have hpieces : ∀ piece ∈ [[], s.toList, []], '\'' ∉ piece := by simpa [QuoteFree] using h
  have hjoined : "'" ++ s ++ "'" = String.ofList (List.intercalate ['\''] [[], s.toList, []]) := by
    rw [← String.toList_inj]
    simp [List.intercalate_cons_cons]
  rw [hjoined, outside_intercalate (List.cons_ne_nil _ _) hpieces]
  rfl

end Text

def literalWords : List String := ["NULL", "TRUE", "FALSE"]

def notFiniteWords : List String := ["NaN", "inf", "-inf"]

inductive SqlLiteral : String → Prop
  | word {s : String} (h : s ∈ literalWords) : SqlLiteral s
  | number {cs : List Char} (h : Decimal.IsPlain cs) : SqlLiteral (String.ofList cs)
  | text {s : String} (h : Text.QuoteFree s) : SqlLiteral ("'" ++ s ++ "'")

theorem quoteFree_of_isPlain {cs : List Char} (h : Decimal.IsPlain cs) :
    Text.QuoteFree (String.ofList cs) := by
  rw [Text.quoteFree_ofList]
  intro hquote
  have hchar := h.isPlainChar _ hquote
  revert hchar
  decide

theorem isBareWord_of_isPlain {cs : List Char} (h : Decimal.IsPlain cs) :
    Text.isBareWord (String.ofList cs) = false := by
  rw [Text.isBareWord, Text.outside_of_quoteFree (quoteFree_of_isPlain h), List.any_cons,
    List.any_nil, Bool.or_false, String.toList_ofList, List.any_eq_false]
  intro c hc
  rw [h.isPlainChar c hc]
  decide

theorem isBareWord_quoted {s : String} (h : Text.QuoteFree s) :
    Text.isBareWord ("'" ++ s ++ "'") = false := by
  rw [Text.isBareWord, Text.outside_quoted h]
  rfl

theorem isBareWord_of_mem {s : String} (h : s ∈ literalWords ++ notFiniteWords) :
    Text.isBareWord s = true := by
  have hall : (literalWords ++ notFiniteWords).all Text.isBareWord = true := by decide
  exact List.all_eq_true.1 hall s h

/-- Only the three words may stand in a list of literals without quotes and without being numbers. -/
theorem SqlLiteral.mem_literalWords {s : String} (h : SqlLiteral s)
    (hbare : Text.isBareWord s = true) : s ∈ literalWords := by
  cases h with
  | word h => exact h
  | number h =>
    rw [isBareWord_of_isPlain h] at hbare
    cases hbare
  | text h =>
    rw [isBareWord_quoted h] at hbare
    cases hbare

theorem not_sqlLiteral {s : String} (h : s ∈ notFiniteWords) : ¬SqlLiteral s := by
  intro hliteral
  have hword := hliteral.mem_literalWords (isBareWord_of_mem (List.mem_append_right _ h))
  have hdisjoint : ∀ word ∈ notFiniteWords, word ∉ literalWords := by decide
  exact hdisjoint s h hword

namespace Value

def Finite : Value → Prop
  | float x => Json.isFinite x = true
  | _ => True

theorem sqlLiteral_of_finite {v : Value} (hv : v.QuoteFree) (hfinite : v.Finite) :
    SqlLiteral v.sqlLiteral := by
  have hquoted : ∀ {s : String}, v.shown? = some s → SqlLiteral v.quoted := by
    intro s hs
    rw [quoted_of_shown? hs]
    exact .text (quoteFree_of_shown? hv hs)
  cases v with
  | null => exact .word (by decide)
  | bool b => cases b <;> exact .word (by decide)
  | int n => exact .number (Decimal.isPlain_intDigits n.toInt)
  | float x => exact .number (Decimal.Layout.isPlain_render hfinite)
  | text s => exact hquoted rfl
  | date d => exact hquoted rfl
  | timestamp t => exact hquoted rfl
  | instant i => exact hquoted rfl

theorem sqlLiteral_of_not_finite {v : Value} (h : ¬v.Finite) : v.sqlLiteral ∈ notFiniteWords := by
  cases v with
  | float x =>
    have hwords := Decimal.Layout.render_of_not_finite (Bool.not_eq_true _ ▸ h)
    exact List.mem_map_of_mem (f := String.ofList) hwords
  | _ => exact absurd trivial h

theorem sqlLiteral_iff_finite {v : Value} (hv : v.QuoteFree) :
    SqlLiteral v.sqlLiteral ↔ v.Finite := by
  constructor
  · intro hliteral
    by_contra hfinite
    exact not_sqlLiteral (sqlLiteral_of_not_finite hfinite) hliteral
  · exact sqlLiteral_of_finite hv

end Value

def literalsOf (vs : List Value) : String := ", ".intercalate (vs.map Value.sqlLiteral)

theorem bareWords_literalsOf {vs : List Value} (h : ∀ v ∈ vs, v.QuoteFree) :
    Text.bareWords (literalsOf vs) = (vs.map Value.sqlLiteral).filter Text.isBareWord := by
  cases vs with
  | nil => decide
  | cons v vs =>
    have hne : (v :: vs).map Value.sqlLiteral ≠ [] := List.cons_ne_nil _ _
    rw [Text.bareWords, literalsOf, Text.items_intercalate hne]
    intro t ht
    obtain ⟨v', hv', rfl⟩ := List.mem_map.1 ht
    exact Value.whole_sqlLiteral (h v' hv')

theorem bareWords_literalWords_iff {vs : List Value} (h : ∀ v ∈ vs, v.QuoteFree) :
    (∀ word ∈ Text.bareWords (literalsOf vs), word ∈ literalWords) ↔ ∀ v ∈ vs, v.Finite := by
  rw [bareWords_literalsOf h]
  constructor
  · intro hwords v hv
    by_contra hfinite
    have hword := Value.sqlLiteral_of_not_finite hfinite
    have hbare := isBareWord_of_mem (List.mem_append_right literalWords hword)
    have hmem : v.sqlLiteral ∈ (vs.map Value.sqlLiteral).filter Text.isBareWord :=
      List.mem_filter.2 ⟨List.mem_map_of_mem hv, hbare⟩
    exact not_sqlLiteral hword (.word (hwords _ hmem))
  · intro hfinite word hword
    obtain ⟨hmem, hbare⟩ := List.mem_filter.1 hword
    obtain ⟨v, hv, rfl⟩ := List.mem_map.1 hmem
    exact (Value.sqlLiteral_of_finite (h v hv) (hfinite v hv)).mem_literalWords hbare

namespace Instance

variable {m : Model} (x : Instance m)

def inserted : Dialect → List Value
  | .mySql => x.values
  | .postgres => x.writtenColumns.map (·.2)

/-- An insert holds no values at all, or it holds the tuple of their literals. -/
inductive Inserts (dialect : Dialect) : Prop
  | bare (hsql : x.insertSql dialect = "INSERT INTO " ++ m.table ++ " DEFAULT VALUES RETURNING id")
      (hnone : x.inserted dialect = [])
  | tuple {columns ending : String}
      (hsql : x.insertSql dialect = "INSERT INTO " ++ m.table ++ " (" ++ columns ++ ") VALUES (" ++
        literalsOf (x.inserted dialect) ++ ")" ++ ending)
      (hending : ending ∈ ["", " RETURNING id"])

theorem inserts_mySql : x.Inserts .mySql := by
  have hsql : x.insertSql .mySql = "INSERT INTO " ++ m.table ++ " (" ++ m.selectList ++
      ") VALUES (" ++ literalsOf x.values ++ ")" ++ "" := by
    have hopen : ") VALUES (" = ") VALUES " ++ "(" := by decide
    have htuple : x.insertSql .mySql = "INSERT INTO " ++ m.table ++ " (" ++ m.selectList ++
      ") VALUES " ++ ("(" ++ literalsOf x.values ++ ")") := rfl
    rw [htuple, hopen, String.append_empty]
    simp only [String.append_assoc]
  exact .tuple hsql (by decide)

theorem inserts_postgres : x.Inserts .postgres := by
  have hinsert : x.insertSql .postgres = if x.writtenColumns.isEmpty then
      "INSERT INTO " ++ m.table ++ " DEFAULT VALUES RETURNING id"
    else "INSERT INTO " ++ m.table ++ " (" ++
      String.intercalate ", " (x.writtenColumns.map (·.1.name)) ++ ") VALUES (" ++
        String.intercalate ", " (x.writtenColumns.map (·.2.sqlLiteral)) ++ ") RETURNING id" := rfl
  by_cases hempty : x.writtenColumns.isEmpty = true
  · rw [if_pos hempty] at hinsert
    refine .bare hinsert ?_
    rw [inserted, List.isEmpty_iff.1 hempty, List.map_nil]
  · have hend : ") RETURNING id" = ")" ++ " RETURNING id" := by decide
    have hliterals : literalsOf (x.inserted .postgres) =
        String.intercalate ", " (x.writtenColumns.map (·.2.sqlLiteral)) := by
      rw [literalsOf, inserted, List.map_map]
      rfl
    rw [if_neg hempty, hend, ← String.append_assoc, ← hliterals] at hinsert
    exact .tuple hinsert (by decide)

theorem inserts (dialect : Dialect) : x.Inserts dialect := by
  cases dialect with
  | mySql => exact x.inserts_mySql
  | postgres => exact x.inserts_postgres

variable {x}

theorem quoteFree_values (hx : x.QuoteFree) : ∀ v ∈ x.values, v.QuoteFree := by
  intro v hv
  obtain ⟨i, -, rfl⟩ := List.mem_map.1 hv
  exact hx i

theorem quoteFree_inserted (hx : x.QuoteFree) (dialect : Dialect) :
    ∀ v ∈ x.inserted dialect, v.QuoteFree := by
  cases dialect with
  | mySql => exact quoteFree_values hx
  | postgres =>
    intro v hv
    obtain ⟨c, hc, rfl⟩ := List.mem_map.1 hv
    exact quoteFree_values hx _ (List.of_mem_zip (List.mem_of_mem_filter hc)).2

end Instance

/-- The literal of a value whose text brings no quote is well formed exactly if the value is no double
beyond the finite ones, and such a double becomes one of three words. So the tuple of an insert holds no
bare word but those for NULL and the truth values exactly if every double in it is finite. -/
theorem literals_well_formed_if_finite (v : Value) (hv : v.QuoteFree) {m : Model} (x : Instance m)
    (hx : x.QuoteFree) (dialect : Dialect) :
    (SqlLiteral v.sqlLiteral ↔ v.Finite) ∧ (¬v.Finite → v.sqlLiteral ∈ notFiniteWords) ∧
      x.Inserts dialect ∧
      ((∀ word ∈ Text.bareWords (literalsOf (x.inserted dialect)), word ∈ literalWords) ↔
        ∀ v ∈ x.inserted dialect, v.Finite) := by
  have hvalues := Instance.quoteFree_inserted hx dialect
  exact ⟨Value.sqlLiteral_iff_finite hv, Value.sqlLiteral_of_not_finite, x.inserts dialect,
    bareWords_literalWords_iff hvalues⟩

/-- A measurement without a level, which is told by a double that is no number. -/
def unmeasured : Instance measurementModel where
  get
    | ⟨0, _⟩ => (0 / 0 : Float)
    | ⟨1, _⟩ => some (7 : Int64)
    | ⟨2, _⟩ => (none : Option String)
    | ⟨3, _⟩ => (⟨⟨1987, 6, 5, by decide⟩, ⟨4, 32, 10, 0, by decide⟩⟩ : Calendar.Timestamp)

/-- The level has no literal, and the insert holds a word that is neither NULL nor a truth value. -/
theorem literals_well_formed_unmeasured :
    (Value.float (0 / 0)).QuoteFree ∧ unmeasured.QuoteFree ∧
      ¬SqlLiteral (Value.float (0 / 0)).sqlLiteral ∧
      unmeasured.insertSql .mySql = "INSERT INTO measurement (id, level, note, taken) VALUES " ++
        "(7, NaN, NULL, '1987-06-05 04:32:10')" ∧
      ¬∀ word ∈ Text.bareWords (literalsOf (unmeasured.inserted .mySql)), word ∈ literalWords := by
  have hx : unmeasured.QuoteFree := by
    intro i
    match i with
    | ⟨0, _⟩ => exact trivial
    | ⟨1, _⟩ => exact trivial
    | ⟨2, _⟩ => exact trivial
    | ⟨3, _⟩ => exact trivial
  have hnan : ¬(Value.float (0 / 0)).Finite := by
    rw [Value.Finite]
    decide +kernel
  obtain ⟨hliteral, -, -, hwords⟩ :=
    literals_well_formed_if_finite (.float (0 / 0)) trivial unmeasured hx .mySql
  refine ⟨trivial, hx, fun h => hnan (hliteral.1 h), by decide +kernel,
    fun h => hnan (hwords.1 h _ ?_)⟩
  exact List.mem_map.2 ⟨⟨0, by decide⟩, by decide, rfl⟩

/-- A double that is no number brings no quote, and yet its literal is a bare word. -/
theorem not_literals_well_formed : ¬∀ v : Value, v.QuoteFree → SqlLiteral v.sqlLiteral := by
  intro h
  have hnan : (Value.float (0 / 0)).sqlLiteral ∈ notFiniteWords := by decide +kernel
  exact not_sqlLiteral hnan (h _ trivial)

end TableMapper
