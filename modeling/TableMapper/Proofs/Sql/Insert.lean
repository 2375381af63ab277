import TableMapper.Proofs.Model.Derived
import TableMapper.Proofs.Value.Literal
import TableMapper.Sql.Statement

/-!
# Inserts

An insert lists columns and a tuple of literals. Both dialects write every field under its own
column, and only an unset key is ever left out.
-/

namespace TableMapper

variable {m : Model}

/-- An insert of some fields with a tuple of literals. -/
def Model.insertText (m : Model) (fields : List m.Field) (tuple : String) : String :=
  "INSERT INTO " ++ m.table ++ " (" ++ ", ".intercalate (fields.map m.columnOf) ++ ") VALUES (" ++
    tuple ++ ")"

namespace Instance

variable (x : Instance m)

def QuoteFree : Prop := ∀ i, (x.valueOf i).QuoteFree

def literals (fields : List m.Field) : List String := fields.map fun i => (x.valueOf i).sqlLiteral

/-- The fields that an insert with a returned key writes. -/
def writtenFields : List m.Field :=
  match x.id with
  | none => m.others
  | some _ => m.key :: m.others

theorem literals_cons_of_keyless (hid : x.id = none) :
    x.literals (m.key :: m.others) = "NULL" :: x.literals m.others := by
  rw [literals, List.map_cons, valueOf_key, hid]
  rfl

theorem items_literals (hx : x.QuoteFree) {fields : List m.Field} (hne : fields ≠ []) :
    Text.items (", ".intercalate (x.literals fields)) = x.literals fields := by
  apply Text.items_intercalate
  · intro hnil
    exact hne (List.map_eq_nil_iff.1 hnil)
  · intro t ht
    obtain ⟨i, -, rfl⟩ := List.mem_map.1 ht
    exact Value.whole_sqlLiteral (hx i)

section Aligned

variable (h : m.Aligned)

include h

theorem map_columnOf_fields : (m.key :: m.others).map m.columnOf = m.columnNames := by
  rw [h.columnNames, h.written]

theorem columnNames_eq_singleton : m.columnNames = ["id"] ↔ m.others = [] := by
  rw [← map_columnOf_fields h, List.map_cons, Model.columnOf_key, List.cons.injEq,
    List.map_eq_nil_iff]
  exact and_iff_right rfl

theorem writtenColumns_eq : x.writtenColumns.map (fun c => (c.1.name, c.2)) =
    x.writtenFields.map fun i => (m.columnOf i, x.valueOf i) := by
  obtain ⟨blank, hschema⟩ := h.schema
  -- Only the key can be left out, and every other column is kept whatever its value is.
  have hkept : (m.others.map fun i =>
      ((m.typeOf i).column (m.nameOf i) (blank i), x.valueOf i)).filter
        (fun c => !(c.1.primaryKey && c.2.isNull)) =
      m.others.map fun i => ((m.typeOf i).column (m.nameOf i) (blank i), x.valueOf i) := by
    rw [List.filter_eq_self]
    intro c hc
    obtain ⟨i, -, rfl⟩ := List.mem_map.1 hc
    rfl
  have hothers : (m.others.map fun i =>
      ((m.typeOf i).column (m.nameOf i) (blank i), x.valueOf i)).map (fun c => (c.1.name, c.2)) =
      m.others.map fun i => (m.columnOf i, x.valueOf i) := by
    rw [List.map_map]
    apply List.map_congr_left
    intro i hi
    rw [Model.columnOf_of_ne (Model.mem_others.1 hi)]
    rfl
  rw [writtenColumns, zip_schema x hschema h.written, writtenFields]
  cases hid : x.id with
  | none =>
    have hnull : x.valueOf m.key = .null := by rw [valueOf_key, hid]
    rw [hnull, List.filter_cons_of_neg (by decide), hkept, hothers]
  | some id =>
    have hint : x.valueOf m.key = .int id := by rw [valueOf_key, hid]
    rw [hint, List.filter_cons_of_pos rfl, hkept, List.map_cons, hothers, List.map_cons,
      Model.columnOf_key, hint]
    rfl

theorem insertSql_mySql : x.insertSql .mySql =
    m.insertText (m.key :: m.others) (", ".intercalate (x.literals (m.key :: m.others))) := by
  have hsql : x.insertSql .mySql =
      "INSERT INTO " ++ m.table ++ " (" ++ m.selectList ++ ") VALUES " ++ x.valuesSql := rfl
  have hopen : ") VALUES (" = ") VALUES " ++ "(" := by decide
  have hvalues : x.values.map Value.sqlLiteral = x.literals (m.key :: m.others) := by
    rw [values, h.written, List.map_map]
    rfl
  rw [hsql, Model.selectList, valuesSql, hvalues, ← map_columnOf_fields h]
  delta Model.insertText
  rw [hopen]
  simp only [String.append_assoc]

theorem insertSql_postgres : x.insertSql .postgres =
    if x.writtenFields = [] then "INSERT INTO " ++ m.table ++ " DEFAULT VALUES RETURNING id"
    else m.insertText x.writtenFields (", ".intercalate (x.literals x.writtenFields)) ++
      " RETURNING id" := by
  have hsql : x.insertSql .postgres = if x.writtenColumns.isEmpty then
        "INSERT INTO " ++ m.table ++ " DEFAULT VALUES RETURNING id"
      else "INSERT INTO " ++ m.table ++ " (" ++
        String.intercalate ", " (x.writtenColumns.map (·.1.name)) ++ ") VALUES (" ++
          String.intercalate ", " (x.writtenColumns.map (·.2.sqlLiteral)) ++
            ") RETURNING id" := rfl
  have hcolumns := writtenColumns_eq x h
  have hnames : x.writtenColumns.map (·.1.name) = x.writtenFields.map m.columnOf := by
    simpa [Function.comp_def] using congrArg (List.map Prod.fst) hcolumns
  have hliterals : x.writtenColumns.map (·.2.sqlLiteral) = x.literals x.writtenFields := by
    simpa [literals, Function.comp_def] using congrArg (List.map fun e => e.2.sqlLiteral) hcolumns
  have hempty : x.writtenColumns.isEmpty = true ↔ x.writtenFields = [] := by
    rw [List.isEmpty_iff, ← List.map_eq_nil_iff, hnames, List.map_eq_nil_iff]
  rw [hsql, hnames, hliterals]
  by_cases hfields : x.writtenFields = []
  · rw [if_pos (hempty.2 hfields), if_pos hfields]
  · have hend : ") RETURNING id" = ")" ++ " RETURNING id" := by decide
    rw [if_neg (mt hempty.1 hfields), if_neg hfields, hend]
    delta Model.insertText
    simp only [String.append_assoc]

end Aligned

theorem insertText_ne (m : Model) (fields : List m.Field) (tuple : String) :
    m.insertText fields tuple ++ " RETURNING id" ≠
      "INSERT INTO " ++ m.table ++ " DEFAULT VALUES RETURNING id" := by
  intro he
  delta Model.insertText at he
  simp only [String.append_assoc, String.append_right_inj] at he
  have hchar := congrArg (fun s => s.toList[1]?) he
  simp at hchar

/-- What the inserts of a record write in both dialects. -/
structure InsertsAligned : Prop where
  columns : (m.key :: m.others).map m.columnOf = m.columnNames
  /-- One dialect writes every column of the schema. -/
  whole : ∃ tuple, x.insertSql .mySql = m.insertText (m.key :: m.others) tuple ∧
    (x.QuoteFree → Text.items tuple = x.literals (m.key :: m.others))
  /-- The other dialect writes a set key too, and asks for it. -/
  keyed : ∀ id, x.id = some id → x.insertSql .postgres = x.insertSql .mySql ++ " RETURNING id"
  /-- Of an unset key both the column and the NULL are left out, and nothing else is. -/
  keyless : x.id = none → m.columnNames ≠ ["id"] → ∃ tuple,
    x.insertSql .mySql = m.insertText (m.key :: m.others) ("NULL, " ++ tuple) ∧
      x.insertSql .postgres = m.insertText m.others tuple ++ " RETURNING id" ∧
      (x.QuoteFree → Text.items tuple = x.literals m.others)
  bare : x.insertSql .postgres = "INSERT INTO " ++ m.table ++ " DEFAULT VALUES RETURNING id" ↔
    x.id = none ∧ m.columnNames = ["id"]

section Aligned

variable (h : m.Aligned)

include h

theorem insertSql_postgres_of_keyed {id : Int64} (hid : x.id = some id) :
    x.insertSql .postgres = x.insertSql .mySql ++ " RETURNING id" := by
  have hfields : x.writtenFields = m.key :: m.others := by rw [writtenFields, hid]
  rw [insertSql_postgres x h, hfields, if_neg (List.cons_ne_nil _ _), insertSql_mySql x h]

theorem insertSql_of_keyless (hid : x.id = none) (hothers : m.others ≠ []) :
    x.insertSql .mySql = m.insertText (m.key :: m.others)
        ("NULL, " ++ ", ".intercalate (x.literals m.others)) ∧
      x.insertSql .postgres =
        m.insertText m.others (", ".intercalate (x.literals m.others)) ++ " RETURNING id" := by
  have hfields : x.writtenFields = m.others := by rw [writtenFields, hid]
  constructor
  · have hliterals : x.literals m.others ≠ [] := mt List.map_eq_nil_iff.1 hothers
    have hnull : "NULL, " = "NULL" ++ ", " := by decide
    rw [insertSql_mySql x h, literals_cons_of_keyless x hid,
      String.intercalate_cons_of_ne_nil hliterals, hnull]
  · rw [insertSql_postgres x h, hfields, if_neg hothers]

theorem insertSql_eq_bare_iff :
    x.insertSql .postgres = "INSERT INTO " ++ m.table ++ " DEFAULT VALUES RETURNING id" ↔
      x.id = none ∧ m.columnNames = ["id"] := by
  rw [insertSql_postgres x h, columnNames_eq_singleton h]
  constructor
  · intro he
    by_cases hfields : x.writtenFields = []
    · rw [writtenFields] at hfields
      cases hid : x.id with
      | none =>
        rw [hid] at hfields
        exact ⟨rfl, hfields⟩
      | some id =>
        rw [hid] at hfields
        cases hfields
    · rw [if_neg hfields] at he
      exact absurd he (insertText_ne m _ _)
  · rintro ⟨hid, hothers⟩
    have hfields : x.writtenFields = [] := by rw [writtenFields, hid, hothers]
    rw [if_pos hfields]

end Aligned

open Declaration (Item)

/-- The inserts of a record write every column with the value of its own field. Cut at the commas
outside of quotes, the tuple gives the literals of the fields in the order of their columns, as long
as no text of the record brings a quote. The dialects differ only in an unset key, which one of them
leaves out with its NULL, and in the request for the key; a record of nothing but an unset key is
inserted without columns. -/
theorem inserts_aligned {typeOf? : String → Option FieldType} {d : Item}
    (hm : d.model? typeOf? = some m) (hd : (d.shape.named.map Prod.fst).Nodup) (x : Instance m) :
    x.InsertsAligned := by
  have h : m.Aligned := aligned_of_model? hm hd
  constructor
  · exact map_columnOf_fields h
  · refine ⟨_, insertSql_mySql x h, fun hx => ?_⟩
    exact items_literals x hx (List.cons_ne_nil _ _)
  · intro id hid
    exact insertSql_postgres_of_keyed x h hid
  · intro hid hcolumns
    have hothers : m.others ≠ [] := mt (columnNames_eq_singleton h).2 hcolumns
    obtain ⟨hmySql, hpostgres⟩ := insertSql_of_keyless x h hid hothers
    exact ⟨_, hmySql, hpostgres, fun hx => items_literals x hx hothers⟩
  · exact insertSql_eq_bare_iff x h

end Instance

/-- A measurement whose note reads like more values of a tuple. -/
def remarked : Instance measurementModel where
  get
    | ⟨0, _⟩ => (-1.5 : Float)
    | ⟨1, _⟩ => (none : Option Int64)
    | ⟨2, _⟩ => some "x, NULL), (7, y"
    | ⟨3, _⟩ => (⟨⟨1999, 12, 31, by decide⟩, ⟨8, 30, 0, 0, by decide⟩⟩ : Calendar.Timestamp)

/-- The note stays one literal, and only the key is left out. -/
theorem Instance.inserts_aligned_remarked :
    measurement.model? measurementTypes = some measurementModel ∧
      (measurement.shape.named.map Prod.fst).Nodup ∧ remarked.QuoteFree ∧ remarked.id = none ∧
      remarked.insertSql .postgres = "INSERT INTO measurement (level, note, taken) VALUES " ++
        "(-1.5, 'x, NULL), (7, y', '1999-12-31 08:30:00') RETURNING id" ∧
      ∃ tuple,
        remarked.insertSql .postgres =
          measurementModel.insertText measurementModel.others tuple ++ " RETURNING id" ∧
        Text.items tuple = ["-1.5", "'x, NULL), (7, y'", "'1999-12-31 08:30:00'"] := by
  have hd : (measurement.shape.named.map Prod.fst).Nodup := by decide +kernel
  have hx : remarked.QuoteFree := by
    intro i
    match i with
    | ⟨0, _⟩ => exact trivial
    | ⟨1, _⟩ => exact trivial
    | ⟨2, _⟩ => exact (by decide : Text.QuoteFree "x, NULL), (7, y")
    | ⟨3, _⟩ => exact trivial
  have hliterals : remarked.literals measurementModel.others =
      ["-1.5", "'x, NULL), (7, y'", "'1999-12-31 08:30:00'"] := by
    decide +kernel
  have haligned := inserts_aligned measurement_model? hd remarked
  obtain ⟨tuple, -, hpostgres, hitems⟩ := haligned.keyless rfl (by decide)
  exact ⟨measurement_model?, hd, hx, rfl, by decide +kernel, tuple, hpostgres,
    hliterals ▸ hitems hx⟩

end TableMapper
