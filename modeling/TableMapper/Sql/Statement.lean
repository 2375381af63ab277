import TableMapper.Model.Basic
import TableMapper.Sql.Clause

/-!
# Statements

The texts of inserts, updates, deletes and counts. An update or delete of one record needs its key;
an update by names needs at least one of them.
-/

namespace TableMapper

def assignment (column : String) (value : Value) : String := column ++ " = " ++ value.quoted

def updateSql (table : String) (changes : Record) (whereClause : String) : Except Error String :=
  if changes.isEmpty then .error (.validation "UPDATE requires at least one value")
  else .ok ("UPDATE " ++ table ++ " SET " ++
    String.intercalate ", " (changes.entries.map fun e => assignment e.1 e.2) ++ whereClause)

def countSql (select : String) : String :=
  "SELECT COUNT(*) FROM (" ++ String.ofList (Text.trimEnd select.toList) ++ ") AS counted"

namespace Instance

variable {m : Model}

def valuesSql (x : Instance m) : String :=
  "(" ++ String.intercalate ", " (x.values.map Value.sqlLiteral) ++ ")"

/-- The columns that an insert with a returned key writes: all but an unset key. -/
def writtenColumns (x : Instance m) : List (FieldDef × Value) :=
  (m.schema.zip x.values).filter fun c => !(c.1.primaryKey && c.2.isNull)

/-- Inserts the record. One dialect writes every column and lets the database replace a NULL key;
the other leaves an unset key out and asks for the new one. -/
def insertSql (x : Instance m) : Dialect → String
  | .mySql =>
    "INSERT INTO " ++ m.table ++ " (" ++ m.selectList ++ ") VALUES " ++ x.valuesSql
  | .postgres =>
    let columns := x.writtenColumns
    if columns.isEmpty then "INSERT INTO " ++ m.table ++ " DEFAULT VALUES RETURNING id"
    else
      "INSERT INTO " ++ m.table ++ " (" ++ String.intercalate ", " (columns.map (·.1.name)) ++
        ") VALUES (" ++ String.intercalate ", " (columns.map (·.2.sqlLiteral)) ++ ") RETURNING id"

def requireId (x : Instance m) (action : String) : Except Error Int64 :=
  match x.id with
  | some id => .ok id
  | none =>
    .error (.validation
      ("cannot " ++ action ++ " " ++ m.name ++ " instance without an id (save it first)"))

def updateSql (x : Instance m) : Except Error String :=
  (x.requireId "update").map fun id =>
    "UPDATE " ++ m.table ++ " SET " ++
      String.intercalate ", " ((m.schema.zip x.values).map fun c => assignment c.1.name c.2) ++
      " WHERE id = " ++ Decimal.intText id.toInt

def deleteSql (x : Instance m) : Except Error String :=
  (x.requireId "delete").map fun id =>
    "DELETE FROM " ++ m.table ++ " WHERE id = " ++ Decimal.intText id.toInt

end Instance

end TableMapper
