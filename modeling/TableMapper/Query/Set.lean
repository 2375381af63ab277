import TableMapper.Condition
import TableMapper.Sql.Statement

/-!
# Query sets

A query set collects conditions, an order and a limit, and compiles them to one statement. A later
order or limit takes the place of an earlier one; conditions are merged by their lookup keys.
-/

namespace TableMapper

structure QuerySet (m : Model) where
  conditions : Conditions := .empty
  order : Option Order := none
  limit : Option Limit := none

namespace QuerySet

variable {m : Model}

def all (m : Model) : QuerySet m := {}

def filter (q : QuerySet m) (f : Filter) : QuerySet m :=
  { q with conditions := q.conditions.merge f }

def filterAll (q : QuerySet m) (fs : List Filter) : QuerySet m :=
  { q with conditions := q.conditions.mergeAll fs }

def lookup (q : QuerySet m) (key : String) (value : Value) : QuerySet m :=
  q.filter (.lookup key value)

def filterRecord (q : QuerySet m) (r : Record) : QuerySet m :=
  q.filterAll (r.entries.map fun e => .lookup e.1 e.2)

def compare (q : QuerySet m) (operator : Operator) (column : String) (value : Value) : QuerySet m :=
  q.filter ⟨column, operator, value⟩

def orderBy (q : QuerySet m) (field : String) : QuerySet m :=
  { q with order := some (.parse field) }

def first (q : QuerySet m) (n : UInt64) : QuerySet m := { q with limit := some (.first n) }

/-- Keeps the rows from `start` to before `stop`. -/
def slice (q : QuerySet m) (start stop : UInt64) : QuerySet m :=
  { q with limit := some (.slice start stop) }

def whereClause (q : QuerySet m) : String := q.conditions.sql

def orderClause (q : QuerySet m) : String := (q.order.map Order.sql).getD ""

def limitClause (q : QuerySet m) (dialect : Dialect) : String :=
  (q.limit.map (·.sql dialect)).getD ""

def spaced (clause : String) : String := if clause.toList.isEmpty then "" else " " ++ clause

def sql (q : QuerySet m) (dialect : Dialect) : String :=
  m.selectSql ++ q.whereClause ++ spaced q.orderClause ++ spaced (q.limitClause dialect)

def updateSql (q : QuerySet m) (changes : Record) : Except Error String :=
  TableMapper.updateSql m.table changes q.whereClause

def deleteSql (q : QuerySet m) : Except Error String :=
  if q.conditions.isEmpty then
    .error (.validation ("refusing to DELETE every row of " ++ m.table ++ " without conditions"))
  else .ok ("DELETE FROM " ++ m.table ++ q.whereClause)

def describe (q : QuerySet m) : String :=
  Text.describeStructure "QuerySet" [("model", Text.quoted m.name),
    ("conditions", q.conditions.describe),
    ("order_by", Text.describeOption (q.order.map Order.describe)),
    ("limit", Text.describeOption (q.limit.map Limit.describe))]

end QuerySet

def Model.describeManager (m : Model) : String :=
  Text.describeStructure "Manager" [("model", Text.quoted m.name)]

end TableMapper
