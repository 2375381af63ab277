import TableMapper.Text.Quoted

/-!
# Clauses of a select

The dialects differ in how they write an offset with a count, and nowhere else in a select.
-/

namespace TableMapper

inductive Dialect
  | mySql
  | postgres
  deriving DecidableEq, Repr

def Dialect.name : Dialect → String
  | mySql => "MySql"
  | postgres => "Postgres"

inductive Limit
  | first (n : UInt64)
  | range (offset count : UInt64)
  deriving DecidableEq, Repr

namespace Limit

/-- The rows from `start` to before `stop`; none if the bounds are reversed. -/
def slice (start stop : UInt64) : Limit := range start (if stop ≤ start then 0 else stop - start)

def sql (l : Limit) (dialect : Dialect) : String :=
  match l, dialect with
  | first n, _ => "LIMIT " ++ toString n.toNat ++ " "
  | range offset count, .mySql =>
    "LIMIT " ++ toString offset.toNat ++ ", " ++ toString count.toNat ++ " "
  | range offset count, .postgres =>
    "LIMIT " ++ toString count.toNat ++ " OFFSET " ++ toString offset.toNat ++ " "

def keep {α : Type} : Limit → List α → List α
  | first n, rows => rows.take n.toNat
  | range offset count, rows => (rows.drop offset.toNat).take count.toNat

def describe : Limit → String
  | first n => Text.describeHolding "First" (toString n.toNat)
  | range offset count =>
    Text.describeStructure "Range"
      [("offset", toString offset.toNat), ("count", toString count.toNat)]

end Limit

structure Order where
  column : String
  descending : Bool
  deriving DecidableEq, Repr

namespace Order

/-- Reads a column; a hyphen before it asks for descending order. -/
def parse (field : String) : Order :=
  match field.toList with
  | '-' :: column => ⟨String.ofList column, true⟩
  | _ => ⟨field, false⟩

def sql (o : Order) : String :=
  "ORDER BY " ++ o.column ++ " " ++ if o.descending then "DESC" else "ASC"

def describe (o : Order) : String :=
  Text.describeStructure "OrderBy"
    [("column", Text.quoted o.column), ("descending", Text.describeBool o.descending)]

end Order

end TableMapper
