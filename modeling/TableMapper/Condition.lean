import TableMapper.Record
import TableMapper.Value

/-!
# Conditions

A filter compares a column with a value. Its operator has a sign in SQL and, except for equality, a
suffix. The lookup key of a filter is the column, followed by two underscores and that suffix; a key
is read back by its last two underscores.

All filters of a query must hold. Each lookup key stands once: a later filter takes the place of an
earlier one with the same key.
-/

namespace TableMapper

inductive Operator
  | eq
  | ne
  | gt
  | gte
  | lt
  | lte
  deriving DecidableEq, Repr

namespace Operator

def sql : Operator → String
  | eq => "="
  | ne => "!="
  | gt => ">"
  | gte => ">="
  | lt => "<"
  | lte => "<="

def suffix? : Operator → Option String
  | eq => none
  | ne => some "ne"
  | gt => some "gt"
  | gte => some "gte"
  | lt => some "lt"
  | lte => some "lte"

def ofSuffix? (s : String) : Option Operator :=
  if s = "ne" then some ne
  else if s = "gt" then some gt
  else if s = "gte" then some gte
  else if s = "lt" then some lt
  else if s = "lte" then some lte
  else none

def name : Operator → String
  | eq => "Eq"
  | ne => "Ne"
  | gt => "Gt"
  | gte => "Gte"
  | lt => "Lt"
  | lte => "Lte"

theorem ofSuffix?_eq_some_iff {s : String} {o : Operator} :
    ofSuffix? s = some o ↔ o.suffix? = some s := by
  constructor
  · intro h
    rw [ofSuffix?] at h
    cases o <;> grind [suffix?]
  · intro h
    cases o <;> simp [suffix?] at h <;> subst h <;> decide

end Operator

structure Filter where
  column : String
  operator : Operator
  value : Value

/-- Splits a text at its last two neighbouring underscores. -/
def splitLookup? : List Char → Option (List Char × List Char)
  | [] => none
  | c :: cs =>
    match splitLookup? cs with
    | some (column, suffix) => some (c :: column, suffix)
    | none =>
      match c, cs with
      | '_', '_' :: suffix => some ([], suffix)
      | _, _ => none

namespace Filter

/-- Reads a lookup key. A key without a known suffix is a column by itself, for equality. -/
def lookup (key : String) (value : Value) : Filter :=
  let known? : Option Filter := do
    let (column, suffix) ← splitLookup? key.toList
    let operator ← Operator.ofSuffix? (String.ofList suffix)
    return ⟨String.ofList column, operator, value⟩
  known?.getD ⟨key, .eq, value⟩

def key (f : Filter) : String :=
  match f.operator.suffix? with
  | some suffix => f.column ++ "__" ++ suffix
  | none => f.column

def sql (f : Filter) : String := f.column ++ " " ++ f.operator.sql ++ " " ++ f.value.quoted

def describe (f : Filter) : String :=
  Text.describeStructure "Filter" [("column", Text.quoted f.column), ("op", f.operator.name),
    ("value", f.value.describe)]

end Filter

structure Conditions where
  filters : List Filter := []
  distinct : (filters.map Filter.key).Nodup := by exact List.nodup_nil

namespace Conditions

def empty : Conditions := {}

def merge (c : Conditions) (f : Filter) : Conditions :=
  ⟨upsert Filter.key f c.filters, nodup_upsert f c.distinct⟩

def mergeAll (c : Conditions) (fs : List Filter) : Conditions :=
  ⟨upsertAll Filter.key fs c.filters, nodup_upsertAll fs c.distinct⟩

def ofFilters (fs : List Filter) : Conditions := empty.mergeAll fs

def ofLookups (lookups : List (String × Value)) : Conditions :=
  ofFilters (lookups.map fun l => .lookup l.1 l.2)

def size (c : Conditions) : Nat := c.filters.length

def isEmpty (c : Conditions) : Bool := c.filters.isEmpty

def get? (c : Conditions) (key : String) : Option Value :=
  (c.filters.find? fun f => f.key = key).map (·.value)

def lookups (c : Conditions) : List (String × Value) := c.filters.map fun f => (f.key, f.value)

def sql (c : Conditions) : String :=
  if c.isEmpty then "" else " WHERE " ++ String.intercalate " AND " (c.filters.map Filter.sql)

def describe (c : Conditions) : String :=
  Text.describeStructure "Conditions"
    [("filters", Text.describeList (c.filters.map Filter.describe))]

end Conditions

end TableMapper
