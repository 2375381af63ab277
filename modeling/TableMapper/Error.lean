/-!
# Errors

What can go wrong between a record and the database, and the one place that words it.
-/

namespace TableMapper

inductive Error
  | connection (message : String)
  | query (message : String)
  | notFound (message : String)
  | multipleObjects (got : Nat)
  | decode (column message : String)
  | validation (message : String)
  | serialization (message : String)
  | other (message : String)
  deriving DecidableEq, Repr

namespace Error

def message : Error → String
  | connection m => "Connection error: " ++ m
  | query m => "Query error: " ++ m
  | notFound m => "Not found: " ++ m
  | multipleObjects got =>
    "Multiple objects returned: expected 1 row, got " ++ toString got
  | decode column m => "Decode error on column '" ++ column ++ "': " ++ m
  | validation m => "Validation error: " ++ m
  | serialization m => "Serialization error: " ++ m
  | other m => m

def isNotFound : Error → Bool
  | notFound _ => true
  | _ => false

def isMultipleObjects : Error → Bool
  | multipleObjects _ => true
  | _ => false

end Error

end TableMapper
