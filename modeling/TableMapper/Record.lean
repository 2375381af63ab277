import TableMapper.Json.Fault
import TableMapper.Json.Reader
import TableMapper.Value

/-!
# Records

A list in which every item has a key is updated like a mapping: an item takes the place of the
one with the same key, and a new key goes to the end. So a record maps names to values and keeps the
order in which the names came first. From JSON it takes the members in the order of their keys, the
last of each key.
-/

namespace TableMapper

variable {α : Type}

/-- Puts an item into a list, in place of the item with the same key or else at the end. -/
def upsert (key : α → String) (a : α) : List α → List α
  | [] => [a]
  | b :: bs => if key b = key a then a :: bs else b :: upsert key a bs

def upsertAll (key : α → String) (items bs : List α) : List α :=
  items.foldl (fun acc a => upsert key a acc) bs

theorem map_key_upsert (key : α → String) (a : α) (bs : List α) :
    (upsert key a bs).map key =
      if key a ∈ bs.map key then bs.map key else bs.map key ++ [key a] := by
  induction bs with
  | nil => simp [upsert]
  | cons b bs ih =>
    by_cases h : key b = key a
    · simp [upsert, h]
    · have h' : key a ≠ key b := fun e => h e.symm
      by_cases hm : key a ∈ bs.map key
      · simp only [upsert, h, if_false, List.map_cons, ih, hm, if_true, List.mem_cons, or_true]
      · simp only [upsert, h, if_false, List.map_cons, ih, hm, List.mem_cons, h', or_self,
          List.cons_append]

theorem nodup_upsert {key : α → String} (a : α) {bs : List α} (h : (bs.map key).Nodup) :
    ((upsert key a bs).map key).Nodup := by
  rw [map_key_upsert]
  split
  · exact h
  · rename_i hm
    rw [List.nodup_append]
    refine ⟨h, List.nodup_cons.2 ⟨List.not_mem_nil, List.nodup_nil⟩, ?_⟩
    intro x hx y hy e
    rw [List.mem_singleton] at hy
    exact hm (hy ▸ e ▸ hx)

theorem nodup_upsertAll {key : α → String} (items : List α) {bs : List α}
    (h : (bs.map key).Nodup) : ((upsertAll key items bs).map key).Nodup := by
  induction items generalizing bs with
  | nil => exact h
  | cons a items ih => exact ih (nodup_upsert a h)

structure Record where
  entries : List (String × Value) := []
  distinct : (entries.map Prod.fst).Nodup := by exact List.nodup_nil

namespace Record

def empty : Record := {}

def insert (r : Record) (name : String) (value : Value) : Record :=
  ⟨upsert Prod.fst (name, value) r.entries, nodup_upsert (name, value) r.distinct⟩

def ofPairs (pairs : List (String × Value)) : Record :=
  ⟨upsertAll Prod.fst pairs [], nodup_upsertAll pairs List.nodup_nil⟩

def get? (r : Record) (name : String) : Option Value :=
  (r.entries.find? fun e => e.1 = name).map (·.2)

def get (r : Record) (name : String) : Value := (r.get? name).getD .null

def size (r : Record) : Nat := r.entries.length

def isEmpty (r : Record) : Bool := r.entries.isEmpty

def keys (r : Record) : List String := r.entries.map Prod.fst

def eqv (r s : Record) : Bool := r.entries == s.entries

def toJson (r : Record) : Json := .object (r.entries.map fun e => (e.1, e.2.toJson))

def json (r : Record) : String := r.toJson.render

/-- Reads the members of a JSON object one by one; none may be a list or an object. -/
def entriesOfMembers : List (String × Json) → Except Error (List (String × Value))
  | [] => .ok []
  | (k, j) :: ms => do
    let v ← Value.ofJson k j
    let es ← entriesOfMembers ms
    .ok ((k, v) :: es)

def ofMembers (ms : List (String × Json)) : Except Error Record :=
  (entriesOfMembers (Json.sortMembers ms)).map ofPairs

def ofJsonValue : Json → Except Error Record
  | .object ms => ofMembers ms
  | j => .error (.serialization ("expected a JSON object, got " ++ j.canonical.render))

def parseJson (text : String) : Except Error Json :=
  match Json.parse text with
  | .ok j => .ok j
  | .error fault => .error (.serialization (fault.message text.toList))

def ofJson (text : String) : Except Error Record := (parseJson text).bind ofJsonValue

end Record

end TableMapper
