import TableMapper.Database
import TableMapper.Proofs.Except
import TableMapper.Proofs.Model.Derived
import TableMapper.Proofs.Model.Rows

/-!
# Reading a table

A server answers a query with a table. It is read row by row and each row from left to right, so
that the first cell without a value, in this order, decides. If there is none, every cell stands as
a value in its place. What is logged on the way makes no difference.

A query set and a query written by hand both ask for a table and make records of its rows. The table
is read as a whole before any record is made, so a broken cell anywhere comes before a field that
does not read its value.
-/

namespace TableMapper.Postgres

variable {decoder : Decoder}

/-- The value that a cell holds. In a column whose type is not accepted no cell holds any; in other
columns NULL is NULL, and bytes hold what is decoded from them. -/
inductive Holds (decoder : Decoder) (c : Column) : Cell → Value → Prop
  | null (haccepts : decoder.accepts c.wireType c.type = true) : Holds decoder c none .null
  | bytes {bytes : List UInt8} {content : c.wireType.Content}
      (haccepts : decoder.accepts c.wireType c.type = true)
      (hcontent : decoder.decode? c.wireType c.type bytes = some content) :
      Holds decoder c (some bytes) (c.wireType.toValue content)

theorem value?_eq_some {c : Column} {cell : Cell} {v : Value} :
    decoder.value? c.wireType c.type cell = some v ↔ Holds decoder c cell v := by
  rw [Decoder.value?, Decoder.content?]
  constructor
  · intro h
    obtain ⟨content, hcontent, rfl⟩ := Option.map_eq_some_iff.1 h
    split at hcontent
    · rename_i haccepts
      cases cell with
      | none =>
        cases hcontent
        exact .null haccepts
      | some bytes =>
        obtain ⟨content, hdecode, rfl⟩ := Option.map_eq_some_iff.1 hcontent
        exact .bytes haccepts hdecode
    · cases hcontent
  · intro h
    cases h with
    | null haccepts =>
      rw [if_pos haccepts]
      rfl
    | bytes haccepts hcontent =>
      rw [if_pos haccepts, Option.mapM_some, hcontent]
      rfl

theorem readCells_eq_ok {start : Nat} {cells : List (Column × Cell)} {row : Row} :
    readCells decoder start cells = .ok row ↔
      List.Forall₂ (fun p v => Holds decoder p.1 p.2 v) cells row := by
  induction cells generalizing start row with
  | nil =>
    rw [readCells, List.forall₂_nil_left_iff]
    constructor
    · intro h
      cases h
      rfl
    · rintro rfl
      rfl
  | cons p cells ih =>
    obtain ⟨c, cell⟩ := p
    rw [readCells, List.forall₂_cons_left_iff]
    constructor
    · intro h
      cases hv : decoder.value? c.wireType c.type cell with
      | none => simp [hv] at h
      | some v =>
        simp only [hv] at h
        obtain ⟨rest, hrest, rfl⟩ := map_eq_ok.1 h
        exact ⟨v, rest, value?_eq_some.1 hv, ih.1 hrest, rfl⟩
    · rintro ⟨v, rest, hv, hrest, rfl⟩
      rw [value?_eq_some.2 hv]
      exact map_eq_ok.2 ⟨rest, ih.2 hrest, rfl⟩

namespace ServerReply

def Regular (r : ServerReply) : Prop := ∀ cells ∈ r.rows, cells.length = r.columns.length

instance (r : ServerReply) : Decidable r.Regular :=
  inferInstanceAs (Decidable (∀ cells ∈ r.rows, cells.length = r.columns.length))

def cells (r : ServerReply) : List (Column × Cell) := r.rows.flatMap (r.columns.zip ·)

variable {r : ServerReply}

theorem cellsOf_eq_ok {rows : List (List Cell)} :
    Client.cellsOf r = .ok rows ↔ r.Regular ∧ r.rows = rows := by
  have hall : r.rows.all (·.length == r.columns.length) = true ↔ r.Regular := by
    simp only [List.all_eq_true, beq_iff_eq, Regular]
  rw [Client.cellsOf]
  by_cases hr : r.Regular
  · rw [if_pos (hall.2 hr)]
    constructor
    · intro h
      cases h
      exact ⟨hr, rfl⟩
    · rintro ⟨-, rfl⟩
      rfl
  · rw [if_neg (mt hall.1 hr)]
    constructor
    · intro h
      cases h
    · rintro ⟨hregular, -⟩
      exact absurd hregular hr

theorem Regular.cellsOf (h : r.Regular) : Client.cellsOf r = .ok r.rows :=
  cellsOf_eq_ok.2 ⟨h, rfl⟩

end ServerReply

theorem send_eq_ok {sql : String} {r : ServerReply} {replies : List ServerReply}
    (hsql : Client.holdsNul sql = false) (hfailure : r.failure = none)
    (htag : Client.holdsNul r.tag = false) :
    (Client.send sql ⟨r :: replies, false⟩).answer = .ok r := by
  simp [Client.send, hsql, hfailure, htag]

/-- A bare client of the server, or a database that logs what it sends. -/
inductive Connection (decoder : Decoder) : Backend Client → Prop
  | client : Connection decoder (Client.backend decoder)
  | database (config : Config) : Connection decoder (Database.backend decoder config)

namespace Connection

variable {b : Backend Client} (h : Connection decoder b)

include h

theorem answer_fetch {sql : String} {c : Client} {r : ServerReply}
    (hanswer : (c.send sql).answer = .ok r) :
    (b.fetch sql c).answer = Client.rowsOf decoder r := by
  have hask : ((Client.backend decoder).fetch sql c).answer = Client.rowsOf decoder r := by
    simp only [Client.backend, Client.ask, hanswer]
    rfl
  cases h with
  | client => exact hask
  | database config => exact hask

theorem answer_insert {sql : String} {c : Client} :
    (b.insert sql c).answer = (c.send sql).answer.bind (Client.insertedId decoder) := by
  cases h with
  | client => rfl
  | database config => rfl

end Connection

open Declaration (Item)

end TableMapper.Postgres
