import TableMapper.Proofs.Postgres.Table
import TableMapper.Proofs.Query.GetOrCreate

/-!
# Saving

A record that is saved takes the key that the backend reports for it, and nothing else about it
changes. A server reports a key in the first row of its table. That row is read as a whole, while
no row after it is looked at.
-/

namespace TableMapper

/-- The same record but for the value that stands first, under `id`, which is the key. -/
def Record.Rekeyed (old new : Record) (id : Int64) : Prop :=
  ∃ v rest, old.entries = ("id", v) :: rest ∧ new.entries = ("id", .int id) :: rest

namespace Instance

variable {m : Model} {x y : Instance m}

theorem rekeyed_toRecord (h : m.Aligned) {id : Int64} (hid : y.id = some id)
    (hothers : ∀ i, i ≠ m.key → y.get i = x.get i) : x.toRecord.Rekeyed y.toRecord id := by
  have hrest : m.others.map (fun i => (m.columnOf i, y.valueOf i)) =
      m.others.map fun i => (m.columnOf i, x.valueOf i) := by
    apply List.map_congr_left
    intro i hi
    rw [valueOf, valueOf, hothers i (Model.mem_others.1 hi)]
  have hkey : y.valueOf m.key = .int id := by rw [valueOf_key, hid]
  refine ⟨x.valueOf m.key, _, entries_toRecord_cons x h, ?_⟩
  rw [entries_toRecord_cons y h, hkey, hrest]

end Instance

namespace Model

variable {m : Model} {σ : Type} {b : Backend σ} {s : σ} {x : Instance m}

theorem Inserted.rekeyed (h : m.Aligned) {outcome : Except Error (Instance m)}
    (hinserted : Inserted x b s outcome) :
    (∀ id, (b.insert (x.insertSql b.dialect) s).answer = .ok id →
      ∃ y, outcome = .ok y ∧ x.toRecord.Rekeyed y.toRecord id) ∧
    ∀ e, (b.insert (x.insertSql b.dialect) s).answer = .error e → outcome = .error e := by
  cases hinserted with
  | @stored id y hanswer hid hothers =>
    rw [hanswer]
    constructor
    · intro id' he
      cases he
      exact ⟨y, rfl, Instance.rekeyed_toRecord h hid hothers⟩
    · intro e he
      cases he
  | @refused e hanswer =>
    rw [hanswer]
    constructor
    · intro id he
      cases he
    · intro e' he
      cases he
      rfl

end Model

namespace Postgres

/-- The client gets a table for the statement. Rows without one cell for each column are no table
but a message that cannot be parsed. -/
def Client.Receives (c : Client) (sql : String) (r : ServerReply) : Prop :=
  (c.send sql).answer = .ok r ∧ r.Regular

namespace ServerReply

variable {decoder : Decoder} {r r' : ServerReply}

/-- Every cell of the first row holds a value, and the first one reads as the integer. -/
def Reports (decoder : Decoder) (r : ServerReply) (id : Int64) : Prop :=
  ∃ cells rest v row, r.rows = cells :: rest ∧
    List.Forall₂ (fun p v => Holds decoder p.1 p.2 v) (r.columns.zip cells) (v :: row) ∧
    v.asInt? = some id

theorem head?_asInt? {row : Row} {id : Int64} :
    row.head?.bind Value.asInt? = some id ↔ ∃ v rest, row = v :: rest ∧ v.asInt? = some id := by
  cases row with
  | nil => simp
  | cons v rest => simp

theorem insertedId_eq_ok {id : Int64} :
    Client.insertedId decoder r = .ok id ↔ r.Regular ∧ r.Reports decoder id := by
  rw [Client.insertedId, bind_eq_ok]
  constructor
  · rintro ⟨rows, hrows, hread⟩
    obtain ⟨hr, rfl⟩ := cellsOf_eq_ok.1 hrows
    refine ⟨hr, ?_⟩
    cases hfirst : r.rows with
    | nil =>
      rw [hfirst] at hread
      cases hread
    | cons cells rest =>
      rw [hfirst] at hread
      obtain ⟨row, hrow, hread⟩ := bind_eq_ok.1 hread
      cases hid : row.head?.bind Value.asInt? with
      | none =>
        rw [hid] at hread
        cases hread
      | some n =>
        rw [hid] at hread
        cases hread
        obtain ⟨v, row, rfl, hv⟩ := head?_asInt?.1 hid
        exact ⟨cells, rest, v, row, hfirst, readCells_eq_ok.1 hrow, hv⟩
  · rintro ⟨hr, cells, rest, v, row, hfirst, hrow, hv⟩
    have hid : (v :: row).head?.bind Value.asInt? = some id := head?_asInt?.2 ⟨v, row, rfl, hv⟩
    refine ⟨r.rows, hr.cellsOf, ?_⟩
    rw [hfirst]
    apply bind_eq_ok.2
    refine ⟨v :: row, readCells_eq_ok.2 hrow, ?_⟩
    rw [hid]

theorem insertedId_congr (hr : r.Regular) (hr' : r'.Regular) (hcolumns : r.columns = r'.columns)
    (hfirst : r.rows.head? = r'.rows.head?) :
    Client.insertedId decoder r = Client.insertedId decoder r' := by
  rw [Client.insertedId, Client.insertedId, hr.cellsOf, hr'.cellsOf, ok_bind, ok_bind]
  cases hrows : r.rows with
  | nil =>
    rw [hrows, List.head?_nil] at hfirst
    rw [List.head?_eq_none_iff.1 hfirst.symm]
  | cons cells rest =>
    rw [hrows, List.head?_cons] at hfirst
    obtain ⟨rest', hrows'⟩ := List.head?_eq_some_iff.1 hfirst.symm
    simp only [hrows', hcolumns]

end ServerReply

namespace Connection

variable {decoder : Decoder} {b : Backend Client} (hb : Connection decoder b)

include hb

theorem insert_eq_ok {sql : String} {c : Client} {id : Int64} :
    (b.insert sql c).answer = .ok id ↔ ∃ r, c.Receives sql r ∧ r.Reports decoder id := by
  rw [hb.answer_insert]
  constructor
  · intro h
    obtain ⟨r, hr, hid⟩ := bind_eq_ok.1 h
    obtain ⟨hregular, hreports⟩ := ServerReply.insertedId_eq_ok.1 hid
    exact ⟨r, ⟨hr, hregular⟩, hreports⟩
  · rintro ⟨r, ⟨hr, hregular⟩, hreports⟩
    exact bind_eq_ok.2 ⟨r, hr, ServerReply.insertedId_eq_ok.2 ⟨hregular, hreports⟩⟩

theorem insert_congr {sql sql' : String} {c c' : Client} {r r' : ServerReply}
    (h : c.Receives sql r) (h' : c'.Receives sql' r') (hcolumns : r.columns = r'.columns)
    (hfirst : r.rows.head? = r'.rows.head?) :
    (b.insert sql c).answer = (b.insert sql' c').answer := by
  rw [hb.answer_insert, hb.answer_insert, h.1, h'.1]
  exact ServerReply.insertedId_congr h.2 h'.2 hcolumns hfirst

end Connection

end Postgres

namespace Instance

variable {m : Model}

open Declaration (Item)
open Postgres (Connection Decoder)

/-- A record is saved with the one insert that is compiled of it as it is given. If the backend
reports a key, the saved record is the given one with that key under `id`, whatever stood there
before; if it fails, its error is returned. A server reports a key if and only if the table that is
received has a first row whose cells all hold values, of which the first reads as that integer. Two
tables with the same columns and the same first row make no difference, whatever rows follow. -/
theorem saved_with_reported_key {typeOf? : String → Option FieldType} {d : Item}
    (hm : d.model? typeOf? = some m) (hd : (d.shape.named.map Prod.fst).Nodup) (x : Instance m) :
    (∀ {σ : Type} (b : Backend σ) (s : σ),
      (x.save b.dialect).calls b s = [.insert (x.insertSql b.dialect)] ∧
      (∀ id, (b.insert (x.insertSql b.dialect) s).answer = .ok id →
        ∃ y, ((x.save b.dialect).run b s).answer = .ok y ∧
          x.toRecord.Rekeyed y.toRecord id) ∧
      ∀ e, (b.insert (x.insertSql b.dialect) s).answer = .error e →
        ((x.save b.dialect).run b s).answer = .error e) ∧
    ∀ (decoder : Decoder) b, Connection decoder b → ∀ sql c,
      (∀ id, (b.insert sql c).answer = .ok id ↔ ∃ r, c.Receives sql r ∧ r.Reports decoder id) ∧
      ∀ sql' c' r r', c.Receives sql r → c'.Receives sql' r' → r.columns = r'.columns →
        r.rows.head? = r'.rows.head? → (b.insert sql c).answer = (b.insert sql' c').answer := by
  have h : m.Aligned := aligned_of_model? hm hd
  constructor
  · intro σ b s
    obtain ⟨hcalls, -⟩ := Operation.sends_save (b := b) x s
    have hinserted : Model.Inserted x b s ((x.save b.dialect).run b s).answer :=
      Model.inserted_save s
    exact ⟨hcalls, hinserted.rekeyed h⟩
  · intro decoder b hb sql c
    constructor
    · intro id
      exact hb.insert_eq_ok
    · intro sql' c' r r' hr hr' hcolumns hfirst
      exact hb.insert_congr hr hr' hcolumns hfirst

/-- A key that is reported as a text of a type known by its name, and a second row of which no cell
can be read. -/
def reportedText : Postgres.ServerReply where
  columns := [⟨"id", 16391, "citext"⟩, ⟨"level", 701, "float8"⟩]
  rows := [[some [32, 52, 49], none], [some [255], some [1]]]
  tag := "INSERT 0 2"

/-- A measurement with the key 3 is saved under the key 41, and the broken row makes no difference
to a table that ends before it. -/
theorem saved_with_reported_key_text :
    let x := measured.setId (some 3)
    let b := Postgres.Client.backend .binary
    let sql := x.insertSql .postgres
    let c : Postgres.Client := ⟨[reportedText], false⟩
    let cut : Postgres.ServerReply := { reportedText with rows := reportedText.rows.take 1 }
    let c' : Postgres.Client := ⟨[cut], false⟩
    measurement.model? measurementTypes = some measurementModel ∧
      (measurement.shape.named.map Prod.fst).Nodup ∧ x.id = some 3 ∧ Connection .binary b ∧
      c.Receives sql reportedText ∧ reportedText.Reports .binary 41 ∧
      (∃ e, (b.fetch sql c).answer = .error e) ∧ (b.insert sql c).answer = .ok 41 ∧
      (∃ y, ((x.save .postgres).run b c).answer = .ok y ∧ x.toRecord.Rekeyed y.toRecord 41) ∧
      (b.insert sql c).answer = (b.insert sql c').answer := by
  intro x b sql c cut c'
  have hd : (measurement.shape.named.map Prod.fst).Nodup := by decide +kernel
  have hid : x.id = some 3 := id_setId measured (some 3)
  have hb : Connection .binary b := .client
  have hsql : Postgres.Client.holdsNul sql = false := by decide +kernel
  have htag : Postgres.Client.holdsNul reportedText.tag = false := by decide +kernel
  have hr : reportedText.Regular := by decide
  have hcut : cut.Regular := fun cells hcells => hr cells (List.mem_of_mem_take hcells)
  have hreceives : c.Receives sql reportedText := ⟨Postgres.send_eq_ok hsql rfl htag, hr⟩
  have hreceives' : c'.Receives sql cut := ⟨Postgres.send_eq_ok hsql rfl htag, hcut⟩
  have htext : Postgres.Holds .binary ⟨"id", 16391, "citext"⟩ (some [32, 52, 49]) (.text " 41") :=
    @Postgres.Holds.bytes .binary ⟨"id", 16391, "citext"⟩ [32, 52, 49] (" 41" : String) rfl rfl
  have hnull : Postgres.Holds .binary ⟨"level", 701, "float8"⟩ none .null := .null rfl
  have hreports : reportedText.Reports .binary 41 :=
    ⟨_, _, .text " 41", [.null], rfl, .cons htext (.cons hnull .nil), by decide +kernel⟩
  have hbroken : ∃ e, (b.fetch sql c).answer = .error e := by
    rw [hb.answer_fetch hreceives.1]
    exact ⟨_, rfl⟩
  obtain ⟨hsave, hserver⟩ := saved_with_reported_key measurement_model? hd x
  obtain ⟨hreported, hfirst⟩ := hserver .binary b hb sql c
  have hinsert : (b.insert sql c).answer = .ok 41 :=
    (hreported 41).2 ⟨reportedText, hreceives, hreports⟩
  obtain ⟨-, hstored, -⟩ := hsave b c
  exact ⟨measurement_model?, hd, hid, hb, hreceives, hreports, hbroken, hinsert,
    hstored 41 hinsert, hfirst sql c' _ _ hreceives hreceives' rfl rfl⟩

end Instance

end TableMapper
