import TableMapper.Proofs.Model.Json
import TableMapper.Proofs.Query.Operation
import TableMapper.Proofs.Sql.Insert

/-!
# Looking for a record before it is created

A record with a key is looked for first, and it is inserted only if no row answers. So a row that is
stored is never inserted again, and nothing of the given record is written over it.
-/

namespace TableMapper

namespace Instance

variable {m : Model} (x : Instance m)

/-- The end of an insert; one dialect asks for the key. -/
def insertEnd : Dialect → String
  | .mySql => ")"
  | .postgres => ") RETURNING id"

section Keyed

variable (h : m.Aligned) {id : Int64} (hid : x.id = some id)

include h hid

theorem head_entries : x.toRecord.entries.head? = some ("id", .int id) := by
  rw [entries_toRecord_cons x h, List.head?_cons, valueOf_key, hid]

theorem insertSql_of_id (dialect : Dialect) :
    x.insertSql dialect = "INSERT INTO " ++ m.table ++ " (" ++
      String.intercalate ", " (x.toRecord.entries.map Prod.fst) ++ ") VALUES (" ++
        String.intercalate ", " (x.toRecord.entries.map fun e => e.2.sqlLiteral) ++
          insertEnd dialect := by
  have hnames : x.toRecord.entries.map Prod.fst = (m.key :: m.others).map m.columnOf := by
    rw [entries_toRecord x h, h.written, List.map_map]
    rfl
  have hliterals : x.toRecord.entries.map (fun e => e.2.sqlLiteral) =
      x.literals (m.key :: m.others) := by
    rw [entries_toRecord x h, h.written, List.map_map]
    rfl
  rw [hnames, hliterals]
  cases dialect with
  | mySql =>
    rw [insertSql_mySql x h, insertEnd]
    rfl
  | postgres =>
    have hend : ") RETURNING id" = ")" ++ " RETURNING id" := by decide
    rw [insertSql_postgres_of_keyed x h hid, insertSql_mySql x h, insertEnd, hend]
    delta Model.insertText
    simp only [String.append_assoc]

end Keyed

end Instance

namespace Model

variable {m : Model} {σ : Type} {b : Backend σ} {s : σ} {x : Instance m}

def lookupSql (m : Model) (id : Int64) : String :=
  m.selectSql ++ " WHERE id = '" ++ Decimal.intText id.toInt ++ "'"

theorem sql_compare_id (id : Int64) (dialect : Dialect) :
    ((QuerySet.all m).compare .eq "id" (.int id)).sql dialect = m.lookupSql id := by
  have hwhere : ((QuerySet.all m).compare .eq "id" (.int id)).whereClause =
      " WHERE " ++ ("id" ++ " " ++ "=" ++ " " ++ ("'" ++ Decimal.intText id.toInt ++ "'")) := rfl
  have hopen : " WHERE id = '" = " WHERE " ++ ("id" ++ " " ++ "=" ++ " " ++ "'") := by decide
  rw [QuerySet.sql, hwhere, lookupSql, hopen]
  simp only [String.append_assoc]
  rfl

/-- What becomes of an insert: the record with the key that the backend reports and otherwise as it
was given, or the error of the backend. -/
inductive Inserted (x : Instance m) (b : Backend σ) (s : σ) : Except Error (Instance m) → Prop
  | stored {id : Int64} {y : Instance m}
      (hanswer : (b.insert (x.insertSql b.dialect) s).answer = .ok id)
      (hid : y.id = some id) (hothers : ∀ i, i ≠ m.key → y.get i = x.get i) : Inserted x b s (.ok y)
  | refused {e : Error} (hanswer : (b.insert (x.insertSql b.dialect) s).answer = .error e) :
      Inserted x b s (.error e)

/-- All rows can be read, of which there is one at least, and the first is read as the record. -/
def ReadsFirst (found : Instance m) (rows : List Row) : Prop :=
  ∃ row rest, rows = row :: rest ∧ m.ofRow row = .ok found ∧
    ∀ row' ∈ rest, ∃ y, m.ofRow row' = .ok y

/-- The calls and the result of looking for a record before it is created, for every answer. -/
inductive LookedFor (x : Instance m) (b : Backend σ) (s : σ) :
    List Call → Except Error (Instance m) → Prop
  | keyless {outcome : Except Error (Instance m)} (hid : x.id = none)
      (houtcome : Inserted x b s outcome) :
      LookedFor x b s [.insert (x.insertSql b.dialect)] outcome
  | unanswered {id : Int64} {e : Error} (hid : x.id = some id)
      (hanswer : (b.fetch (m.lookupSql id) s).answer = .error e) :
      LookedFor x b s [.fetch (m.lookupSql id)] (.error e)
  | unreadable {id : Int64} {front back : List Row} {row : Row} {e : Error} (hid : x.id = some id)
      (hanswer : (b.fetch (m.lookupSql id) s).answer = .ok (front ++ row :: back))
      (hfront : ∀ row' ∈ front, ∃ y, m.ofRow row' = .ok y) (hrow : m.ofRow row = .error e) :
      LookedFor x b s [.fetch (m.lookupSql id)] (.error e)
  | found {id : Int64} {rows : List Row} {found : Instance m} (hid : x.id = some id)
      (hanswer : (b.fetch (m.lookupSql id) s).answer = .ok rows) (hrows : ReadsFirst found rows) :
      LookedFor x b s [.fetch (m.lookupSql id)] (.ok found)
  | missing {id : Int64} {outcome : Except Error (Instance m)} (hid : x.id = some id)
      (hanswer : (b.fetch (m.lookupSql id) s).answer = .ok [])
      (houtcome : Inserted x b (b.fetch (m.lookupSql id) s).state outcome) :
      LookedFor x b s [.fetch (m.lookupSql id), .insert (x.insertSql b.dialect)] outcome

theorem inserted_save (s : σ) : Inserted x b s ((x.save b.dialect).run b s).answer := by
  rw [Instance.save, Dialogue.run]
  cases hinsert : (b.insert (x.insertSql b.dialect) s).answer with
  | error e => exact .refused hinsert
  | ok id => exact .stored hinsert (x.id_setId _) fun i hi => x.get_setId_of_ne _ hi

theorem inserted_createMissing (s : σ) :
    Inserted x b s ((createMissing x b.dialect).run b s).answer :=
  inserted_save s

theorem calls_createMissing (s : σ) :
    (createMissing x b.dialect).calls b s = [.insert (x.insertSql b.dialect)] :=
  (Operation.sends_save x s).1

/-- What follows the answer to the search. -/
def afterLookup (x : Instance m) (id : Int64) (dialect : Dialect) :
    Except Error (List (Instance m)) → Action (Instance m)
  | .ok (found :: _) => .emit (m.foundEvent id) (.done (.ok found))
  | .ok [] => createMissing x dialect
  | .error e => .fail e

theorem getOrCreate_of_id {id : Int64} (hid : x.id = some id) (dialect : Dialect) :
    getOrCreate x dialect = .fetch (m.lookupSql id) fun answer =>
      afterLookup x id dialect (answer.bind m.ofRows) := by
  simp only [getOrCreate, hid, QuerySet.fetch, sql_compare_id]
  rw [Action.followedBy, Dialogue.andThen]
  congr 1
  funext answer
  rw [Dialogue.andThen]
  rcases answer.bind m.ofRows with e | _ | ⟨found, rest⟩ <;> rfl

theorem ofRows_of_readsFirst {found : Instance m} {rows : List Row} (h : ReadsFirst found rows) :
    ∃ rest, m.ofRows rows = .ok (found :: rest) := by
  obtain ⟨row, rest, rfl, hrow, hrest⟩ := h
  cases hread : m.ofRows rest with
  | ok xs => exact ⟨xs, mapM_eq_ok.2 (.cons hrow (mapM_eq_ok.1 hread))⟩
  | error e =>
    obtain ⟨front, row', back, rfl, -, he⟩ := first_of_mapM hread
    obtain ⟨y, hy⟩ := hrest row' (List.mem_append_right _ List.mem_cons_self)
    cases he.symm.trans hy

/-- A stored row is returned after one call, and nothing else is done to the backend. -/
theorem getOrCreate_of_found {id : Int64} (hid : x.id = some id) {rows : List Row}
    {found : Instance m} (hanswer : (b.fetch (m.lookupSql id) s).answer = .ok rows)
    (hrows : ReadsFirst found rows) :
    (getOrCreate x b.dialect).calls b s = [.fetch (m.lookupSql id)] ∧
      ((getOrCreate x b.dialect).run b s).answer = .ok found ∧
      ((getOrCreate x b.dialect).run b s).state = (b.fetch (m.lookupSql id) s).state := by
  obtain ⟨rest, hread⟩ := ofRows_of_readsFirst hrows
  have hafter : afterLookup x id b.dialect ((b.fetch (m.lookupSql id) s).answer.bind m.ofRows) =
      .emit (m.foundEvent id) (.done (.ok found)) := by
    rw [hanswer, Except.bind, hread, afterLookup]
  rw [getOrCreate_of_id hid, Dialogue.calls, Dialogue.run, hafter]
  exact ⟨rfl, rfl, rfl⟩

theorem lookedFor_getOrCreate (x : Instance m) (b : Backend σ) (s : σ) :
    LookedFor x b s ((getOrCreate x b.dialect).calls b s)
      ((getOrCreate x b.dialect).run b s).answer := by
  cases hid : x.id with
  | none =>
    have hcreate : getOrCreate x b.dialect = createMissing x b.dialect := by
      rw [getOrCreate, hid]
    rw [hcreate, calls_createMissing]
    exact .keyless hid (inserted_createMissing s)
  | some id =>
    cases hanswer : (b.fetch (m.lookupSql id) s).answer with
    | error e =>
      rw [getOrCreate_of_id hid, Dialogue.calls, Dialogue.run, hanswer]
      exact .unanswered hid hanswer
    | ok rows =>
      cases hread : m.ofRows rows with
      | error e =>
        rw [getOrCreate_of_id hid, Dialogue.calls, Dialogue.run, hanswer, Except.bind, hread]
        obtain ⟨front, row, back, rfl, hfront, hrow⟩ := first_of_mapM hread
        exact .unreadable hid hanswer hfront hrow
      | ok xs =>
        -- As many records were read as there are rows, so the first of both stand together.
        cases mapM_eq_ok.1 hread with
        | nil =>
          rw [getOrCreate_of_id hid, Dialogue.calls, Dialogue.run, hanswer, Except.bind, hread,
            afterLookup, calls_createMissing]
          exact .missing hid hanswer (inserted_createMissing _)
        | @cons row found rows rest hrow hrest =>
          have hrows : ReadsFirst found (row :: rows) := by
            refine ⟨row, rows, rfl, hrow, fun row' hrow' => ?_⟩
            obtain ⟨y, -, hy⟩ := exists_of_mem_forall₂ hrest hrow'
            exact ⟨y, hy⟩
          obtain ⟨hcalls, hfound, -⟩ := getOrCreate_of_found hid hanswer hrows
          rw [hcalls, hfound]
          exact .found hid hanswer hrows

def getOrCreateAll (xs : List (Instance m)) (dialect : Dialect) :
    Dialogue (List (Except Error (Instance m))) :=
  match xs with
  | [] => .done []
  | x :: xs => (getOrCreate x dialect).andThen fun outcome =>
      (getOrCreateAll xs dialect).andThen fun outcomes => .done (outcome :: outcomes)

/-- Asked for the same statement that many times, the backend always answers with such rows. -/
def KeepsAnswering (b : Backend σ) (sql : String) (P : List Row → Prop) : Nat → σ → Prop
  | 0, _ => True
  | n + 1, s => (∃ rows, (b.fetch sql s).answer = .ok rows ∧ P rows) ∧
      KeepsAnswering b sql P n (b.fetch sql s).state

theorem getOrCreateAll_of_found {id : Int64} {found : Instance m} {xs : List (Instance m)}
    (hid : ∀ x ∈ xs, x.id = some id)
    (hkeeps : KeepsAnswering b (m.lookupSql id) (ReadsFirst found) xs.length s) :
    (getOrCreateAll xs b.dialect).calls b s =
        List.replicate xs.length (.fetch (m.lookupSql id)) ∧
      ((getOrCreateAll xs b.dialect).run b s).answer = List.replicate xs.length (.ok found) := by
  -- Each call leaves the backend as its answer to the one search does, where the next one begins.
  induction xs generalizing s with
  | nil => exact ⟨rfl, rfl⟩
  | cons x xs ih =>
    obtain ⟨⟨rows, hanswer, hrows⟩, hlater⟩ := hkeeps
    obtain ⟨hcalls, hfound, hstate⟩ :=
      getOrCreate_of_found (hid x List.mem_cons_self) hanswer hrows
    obtain ⟨hcalls', hfound'⟩ := ih (fun y hy => hid y (List.mem_cons_of_mem x hy)) hlater
    constructor
    · rw [getOrCreateAll, Dialogue.calls_andThen, Dialogue.calls_andThen, hcalls, hstate, hcalls']
      simp [Dialogue.calls, List.replicate_succ]
    · rw [getOrCreateAll, Dialogue.answer_andThen, Dialogue.answer_andThen, hfound, hstate, hfound']
      rfl

open Declaration (Item)

/-- A record without a key is inserted. A record with one is looked for: an error of the backend and
a row that cannot be read are returned and nothing more is sent; the first of some rows is returned
as it is stored; and only on an empty answer is the given record inserted, its key included. After
an insert the record is returned with the key that the backend reports and no other change. So as
long as a readable row is stored under the key, it is returned every time, whatever records are
given, and nothing is inserted. -/
theorem stored_found_else_created (x : Instance m) (b : Backend σ) (s : σ) :
    LookedFor x b s ((getOrCreate x b.dialect).calls b s)
      ((getOrCreate x b.dialect).run b s).answer ∧
    (∀ (typeOf? : String → Option FieldType) (d : Item) (id : Int64),
      d.model? typeOf? = some m → (d.shape.named.map Prod.fst).Nodup → x.id = some id →
      x.toRecord.entries.head? = some ("id", .int id) ∧
        x.insertSql b.dialect = "INSERT INTO " ++ m.table ++ " (" ++
          String.intercalate ", " (x.toRecord.entries.map Prod.fst) ++ ") VALUES (" ++
            String.intercalate ", " (x.toRecord.entries.map fun e => e.2.sqlLiteral) ++
              Instance.insertEnd b.dialect) ∧
    ∀ (id : Int64) (found : Instance m) (xs : List (Instance m)), (∀ y ∈ xs, y.id = some id) →
      KeepsAnswering b (m.lookupSql id) (ReadsFirst found) xs.length s →
      (getOrCreateAll xs b.dialect).calls b s =
          List.replicate xs.length (.fetch (m.lookupSql id)) ∧
        ((getOrCreateAll xs b.dialect).run b s).answer = List.replicate xs.length (.ok found) := by
  refine ⟨lookedFor_getOrCreate x b s, ?_, ?_⟩
  · intro typeOf? d id hm hd hid
    have haligned : m.Aligned := aligned_of_model? hm hd
    exact ⟨x.head_entries haligned hid, x.insertSql_of_id haligned hid b.dialect⟩
  · intro id found xs hid hkeeps
    exact getOrCreateAll_of_found hid hkeeps

def storedRow : Row := [.int 7, .float 0.5, .text "kept", .timestamp
  ⟨⟨2024, 2, 29, by decide⟩, ⟨12, 0, 0, 0, by decide⟩⟩]

/-- The stored note is returned twice, though another is given, and nothing is inserted. -/
theorem stored_found_else_created_note :
    let b := Script.backend .postgres
    let s : Script := ⟨[.rows [storedRow], .rows [storedRow]], 1⟩
    let x := measured.setId (some 7)
    let note : measurementModel.Field := ⟨2, by decide⟩
    let search := "SELECT id, level, note, taken FROM measurement WHERE id = '7'"
    ∃ found, measurementModel.ofRow storedRow = .ok found ∧ x.id = some 7 ∧
      measurement.model? measurementTypes = some measurementModel ∧
      (measurement.shape.named.map Prod.fst).Nodup ∧
      x.toRecord.entries.head? = some ("id", .int 7) ∧
      KeepsAnswering b search (ReadsFirst found) 2 s ∧
      (getOrCreateAll [x, x] b.dialect).calls b s = [.fetch search, .fetch search] ∧
      ((getOrCreateAll [x, x] b.dialect).run b s).answer = [.ok found, .ok found] ∧
      found.valueOf note = .text "kept" ∧ x.valueOf note = .text "a \"quoted\"\nnote" := by
  intro b s x note search
  obtain ⟨found, hrow, hkept⟩ : ∃ found, measurementModel.ofRow storedRow = .ok found ∧
      found.valueOf note = .text "kept" := ⟨_, rfl, rfl⟩
  have hrows : ReadsFirst found [storedRow] := ⟨storedRow, [], rfl, hrow, by simp⟩
  have hd : (measurement.shape.named.map Prod.fst).Nodup := by decide +kernel
  have hid : x.id = some 7 := measured.id_setId (some 7)
  have hsearch : measurementModel.lookupSql 7 = search := by decide +kernel
  obtain ⟨-, hinsert, hrepeat⟩ := stored_found_else_created x b s
  obtain ⟨hhead, -⟩ := hinsert _ _ 7 measurement_model? hd hid
  have hkeeps : KeepsAnswering b search (ReadsFirst found) 2 s :=
    ⟨⟨_, rfl, hrows⟩, ⟨_, rfl, hrows⟩, trivial⟩
  obtain ⟨hcalls, hfound⟩ := hrepeat 7 found [x, x] (by simp [hid]) (hsearch ▸ hkeeps)
  rw [hsearch] at hcalls
  exact ⟨found, hrow, hid, measurement_model?, hd, hhead, hkeeps, hcalls, hfound, hkept, rfl⟩

end Model

end TableMapper
