import TableMapper.Proofs.Query.Operation

/-!
# Statements that operations send

An operation either reads or inserts, or it sends the update or delete that was compiled from its
record or its query set. The first word of a statement tells which; the compiled text says what is
written and which rows it is for.
-/

namespace TableMapper

namespace Text

def Begins (word text : String) : Prop := word.toList <+: text.toList

def Contains (word text : String) : Prop := word.toList <:+: text.toList

instance (word text : String) : Decidable (Begins word text) :=
  inferInstanceAs (Decidable (word.toList <+: text.toList))

instance (word text : String) : Decidable (Contains word text) :=
  inferInstanceAs (Decidable (word.toList <:+: text.toList))

theorem begins_append (word rest : String) : Begins word (word ++ rest) := by
  rw [Begins, String.toList_append]
  exact List.prefix_append _ _

theorem Begins.append {word text : String} (h : Begins word text) (rest : String) :
    Begins word (text ++ rest) := by
  rw [Begins, String.toList_append]
  exact h.trans (List.prefix_append _ _)

theorem contains_append (front word back : String) : Contains word (front ++ word ++ back) := by
  rw [Contains, String.toList_append, String.toList_append]
  exact List.infix_append _ _ _

end Text

open Text (Begins)

inductive Verb
  | select
  | insert
  | update
  | delete
  deriving DecidableEq, Repr

namespace Verb

def word : Verb → String
  | select => "SELECT"
  | insert => "INSERT"
  | update => "UPDATE"
  | delete => "DELETE"

theorem length_word (v : Verb) : v.word.toList.length = 6 := by
  cases v <;> decide +kernel

theorem word_inj {v v' : Verb} (h : v.word = v'.word) : v = v' := by
  cases v <;> cases v' <;> first | rfl | exact absurd h (by decide)

theorem unique {v v' : Verb} {text : String} (h : Begins v.word text) (h' : Begins v'.word text) :
    v = v' := by
  have hlength : v.word.toList.length = v'.word.toList.length := by
    rw [length_word, length_word]
  have hstart := List.prefix_of_prefix_length_le h h' (Nat.le_of_eq hlength)
  exact word_inj (String.toList_inj.1 (hstart.eq_of_length hlength))

/-- The text begins with the word and goes on with a space. -/
def Opens (v : Verb) (text : String) : Prop := Begins (v.word ++ " ") text

theorem Opens.begins {v : Verb} {text : String} (h : v.Opens text) : Begins v.word text := by
  rw [Opens, Begins, String.toList_append] at h
  exact (List.prefix_append _ _).trans h

theorem Opens.append {v : Verb} {text : String} (h : v.Opens text) (rest : String) :
    v.Opens (text ++ rest) := Begins.append h rest

theorem opens_append (v : Verb) (rest : String) : v.Opens (v.word ++ " " ++ rest) :=
  Text.begins_append _ rest

end Verb

namespace Call

def sql : Call → String
  | fetch sql | execute sql | insert sql => sql

def Is (v : Verb) (call : Call) : Prop := Begins v.word call.sql

instance (v : Verb) (call : Call) : Decidable (call.Is v) :=
  inferInstanceAs (Decidable (Begins v.word call.sql))

theorem Is.not {v v' : Verb} {call : Call} (h : call.Is v) (hne : v ≠ v') : ¬call.Is v' :=
  fun h' => hne (Verb.unique h h')

end Call

/-- Every instance has one value for each column of the schema. -/
def Model.Covers (m : Model) : Prop := ∀ x : Instance m, x.values.length = m.schema.length

theorem Model.Aligned.covers {m : Model} (h : m.Aligned) : m.Covers := by
  intro x
  rw [Instance.values, List.length_map, h.lengths.1, h.lengths.2.1]

namespace Operation

variable {m : Model}

def isRaw : Operation m → Bool
  | executeQuery _ => true
  | _ => false

def UpdatesRecord : Operation m → Instance m → Prop
  | updateRow x, y | updateInstance x, y => y = x
  | updateFromJson text, y | updateFromJsonAsJson text, y => m.ofJson text = .ok y
  | _, _ => False

def DeletesRecord : Operation m → Instance m → Prop
  | deleteRow x, y => y = x
  | _, _ => False

def UpdatesRows : Operation m → QuerySet m → Record → Prop
  | update q changes, q', changes' => q' = q ∧ changes' = changes
  | updateAll changes, q', changes' => q' = .all m ∧ changes' = changes
  | _, _, _ => False

def DeletesRows : Operation m → QuerySet m → Prop
  | delete q, q' => q' = q
  | deleteWhere fs, q' => q' = (QuerySet.all m).filterAll fs
  | _, _ => False

/-- The calls that an operation may make, by the statements in them. -/
inductive Statement (op : Operation m) : Call → Prop
  | select {sql : String} (h : Begins "SELECT" sql) : Statement op (.fetch sql)
  | insert {sql : String} (h : Begins "INSERT" sql) : Statement op (.insert sql)
  | updateRecord {x : Instance m} {sql : String} (hx : op.UpdatesRecord x)
      (h : x.updateSql = .ok sql) : Statement op (.execute sql)
  | deleteRecord {x : Instance m} {sql : String} (hx : op.DeletesRecord x)
      (h : x.deleteSql = .ok sql) : Statement op (.execute sql)
  | updateRows {q : QuerySet m} {changes : Record} {sql : String} (hq : op.UpdatesRows q changes)
      (h : q.updateSql changes = .ok sql) : Statement op (.execute sql)
  | deleteRows {q : QuerySet m} {sql : String} (hq : op.DeletesRows q)
      (h : q.deleteSql = .ok sql) : Statement op (.execute sql)

theorem opens_sql (q : QuerySet m) (dialect : Dialect) : Verb.select.Opens (q.sql dialect) := by
  have hselect : Verb.select.Opens m.selectSql :=
    ((Verb.select.opens_append _).append _).append _
  exact ((hselect.append _).append _).append _

theorem opens_countSql (select : String) : Verb.select.Opens (countSql select) :=
  ((Verb.select.opens_append "COUNT(*) FROM (").append _).append _

theorem opens_insertSql (x : Instance m) (dialect : Dialect) :
    Verb.insert.Opens (x.insertSql dialect) := by
  have hinto : Verb.insert.Opens ("INSERT INTO " ++ m.table) :=
    (Verb.insert.opens_append "INTO ").append _
  cases dialect with
  | mySql => exact (((hinto.append _).append _).append _).append _
  | postgres =>
    by_cases hempty : x.writtenColumns.isEmpty = true
    · have hsql : x.insertSql .postgres =
          "INSERT INTO " ++ m.table ++ " DEFAULT VALUES RETURNING id" := if_pos hempty
      exact hsql ▸ hinto.append _
    · have hsql : x.insertSql .postgres =
          "INSERT INTO " ++ m.table ++ " (" ++
            String.intercalate ", " (x.writtenColumns.map (·.1.name)) ++ ") VALUES (" ++
            String.intercalate ", " (x.writtenColumns.map (·.2.sqlLiteral)) ++ ") RETURNING id" :=
        if_neg hempty
      exact hsql ▸ ((((hinto.append _).append _).append _).append _).append _

theorem opens_update (table : String) : Verb.update.Opens ("UPDATE " ++ table ++ " SET ") :=
  (Verb.update.opens_append table).append _

theorem opens_delete (table : String) : Verb.delete.Opens ("DELETE FROM " ++ table) :=
  (Verb.delete.opens_append "FROM ").append _

theorem statement_lookFor (op : Operation m) (x : Instance m) (dialect : Dialect) :
    op.Statement (lookFor x dialect) := by
  rw [lookFor]
  cases x.id with
  | none => exact .insert (opens_insertSql x dialect).begins
  | some id => exact .select (opens_sql _ dialect).begins

theorem statement_of_opening {op : Operation m} {dialect : Dialect} {call : Call}
    (h : op.opening dialect = .ok call) (hraw : op.isRaw = false) : op.Statement call := by
  cases op with
  | fetch q | size q | get q | getJson q | json q =>
    cases h
    exact .select (opens_sql q dialect).begins
  | getWhere fs | getJsonWhere fs =>
    cases h
    exact .select (opens_sql _ dialect).begins
  | count q | countAll =>
    cases h
    exact .select (opens_countSql _).begins
  | save x | create x =>
    cases h
    exact .insert (opens_insertSql x dialect).begins
  | createFromRecord r | createFromJson text =>
    obtain ⟨x, -, rfl⟩ := map_eq_ok.1 h
    exact .insert (opens_insertSql x dialect).begins
  | update q changes | updateAll changes =>
    obtain ⟨sql, hsql, rfl⟩ := map_eq_ok.1 h
    exact .updateRows ⟨rfl, rfl⟩ hsql
  | delete q | deleteWhere fs =>
    obtain ⟨sql, hsql, rfl⟩ := map_eq_ok.1 h
    exact .deleteRows rfl hsql
  | updateRow x | updateInstance x =>
    obtain ⟨sql, hsql, rfl⟩ := map_eq_ok.1 h
    exact .updateRecord rfl hsql
  | deleteRow x =>
    obtain ⟨sql, hsql, rfl⟩ := map_eq_ok.1 h
    exact .deleteRecord rfl hsql
  | updateFromJson text | updateFromJsonAsJson text =>
    obtain ⟨x, hx, h⟩ := bind_eq_ok.1 h
    obtain ⟨sql, hsql, rfl⟩ := map_eq_ok.1 h
    exact .updateRecord hx hsql
  | getOrCreate x =>
    cases h
    exact statement_lookFor _ x dialect
  | getOrCreateFromRecord r | getOrCreateFromJson text =>
    obtain ⟨x, -, rfl⟩ := map_eq_ok.1 h
    exact statement_lookFor _ x dialect
  -- A query written by hand may be anything.
  | executeQuery sql => cases hraw

variable {σ : Type} {b : Backend σ} {s : σ}

theorem mem_calls_getOrCreate {x : Instance m} {call : Call}
    (h : call ∈ (Model.getOrCreate x b.dialect).calls b s) :
    call = lookFor x b.dialect ∨ call = .insert (x.insertSql b.dialect) := by
  have hcreate : ∀ s, (Model.createMissing x b.dialect).calls b s =
      [.insert (x.insertSql b.dialect)] := fun s => (sends_save x s).1
  rw [Model.getOrCreate] at h
  cases hid : x.id with
  | none =>
    simp only [hid, hcreate, List.mem_singleton] at h
    exact .inr h
  | some id =>
    simp only [hid, Action.followedBy, Dialogue.calls_andThen, List.mem_append] at h
    rcases h with hsearch | hrest
    · left
      rw [lookFor, hid]
      exact List.mem_singleton.1 hsearch
    · right
      -- The insert follows on one answer of three, that there is no row.
      split at hrest
      · split at hrest
        · cases hrest
        · rw [hcreate] at hrest
          exact List.mem_singleton.1 hrest
      · cases hrest

theorem statement_of_mem_getOrCreate (op : Operation m) {x : Instance m} {call : Call}
    (h : call ∈ (Model.getOrCreate x b.dialect).calls b s) : op.Statement call := by
  rcases mem_calls_getOrCreate h with rfl | rfl
  · exact statement_lookFor op x b.dialect
  · exact .insert (opens_insertSql x b.dialect).begins

theorem statement_of_mem_given (op : Operation m) {read : Except Error (Instance m)} {call : Call}
    (h : call ∈ (Action.given read fun x => Model.getOrCreate x b.dialect).calls b s) :
    op.Statement call := by
  cases read with
  | error e => cases h
  | ok x => exact statement_of_mem_getOrCreate op h

/-- Each call of an operation is one that it may make. -/
theorem statement_of_mem_calls {op : Operation m} (hraw : op.isRaw = false) {call : Call}
    (h : call ∈ (op.action b.dialect).calls b s) : op.Statement call := by
  cases hs : op.isSingle with
  | false =>
    cases op with
    | getOrCreate x => exact statement_of_mem_getOrCreate _ h
    | getOrCreateFromRecord r => exact statement_of_mem_given _ h
    | getOrCreateFromJson text => exact statement_of_mem_given _ h
    | _ => cases hs
  | true =>
    cases hopening : op.opening b.dialect with
    | error e =>
      rw [action_of_opening_error hopening] at h
      cases h
    | ok first =>
      rw [(sends_of_opening_ok hopening hs s).1] at h
      obtain rfl := List.mem_singleton.1 h
      exact statement_of_opening hopening hraw

end Operation

namespace Instance

variable {m : Model} {x : Instance m} {sql : String}

theorem requireId_eq_ok {verb : String} {id : Int64} :
    x.requireId verb = .ok id ↔ x.id = some id := by
  rw [requireId]
  cases x.id <;> simp

theorem updateSql_eq_ok (hm : m.Covers) (h : x.updateSql = .ok sql) :
    ∃ (id : Int64) (columns : List (String × Value)), x.id = some id ∧
      columns.map Prod.fst = m.columnNames ∧ columns.map Prod.snd = x.values ∧
      sql = "UPDATE " ++ m.table ++ " SET " ++
        String.intercalate ", " (columns.map fun c => assignment c.1 c.2) ++ " WHERE id = " ++
          Decimal.intText id.toInt := by
  obtain ⟨id, hid, rfl⟩ := map_eq_ok.1 h
  refine ⟨id, (m.schema.zip x.values).map fun c => (c.1.name, c.2), requireId_eq_ok.1 hid,
    ?_, ?_, ?_⟩
  · have hschema : (m.schema.zip x.values).map Prod.fst = m.schema :=
      List.map_fst_zip (Nat.le_of_eq (hm x).symm)
    have hnames : ((m.schema.zip x.values).map Prod.fst).map (·.name) = m.columnNames := by
      rw [hschema, Model.columnNames]
    rw [← hnames, List.map_map, List.map_map]
    rfl
  · rw [List.map_map]
    exact List.map_snd_zip (Nat.le_of_eq (hm x))
  · rw [List.map_map]
    rfl

theorem deleteSql_eq_ok (h : x.deleteSql = .ok sql) :
    ∃ id, x.id = some id ∧
      sql = "DELETE FROM " ++ m.table ++ " WHERE id = " ++ Decimal.intText id.toInt := by
  obtain ⟨id, hid, rfl⟩ := map_eq_ok.1 h
  exact ⟨id, requireId_eq_ok.1 hid, rfl⟩

end Instance

namespace QuerySet

variable {m : Model} {q : QuerySet m} {sql : String}

theorem whereClause_of_filters (h : q.conditions.filters ≠ []) :
    q.whereClause =
      " WHERE " ++ String.intercalate " AND " (q.conditions.filters.map Filter.sql) := by
  rw [whereClause, Conditions.sql, if_neg]
  simpa [Conditions.isEmpty] using h

theorem deleteSql_eq_ok (h : q.deleteSql = .ok sql) :
    q.conditions.filters ≠ [] ∧ sql = "DELETE FROM " ++ m.table ++ " WHERE " ++
      String.intercalate " AND " (q.conditions.filters.map Filter.sql) := by
  obtain ⟨hconditions, rfl⟩ := guard_eq_ok.1 h
  have hfilters : q.conditions.filters ≠ [] := by simpa [Conditions.isEmpty] using hconditions
  rw [whereClause_of_filters hfilters, ← String.append_assoc]
  exact ⟨hfilters, rfl⟩

theorem updateSql_eq_ok {changes : Record} (h : q.updateSql changes = .ok sql) :
    sql = "UPDATE " ++ m.table ++ " SET " ++
      String.intercalate ", " (changes.entries.map fun e => assignment e.1 e.2) ++
        q.whereClause := by
  obtain ⟨-, rfl⟩ := guard_eq_ok.1 h
  rfl

end QuerySet

end TableMapper
