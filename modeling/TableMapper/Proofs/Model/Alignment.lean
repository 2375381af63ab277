import TableMapper.Model.Basic
import TableMapper.Proofs.Field.Type
import TableMapper.Proofs.Record

/-!
# Aligned models

A model keeps three lists: the columns of its schema, the fields it writes and the fields it reads
with the columns to read them from. They are aligned if the same position stands for the same field
in all of them. Then no value is shifted or lost between an instance and its record.
-/

namespace TableMapper

namespace Model

variable (m : Model)

def nameOf (i : m.Field) : String := (m.fields.get i).1

def others : List m.Field := (List.finRange m.fields.length).filter fun i => i ≠ m.key

def columnOf (i : m.Field) : String := if i = m.key then "id" else m.nameOf i

/-- The key stands first under the column `id`, and the other fields follow under their own names
in the schema, in what is written and in what is read. -/
structure Aligned : Prop where
  schema : ∃ blank : m.Field → Bool,
    m.schema = .id :: m.others.map fun i => (m.typeOf i).column (m.nameOf i) (blank i)
  written : m.written = m.key :: m.others
  read : m.read = m.written.map fun i => (i, m.columnOf i)
  distinct : m.columnNames.Nodup

variable {m}

theorem mem_others {i : m.Field} : i ∈ m.others ↔ i ≠ m.key := by
  simp [others, List.mem_finRange]

@[simp] theorem columnOf_key : m.columnOf m.key = "id" := if_pos rfl

theorem columnOf_of_ne {i : m.Field} (h : i ≠ m.key) : m.columnOf i = m.nameOf i := if_neg h

theorem map_columnOf_others : m.others.map m.columnOf = m.others.map m.nameOf :=
  List.map_congr_left fun _ hi => columnOf_of_ne (mem_others.1 hi)

namespace Aligned

variable (h : m.Aligned)

include h

theorem mem_written (i : m.Field) : i ∈ m.written := by
  rw [h.written]
  by_cases hi : i = m.key
  · exact hi ▸ List.mem_cons_self
  · exact List.mem_cons_of_mem _ (mem_others.2 hi)

theorem columnNames : m.columnNames = m.written.map m.columnOf := by
  obtain ⟨blank, hschema⟩ := h.schema
  rw [Model.columnNames, hschema, h.written, List.map_cons, List.map_cons, List.map_map,
    map_columnOf_others, columnOf_key]
  rfl

theorem lengths : m.schema.length = m.columnNames.length ∧
    m.written.length = m.columnNames.length ∧ m.read.length = m.columnNames.length := by
  have hwritten : m.written.length = m.columnNames.length := by
    rw [h.columnNames, List.length_map]
  refine ⟨?_, hwritten, ?_⟩
  · rw [Model.columnNames, List.length_map]
  · rw [h.read, List.length_map, hwritten]

end Aligned

theorem readFields_ok {r : Record} {x : Instance m} {entries : List (m.Field × String)}
    (h : ∀ e ∈ entries, r.decode (m.typeOf e.1) e.2 = .ok (x.get e.1)) :
    m.readFields r entries = .ok fun i _ => x.get i := by
  induction entries with
  | nil =>
    rw [readFields]
    congr
    funext i hi
    cases hi
  | cons e entries ih =>
    obtain ⟨i, column⟩ := e
    have hi := h (i, column) List.mem_cons_self
    have hrest := ih fun e he => h e (List.mem_cons_of_mem _ he)
    rw [readFields, hi, ok_bind, hrest, ok_bind]
    congr
    funext j hj
    by_cases hji : j = i
    · subst hji
      simp
    · simp [hji]

theorem ofRecord_ok {r : Record} {x : Instance m}
    (h : ∀ e ∈ m.read, r.decode (m.typeOf e.1) e.2 = .ok (x.get e.1)) :
    m.ofRecord r = .ok x := by
  rw [ofRecord, readFields_ok h, map_ok]

end Model

namespace Instance

variable {m : Model} (x : Instance m)

theorem zip_schema {blank : m.Field → Bool}
    (hschema : m.schema =
      .id :: m.others.map fun i => (m.typeOf i).column (m.nameOf i) (blank i))
    (hwritten : m.written = m.key :: m.others) :
    m.schema.zip x.values = (.id, x.valueOf m.key) ::
      m.others.map fun i => ((m.typeOf i).column (m.nameOf i) (blank i), x.valueOf i) := by
  rw [values, hschema, hwritten, List.map_cons, List.zip_cons_cons, List.zip_map']

theorem entries_toRecord (h : m.Aligned) :
    x.toRecord.entries = m.written.map fun i => (m.columnOf i, x.valueOf i) := by
  have hzip : m.columnNames.zip x.values =
      m.written.map fun i => (m.columnOf i, x.valueOf i) := by
    rw [h.columnNames, values, List.zip_map']
  have hdistinct : ((m.columnNames.zip x.values).map Prod.fst).Nodup := by
    rw [hzip, List.map_map]
    exact h.columnNames ▸ h.distinct
  rw [toRecord, Record.entries_ofPairs hdistinct, hzip]

theorem entries_toRecord_cons (h : m.Aligned) : x.toRecord.entries =
    ("id", x.valueOf m.key) :: m.others.map fun i => (m.columnOf i, x.valueOf i) := by
  rw [entries_toRecord x h, h.written, List.map_cons, Model.columnOf_key]

theorem keys_toRecord (h : m.Aligned) : x.toRecord.keys = m.columnNames := by
  rw [Record.keys, entries_toRecord x h, List.map_map, h.columnNames]
  rfl

theorem mem_toRecord (h : m.Aligned) (i : m.Field) :
    (m.columnOf i, x.valueOf i) ∈ x.toRecord.entries := by
  rw [entries_toRecord x h]
  exact List.mem_map.2 ⟨i, h.mem_written i, rfl⟩

/-- What a record was written from is read back from it. -/
theorem ofRecord_toRecord (h : m.Aligned) : m.ofRecord x.toRecord = .ok x := by
  apply Model.ofRecord_ok
  intro e he
  rw [h.read] at he
  obtain ⟨i, -, rfl⟩ := List.mem_map.1 he
  have hget := Record.get_of_mem (mem_toRecord x h i)
  have hvalue := (m.typeOf i).ofValue_toValue (x.get i)
  simp only [Record.decode, hget, valueOf, hvalue]
  rfl

end Instance

end TableMapper
