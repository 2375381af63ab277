import TableMapper.Proofs.Model.Derived

/-!
# Reading a record by its columns

A model asks a record for the columns of its schema and for nothing else, so the order of the
entries and whatever else they hold make no difference. The first field whose column does not say
what the field can read decides, the key before the others in the order of declaration.
-/

namespace TableMapper

namespace Record

variable {r : Record} {name : String} {v : Value}

theorem get?_eq_some_iff : r.get? name = some v ↔ (name, v) ∈ r.entries := by
  rw [get?, Option.map_eq_some_iff]
  constructor
  · rintro ⟨⟨name', v⟩, hfound, rfl⟩
    obtain ⟨hmem, rfl⟩ := (find?_key_iff r.distinct name _).1 hfound
    exact hmem
  · intro hmem
    exact ⟨(name, v), (find?_key_iff r.distinct name _).2 ⟨hmem, rfl⟩, rfl⟩

/-- What a record says of a column: the value of its entry, and NULL if it has none. -/
inductive Says (r : Record) (column : String) : Value → Prop
  | entry {v : Value} (h : (column, v) ∈ r.entries) : Says r column v
  | missing (h : column ∉ r.keys) : Says r column .null

theorem says_iff : r.Says name v ↔ r.get name = v := by
  constructor
  · intro h
    cases h with
    | entry h => exact get_of_mem h
    | missing h =>
      cases hget : r.get? name with
      | none => rw [get, hget, Option.getD_none]
      | some v => exact absurd (List.mem_map_of_mem (get?_eq_some_iff.1 hget)) h
  · rintro rfl
    cases hget : r.get? name with
    | none =>
      rw [get, hget, Option.getD_none]
      apply Says.missing
      intro hmem
      obtain ⟨⟨name', v⟩, hentry, rfl⟩ := List.mem_map.1 hmem
      cases (get?_eq_some_iff.2 hentry).symm.trans hget
    | some v =>
      rw [get, hget, Option.getD_some]
      exact .entry (get?_eq_some_iff.1 hget)

theorem decode_eq_ok {t : FieldType} {a : t.Carrier} :
    r.decode t name = .ok a ↔ ∃ v, r.Says name v ∧ t.ofValue v = .ok a := by
  rw [decode, mapError_eq_ok]
  constructor
  · intro h
    exact ⟨r.get name, says_iff.2 rfl, h⟩
  · rintro ⟨v, hv, h⟩
    rw [says_iff] at hv
    exact hv ▸ h

theorem decode_eq_error {t : FieldType} {e : Error} :
    r.decode t name = .error e ↔ ∃ v fault, r.Says name v ∧ t.ofValue v = .error fault ∧
      e = .decode name fault.message := by
  rw [decode, mapError_eq_error]
  constructor
  · rintro ⟨fault, hfault, rfl⟩
    exact ⟨r.get name, fault, says_iff.2 rfl, hfault, rfl⟩
  · rintro ⟨v, fault, hv, hfault, rfl⟩
    rw [says_iff] at hv
    exact ⟨fault, hv ▸ hfault, rfl⟩

end Record

namespace Model

variable {m : Model}

/-- What a record is read as: an instance whose every field has read what the record says of its
column, or the error of the first field that cannot read it, which names the column. -/
inductive RecordReadsAs (m : Model) (r : Record) : Except Error (Instance m) → Prop
  | whole {x : Instance m}
      (h : ∀ i, ∃ v, r.Says (m.columnOf i) v ∧ (m.typeOf i).ofValue v = .ok (x.get i)) :
      RecordReadsAs m r (.ok x)
  | mismatch {front back : List m.Field} {i : m.Field} {v : Value} {fault : Mismatch}
      (hfields : m.key :: m.others = front ++ i :: back)
      (hfront : ∀ i' ∈ front, ∃ v' a, r.Says (m.columnOf i') v' ∧ (m.typeOf i').ofValue v' = .ok a)
      (hv : r.Says (m.columnOf i) v) (hfault : (m.typeOf i).ofValue v = .error fault) :
      RecordReadsAs m r (.error (.decode (m.columnOf i) fault.message))

theorem readFields_congr {r r' : Record} {entries : List (m.Field × String)}
    (h : ∀ e ∈ entries, r.get e.2 = r'.get e.2) :
    m.readFields r entries = m.readFields r' entries := by
  induction entries with
  | nil => rfl
  | cons e entries ih =>
    have he := h e List.mem_cons_self
    have hrest := ih fun e' he' => h e' (List.mem_cons_of_mem e he')
    rw [readFields, readFields, Record.decode, Record.decode, he, hrest]

theorem ofRecord_congr {r r' : Record} (h : ∀ e ∈ m.read, r.get e.2 = r'.get e.2) :
    m.ofRecord r = m.ofRecord r' := by
  rw [ofRecord, ofRecord, readFields_congr h]

theorem readFields_of_first {r : Record} {entries front back : List (m.Field × String)}
    {i : m.Field} {column : String} {e : Error}
    (hsplit : entries = front ++ (i, column) :: back)
    (hfront : ∀ entry ∈ front, ∃ a, r.decode (m.typeOf entry.1) entry.2 = .ok a)
    (hi : r.decode (m.typeOf i) column = .error e) : m.readFields r entries = .error e := by
  subst hsplit
  induction front with
  | nil => rw [List.nil_append, readFields, hi, error_bind]
  | cons entry front ih =>
    obtain ⟨a, ha⟩ := hfront entry List.mem_cons_self
    have hrest := ih fun entry' hmem => hfront entry' (List.mem_cons_of_mem entry hmem)
    rw [List.cons_append, readFields, ha, ok_bind, hrest, error_bind]

namespace Aligned

variable (h : m.Aligned)

include h

theorem column_of_mem_read {e : m.Field × String} (he : e ∈ m.read) : e.2 ∈ m.columnNames := by
  rw [h.read] at he
  obtain ⟨i, hi, rfl⟩ := List.mem_map.1 he
  rw [h.columnNames]
  exact List.mem_map_of_mem hi

theorem read_eq : m.read = (m.key :: m.others).map fun i => (i, m.columnOf i) := by
  rw [h.read, h.written]

theorem ofRecord_eq {r r' : Record}
    (hcolumns : ∀ c ∈ m.columnNames, ∃ v, r.Says c v ∧ r'.Says c v) :
    m.ofRecord r = m.ofRecord r' := by
  apply ofRecord_congr
  intro e he
  obtain ⟨v, hv, hv'⟩ := hcolumns e.2 (h.column_of_mem_read he)
  rw [Record.says_iff.1 hv, Record.says_iff.1 hv']

theorem recordReadsAs_of_all {r : Record}
    (hall : ∀ i, ∃ a, r.decode (m.typeOf i) (m.columnOf i) = .ok a) :
    m.RecordReadsAs r (m.ofRecord r) := by
  choose get hget using hall
  have hrecord : m.ofRecord r = .ok ⟨get⟩ := by
    apply ofRecord_ok
    intro e he
    rw [h.read_eq] at he
    obtain ⟨i, -, rfl⟩ := List.mem_map.1 he
    exact hget i
  rw [hrecord]
  apply RecordReadsAs.whole
  intro i
  exact Record.decode_eq_ok.1 (hget i)

theorem recordReadsAs_of_first {r : Record} {front back : List m.Field} {i : m.Field} {e : Error}
    (hfields : m.key :: m.others = front ++ i :: back)
    (hfront : ∀ i' ∈ front, ∃ a, r.decode (m.typeOf i') (m.columnOf i') = .ok a)
    (he : r.decode (m.typeOf i) (m.columnOf i) = .error e) :
    m.RecordReadsAs r (m.ofRecord r) := by
  have hrecord : m.ofRecord r = .error e := by
    have hentries : ∀ entry ∈ front.map fun i => (i, m.columnOf i),
        ∃ a, r.decode (m.typeOf entry.1) entry.2 = .ok a := by
      intro entry hentry
      obtain ⟨i', hi', rfl⟩ := List.mem_map.1 hentry
      exact hfront i' hi'
    have hread : m.read = (front.map fun i => (i, m.columnOf i)) ++
        (i, m.columnOf i) :: back.map fun i => (i, m.columnOf i) := by
      rw [h.read_eq, hfields, List.map_append, List.map_cons]
    rw [ofRecord, readFields_of_first hread hentries he, map_error]
  obtain ⟨v, fault, hv, hfault, rfl⟩ := Record.decode_eq_error.1 he
  rw [hrecord]
  refine .mismatch hfields ?_ hv hfault
  intro i' hi'
  obtain ⟨a, ha⟩ := hfront i' hi'
  obtain ⟨v', hv', ha⟩ := Record.decode_eq_ok.1 ha
  exact ⟨v', a, hv', ha⟩

theorem recordReadsAs (r : Record) : m.RecordReadsAs r (m.ofRecord r) := by
  rcases all_or_first (fun i => ∃ a, r.decode (m.typeOf i) (m.columnOf i) = .ok a)
    (m.key :: m.others) with hall | ⟨front, i, back, hfields, hfront, hi⟩
  · exact h.recordReadsAs_of_all fun i => hall i (h.written ▸ h.mem_written i)
  · cases he : r.decode (m.typeOf i) (m.columnOf i) with
    | ok a => exact absurd ⟨a, he⟩ hi
    | error e => exact h.recordReadsAs_of_first hfields hfront he

end Aligned

open Declaration (Item)

/-- Records that say the same of every column of the schema, where a missing column says NULL, are
read as the same instance or fail with the same error, whatever else they hold and in whatever
order. Reading fails with the error of the first field that cannot read what is said of its column,
first the key and then the others in the order of declaration. -/
theorem columns_alone_read {typeOf? : String → Option FieldType} {d : Item}
    (hm : d.model? typeOf? = some m) (hd : (d.shape.named.map Prod.fst).Nodup) :
    (∀ r r' : Record, (∀ c ∈ m.columnNames, ∃ v, r.Says c v ∧ r'.Says c v) →
      m.ofRecord r = m.ofRecord r') ∧
    ∀ r, m.RecordReadsAs r (m.ofRecord r) := by
  have h : m.Aligned := aligned_of_model? hm hd
  constructor
  · intro r r' hcolumns
    exact h.ofRecord_eq hcolumns
  · intro r
    exact h.recordReadsAs r

theorem columns_alone_read_reordered :
    let r : Record := .ofPairs [("junk", .bool true), ("taken", .int 5)]
    let r' : Record := .ofPairs [("taken", .int 5), ("note", .null), ("level", .null), ("id", .null)]
    measurement.model? measurementTypes = some measurementModel ∧
      (measurement.shape.named.map Prod.fst).Nodup ∧
      (∀ c ∈ measurementModel.columnNames, ∃ v, r.Says c v ∧ r'.Says c v) ∧
      measurementModel.ofRecord r = measurementModel.ofRecord r' ∧
      measurementModel.RecordReadsAs r (.error (.decode "level" "expected float, got NULL")) := by
  intro r r'
  have hd : (measurement.shape.named.map Prod.fst).Nodup := by decide +kernel
  obtain ⟨hsame, hread⟩ := columns_alone_read measurement_model? hd
  have hcolumns : ∀ c ∈ measurementModel.columnNames, ∃ v, r.Says c v ∧ r'.Says c v := by
    intro c hc
    have hnames : measurementModel.columnNames = ["id", "level", "note", "taken"] := rfl
    simp only [hnames, List.mem_cons, List.not_mem_nil, or_false] at hc
    rcases hc with rfl | rfl | rfl | rfl
    · exact ⟨.null, .missing (by decide), Record.says_iff.2 rfl⟩
    · exact ⟨.null, .missing (by decide), Record.says_iff.2 rfl⟩
    · exact ⟨.null, .missing (by decide), Record.says_iff.2 rfl⟩
    · exact ⟨.int 5, Record.says_iff.2 rfl, Record.says_iff.2 rfl⟩
  have herror : measurementModel.ofRecord r =
      .error (.decode "level" "expected float, got NULL") := by
    rfl
  exact ⟨measurement_model?, hd, hcolumns, hsame r r' hcolumns, herror ▸ hread r⟩

end Model

end TableMapper
