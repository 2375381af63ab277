import TableMapper.Model.Outline
import TableMapper.Proofs.Declaration.Outline
import TableMapper.Proofs.Model.Alignment

/-!
# Derived models are aligned

An outline refers to fields by name. As long as the names are distinct, every name leads back to
the field it was taken from, and the lists of the outline become aligned lists of positions.
-/

namespace TableMapper

open Declaration (MarkedField Outline Item Accepted)

/-- A list of fields with types, in which every field is a marked one whose type is known. -/
structure Resolved (typeOf? : String → Option FieldType) (fs : List MarkedField)
    (fields : List (String × FieldType)) (marked : Fin fields.length → MarkedField) : Prop where
  all : fs = (List.finRange fields.length).map marked
  name : ∀ i, (marked i).name = (fields.get i).1
  type : ∀ i, typeOf? (marked i).type = some (fields.get i).2

theorem resolved_of_resolveFields? {typeOf? : String → Option FieldType} {fs : List MarkedField}
    {fields : List (String × FieldType)}
    (h : resolveFields? typeOf? (fs.map fun f => (f.name, f.type)) = some fields) :
    ∃ marked, Resolved typeOf? fs fields marked := by
  induction fs generalizing fields with
  | nil =>
    cases h
    exact ⟨fun i => i.elim0, rfl, fun i => i.elim0, fun i => i.elim0⟩
  | cons f fs ih =>
    rw [List.map_cons, resolveFields?] at h
    obtain ⟨t, ht, h⟩ := Option.bind_eq_some_iff.1 h
    obtain ⟨ts, hts, h⟩ := Option.bind_eq_some_iff.1 h
    cases h
    obtain ⟨marked, hmarked⟩ := ih hts
    have hrange : List.finRange ((f.name, t) :: ts).length =
        0 :: (List.finRange ts.length).map Fin.succ := List.finRange_succ
    refine ⟨Fin.cases f marked, ?_, ?_, ?_⟩
    · rw [hrange, List.map_cons, List.map_map]
      exact congrArg (f :: ·) hmarked.all
    · intro i
      refine Fin.cases ?_ (fun i => ?_) i
      · rfl
      · exact hmarked.name i
    · intro i
      refine Fin.cases ?_ (fun i => ?_) i
      · exact ht
      · exact hmarked.type i

section Positions

variable {fields : List (String × FieldType)} (hd : (fields.map Prod.fst).Nodup)

include hd

theorem name_inj {i j : Fin fields.length} (h : (fields.get i).1 = (fields.get j).1) : i = j := by
  have hi : i.val < (fields.map Prod.fst).length := by simp
  have hj : j.val < (fields.map Prod.fst).length := by simp
  have hnames : (fields.map Prod.fst)[i.val] = (fields.map Prod.fst)[j.val] := by
    simpa using h
  exact Fin.ext ((List.getElem_inj hd).1 hnames)

theorem fieldPosition?_name (i : Fin fields.length) :
    fieldPosition? fields (fields.get i).1 = some i := by
  rw [fieldPosition?, List.findFinIdx?_eq_some_iff]
  constructor
  · simp
  · intro j hj hname
    have he : j = i := name_inj hd (by simpa using hname)
    omega

end Positions

theorem name_of_fieldPosition? {fields : List (String × FieldType)} {name : String}
    {i : Fin fields.length} (h : fieldPosition? fields name = some i) : (fields.get i).1 = name := by
  rw [fieldPosition?, List.findFinIdx?_eq_some_iff] at h
  simpa using h.1

structure Derives (typeOf? : String → Option FieldType) (o : Outline)
    (declared : List (String × String)) (m : Model) : Prop where
  fields : resolveFields? typeOf? declared = some m.fields
  key : fieldPosition? m.fields o.key = some m.key
  schema : ∃ columns, o.columns.mapM (·.descriptor? typeOf?) = some columns ∧
    m.schema = .id :: columns
  written : o.values.mapM (fieldPosition? m.fields) = some m.written
  read : o.decode.mapM (fun e => (fieldPosition? m.fields e.1).map (·, e.2)) = some m.read
  checks : o.validators.mapM (fun v =>
    (fieldPosition? m.fields v.field).map fun i => (⟨v.name, i, v.rule⟩ : FieldCheck _)) =
      some m.checks

theorem derives_of_model? {typeOf? : String → Option FieldType} {o : Outline}
    {declared : List (String × String)} {m : Model} (h : o.model? typeOf? declared = some m) :
    Derives typeOf? o declared m := by
  rw [Outline.model?] at h
  obtain ⟨fields, hfields, h⟩ := Option.bind_eq_some_iff.1 h
  obtain ⟨columns, hcolumns, h⟩ := Option.bind_eq_some_iff.1 h
  obtain ⟨key, hkey, h⟩ := Option.bind_eq_some_iff.1 h
  obtain ⟨written, hwritten, h⟩ := Option.bind_eq_some_iff.1 h
  obtain ⟨read, hread, h⟩ := Option.bind_eq_some_iff.1 h
  obtain ⟨shown, -, h⟩ := Option.bind_eq_some_iff.1 h
  obtain ⟨checks, hchecks, h⟩ := Option.bind_eq_some_iff.1 h
  split at h
  · cases h
    exact ⟨hfields, hkey, ⟨columns, hcolumns, rfl⟩, hwritten, hread, hchecks⟩
  · cases h

namespace Resolved

variable {typeOf? : String → Option FieldType} {fs : List MarkedField}
  {fields : List (String × FieldType)} {marked : Fin fields.length → MarkedField}
  (h : Resolved typeOf? fs fields marked)

include h

theorem names : fs.map (·.name) = fields.map Prod.fst := by
  have hmarked : fs.map (·.name) = (List.finRange fields.length).map fun i => (fields.get i).1 := by
    rw [h.all, List.map_map]
    exact List.map_congr_left fun i _ => h.name i
  rw [hmarked]
  apply List.ext_getElem
  · simp
  · intro i hi hi'
    simp

theorem mem (i : Fin fields.length) : marked i ∈ fs := by
  rw [h.all]
  exact List.mem_map_of_mem (List.mem_finRange i)

theorem filter_ne_key (hd : (fs.map (·.name)).Nodup) (key : Fin fields.length) :
    fs.filter (·.name ≠ (fields.get key).1) =
      ((List.finRange fields.length).filter (· ≠ key)).map marked := by
  rw [h.names] at hd
  rw [h.all, List.filter_map]
  congr 1
  apply List.filter_congr
  intro i hi
  rw [Function.comp, h.name i, decide_eq_decide]
  constructor
  · rintro hne rfl
    exact hne rfl
  · intro hne he
    exact hne (name_inj hd he)

end Resolved

section Derived

variable {typeOf? : String → Option FieldType} {d : Item} {o : Outline}
  {declared : List Declaration.DeclaredField} {fs : List MarkedField} {m : Model}
  {marked : m.Field → MarkedField} (ha : Accepted d o declared fs)
  (hm : Derives typeOf? o (fs.map fun f => (f.name, f.type)) m)
  (hr : Resolved typeOf? fs m.fields marked)

theorem descriptor?_marked (hr : Resolved typeOf? fs m.fields marked) (i : m.Field) :
    (marked i).column.descriptor? typeOf? =
      some ((m.typeOf i).column (m.nameOf i) (marked i).mark.blank) := by
  have htype : typeOf? (marked i).type = some (m.typeOf i) := hr.type i
  have hname : (marked i).name = m.nameOf i := hr.name i
  rw [Declaration.Column.descriptor?, MarkedField.column, htype, hname]
  rfl

variable (hd : (fs.map (·.name)).Nodup)

include hr hd

theorem fieldPosition?_nameOf (i : m.Field) : fieldPosition? m.fields (m.nameOf i) = some i := by
  rw [hr.names] at hd
  exact fieldPosition?_name hd i

include hm

theorem filter_eq_others : fs.filter (·.name ≠ o.key) = m.others.map marked := by
  have hkey : (m.fields.get m.key).1 = o.key := name_of_fieldPosition? hm.key
  rw [← hkey]
  exact hr.filter_ne_key hd m.key

theorem names_others : (fs.filter (·.name ≠ o.key)).map (·.name) = m.others.map m.nameOf := by
  rw [filter_eq_others hm hr hd, List.map_map]
  exact List.map_congr_left fun i _ => hr.name i

include ha

theorem schema_derived :
    m.schema = .id :: m.others.map fun i =>
      (m.typeOf i).column (m.nameOf i) (marked i).mark.blank := by
  obtain ⟨columns, hcolumns, hschema⟩ := hm.schema
  have hmapM : o.columns.mapM (·.descriptor? typeOf?) = some (m.others.map fun i =>
      (m.typeOf i).column (m.nameOf i) (marked i).mark.blank) := by
    rw [ha.columns, filter_eq_others hm hr hd, List.map_map]
    exact mapM_map_some fun i _ => descriptor?_marked hr i
  rw [hmapM] at hcolumns
  cases hcolumns
  exact hschema

theorem written_derived : m.written = m.key :: m.others := by
  have hkey : m.nameOf m.key = o.key := name_of_fieldPosition? hm.key
  have hwritten := hm.written
  have hvalues : o.values = (m.key :: m.others).map m.nameOf := by
    rw [ha.values, names_others hm hr hd, List.map_cons, hkey]
  have hmapM : o.values.mapM (fieldPosition? m.fields) = some ((m.key :: m.others).map id) := by
    rw [hvalues]
    exact mapM_map_some fun i _ => fieldPosition?_nameOf hr hd i
  rw [hmapM, List.map_id] at hwritten
  exact (Option.some.inj hwritten).symm

theorem read_derived : m.read = (m.key :: m.others).map fun i => (i, m.columnOf i) := by
  have hkey : m.nameOf m.key = o.key := name_of_fieldPosition? hm.key
  have hread := hm.read
  have hnames : (fs.filter (·.name ≠ o.key)).map (fun f => (f.name, f.name)) =
      m.others.map fun i => (m.nameOf i, m.columnOf i) := by
    rw [filter_eq_others hm hr hd, List.map_map]
    apply List.map_congr_left
    intro i hi
    have hname : (marked i).name = m.nameOf i := hr.name i
    rw [Function.comp, hname, Model.columnOf_of_ne (Model.mem_others.1 hi)]
  have hdecode : o.decode = (m.key :: m.others).map fun i => (m.nameOf i, m.columnOf i) := by
    rw [ha.decode, hnames, List.map_cons, hkey, Model.columnOf_key]
  have hmapM : o.decode.mapM (fun e => (fieldPosition? m.fields e.1).map (·, e.2)) =
      some ((m.key :: m.others).map fun i => (i, m.columnOf i)) := by
    rw [hdecode]
    apply mapM_map_some
    intro i hi
    rw [fieldPosition?_nameOf hr hd i]
    rfl
  rw [hmapM] at hread
  exact (Option.some.inj hread).symm

theorem checks_derived : m.checks = m.others.map fun i =>
    ⟨"valid_" ++ Declaration.plainName (m.nameOf i), i,
      if (marked i).mark.blank then .always else .nonEmpty⟩ := by
  have hchecks := hm.checks
  have hvalidators : o.validators = m.others.map fun i => (marked i).validator := by
    rw [ha.validators, filter_eq_others hm hr hd, List.map_map]
    rfl
  have hmapM : o.validators.mapM (fun v =>
      (fieldPosition? m.fields v.field).map fun i => (⟨v.name, i, v.rule⟩ : FieldCheck _)) =
        some (m.others.map fun i => ⟨"valid_" ++ Declaration.plainName (m.nameOf i), i,
          if (marked i).mark.blank then .always else .nonEmpty⟩) := by
    rw [hvalidators]
    apply mapM_map_some
    intro i hi
    have hname : (marked i).name = m.nameOf i := hr.name i
    rw [MarkedField.validator, hname, fieldPosition?_nameOf hr hd i]
    rfl
  rw [hmapM] at hchecks
  exact (Option.some.inj hchecks).symm

theorem columnNames_derived : m.columnNames = "id" :: m.others.map m.nameOf := by
  rw [Model.columnNames, schema_derived ha hm hr hd, List.map_cons, List.map_map]
  rfl

theorem aligned_of_derives : m.Aligned := by
  have hschema := schema_derived ha hm hr hd
  have hwritten := written_derived ha hm hr hd
  refine ⟨⟨fun i => (marked i).mark.blank, hschema⟩, hwritten, ?_, ?_⟩
  · rw [hwritten]
    exact read_derived ha hm hr hd
  · rw [columnNames_derived ha hm hr hd, ← names_others hm hr hd]
    exact ha.nodup_others hd

end Derived

theorem named_of_accepted {d : Item} {o : Outline} {declared : List Declaration.DeclaredField}
    {fs : List MarkedField} (ha : Accepted d o declared fs) :
    d.shape.named = fs.map fun f => (f.name, f.type) := by
  rw [ha.shape, ha.marked, Declaration.Shape.named]

theorem nodup_of_named {fs : List MarkedField}
    (h : ((fs.map fun f => (f.name, f.type)).map Prod.fst).Nodup) :
    (fs.map (·.name)).Nodup := by
  rwa [List.map_map] at h

theorem exists_derives {typeOf? : String → Option FieldType} {d : Item} {m : Model}
    (h : d.model? typeOf? = some m) :
    ∃ (o : Outline) (declared : List Declaration.DeclaredField) (fs : List MarkedField)
      (marked : m.Field → MarkedField), Accepted d o declared fs ∧
        Derives typeOf? o (fs.map fun f => (f.name, f.type)) m ∧
        Resolved typeOf? fs m.fields marked := by
  rw [Item.model?] at h
  cases ho : d.outline with
  | error e => simp [ho] at h
  | ok o =>
    simp only [ho] at h
    obtain ⟨declared, fs, ha⟩ := Declaration.accepted_of_outline ho
    rw [named_of_accepted ha] at h
    have hm := derives_of_model? h
    obtain ⟨marked, hr⟩ := resolved_of_resolveFields? hm.fields
    exact ⟨o, declared, fs, marked, ha, hm, hr⟩

/-- Every model of a declaration whose fields have distinct names is aligned. -/
theorem aligned_of_model? {typeOf? : String → Option FieldType} {d : Item} {m : Model}
    (h : d.model? typeOf? = some m) (hd : (d.shape.named.map Prod.fst).Nodup) : m.Aligned := by
  obtain ⟨o, declared, fs, marked, ha, hm, hr⟩ := exists_derives h
  rw [named_of_accepted ha] at hd
  exact aligned_of_derives ha hm hr (nodup_of_named hd)

def measurementTypes (type : String) : Option FieldType :=
  [("Option<i64>", .key), ("f64", ⟨.float, false⟩), ("Option<String>", ⟨.text, true⟩),
    ("NaiveDateTime", ⟨.timestamp, false⟩)].lookup type

def measurementFields : List Declaration.DeclaredField := [
  ⟨"level", [.ident "f64"], []⟩,
  ⟨"serial", [.ident "Option", .punct '<' false, .ident "i64", .punct '>' false],
    [[.ident "orm", .group .round [.ident "id"]]]⟩,
  ⟨"note", [.ident "Option", .punct '<' false, .ident "String", .punct '>' false], []⟩,
  ⟨"taken", [.ident "NaiveDateTime"], []⟩]

/-- A declaration whose key has another name and stands in the middle. -/
def measurement : Item where
  name := "Measurement"
  shape := .fields measurementFields

def measurementOutline : Outline where
  name := "Measurement"
  table := "measurement"
  key := "serial"
  columns := [⟨"level", "f64", true⟩, ⟨"note", "Option<String>", true⟩,
    ⟨"taken", "NaiveDateTime", true⟩]
  values := ["serial", "level", "note", "taken"]
  decode := [("serial", "id"), ("level", "level"), ("note", "note"), ("taken", "taken")]
  display := none
  validators := [⟨"valid_level", "level", .always⟩, ⟨"valid_note", "note", .always⟩,
    ⟨"valid_taken", "taken", .always⟩]

theorem measurement_outline : measurement.outline = .ok measurementOutline := by
  rfl

def measurementModel : Model where
  name := "Measurement"
  table := "measurement"
  fields := [("level", ⟨.float, false⟩), ("serial", .key), ("note", ⟨.text, true⟩),
    ("taken", ⟨.timestamp, false⟩)]
  schema := [.id, ⟨"level", .float, false, true, false⟩, ⟨"note", .text, true, true, false⟩,
    ⟨"taken", .dateTime, false, true, false⟩]
  key := 1
  keyType := rfl
  written := [1, 0, 2, 3]
  read := [(1, "id"), (0, "level"), (2, "note"), (3, "taken")]
  complete := by decide
  shown := none
  checks := [⟨"valid_level", 0, .always⟩, ⟨"valid_note", 2, .always⟩, ⟨"valid_taken", 3, .always⟩]

theorem measurement_model? : measurement.model? measurementTypes = some measurementModel := by
  rfl

end TableMapper
