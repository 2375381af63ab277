import TableMapper.Proofs.Model.Derived

/-!
# Derived models are faithful

An accepted declaration whose types are known has a model, and in it no column is shifted, lost or
written twice: an instance is read back from its own record.
-/

namespace TableMapper

open Declaration (MarkedField DeclaredField Outline Item Accepted)

theorem exists_resolveFields? {typeOf? : String → Option FieldType} {fs : List MarkedField}
    (h : ∀ f ∈ fs, ∃ t, typeOf? f.type = some t) :
    ∃ fields, resolveFields? typeOf? (fs.map fun f => (f.name, f.type)) = some fields := by
  induction fs with
  | nil => exact ⟨[], rfl⟩
  | cons f fs ih =>
    obtain ⟨t, ht⟩ := h f List.mem_cons_self
    obtain ⟨ts, hts⟩ := ih fun f' hf => h f' (List.mem_cons_of_mem f hf)
    refine ⟨(f.name, t) :: ts, ?_⟩
    rw [List.map_cons, resolveFields?, ht, hts]
    rfl

theorem exists_fieldPosition? {fields : List (String × FieldType)} {name : String}
    (h : name ∈ fields.map Prod.fst) : ∃ i, fieldPosition? fields name = some i := by
  cases hi : fieldPosition? fields name with
  | some i => exact ⟨i, rfl⟩
  | none =>
    obtain ⟨field, hfield, rfl⟩ := List.mem_map.1 h
    have hnone := List.findFinIdx?_eq_none_iff.1 hi field hfield
    simp at hnone

section Positions

variable {α β : Type} {fields : List (String × FieldType)}

theorem exists_positions {as : List α} {name : α → String} (g : α → Fin fields.length → β)
    (h : ∀ a ∈ as, name a ∈ fields.map Prod.fst) :
    ∃ bs, as.mapM (fun a => (fieldPosition? fields (name a)).map (g a)) = some bs := by
  apply exists_mapM
  intro a ha
  obtain ⟨i, hi⟩ := exists_fieldPosition? (h a ha)
  exact ⟨g a i, by rw [hi]; rfl⟩

theorem exists_shownPosition? {display : Option String}
    (h : ∀ target, display = some target → target ∈ fields.map Prod.fst) :
    ∃ shown, shownPosition? fields display = some shown := by
  cases display with
  | none => exact ⟨none, rfl⟩
  | some target =>
    obtain ⟨i, hi⟩ := exists_fieldPosition? (h target rfl)
    exact ⟨some i, by rw [shownPosition?, hi]; rfl⟩

end Positions

section Existence

variable {typeOf? : String → Option FieldType} {d : Item} {o : Outline}
  {declared : List DeclaredField} {fs : List MarkedField}

theorem exists_descriptors (ha : Accepted d o declared fs)
    (htypes : ∀ f ∈ fs, ∃ t, typeOf? f.type = some t) :
    ∃ columns, o.columns.mapM (·.descriptor? typeOf?) = some columns := by
  apply exists_mapM
  intro c hc
  rw [ha.columns] at hc
  obtain ⟨f, hf, rfl⟩ := List.mem_map.1 hc
  obtain ⟨t, ht⟩ := htypes f (List.mem_filter.1 hf).1
  refine ⟨t.column f.name f.mark.blank, ?_⟩
  rw [Declaration.Column.descriptor?, MarkedField.column, ht]
  rfl

section Resolved

variable {fields : List (String × FieldType)} {marked : Fin fields.length → MarkedField}
  (hr : Resolved typeOf? fs fields marked)

include hr

theorem keyType_of_position {key : Fin fields.length}
    (hkey : fieldPosition? fields o.key = some key)
    (htype : ∀ f ∈ fs, f.name = o.key → typeOf? f.type = some .key) :
    (fields.get key).2 = .key := by
  have hname : (marked key).name = o.key := (hr.name key).trans (name_of_fieldPosition? hkey)
  have hmarked := htype (marked key) (hr.mem key) hname
  rw [hr.type key] at hmarked
  exact Option.some.inj hmarked

theorem read_complete (ha : Accepted d o declared fs) (hd : (fs.map (·.name)).Nodup)
    {read : List (Fin fields.length × String)}
    (hread : o.decode.mapM (fun e => (fieldPosition? fields e.1).map (·, e.2)) = some read)
    (i : Fin fields.length) : i ∈ read.map Prod.fst := by
  obtain ⟨e, he, hname⟩ := ha.exists_decode (hr.mem i)
  have hi : fieldPosition? fields e.1 = some i := by
    rw [hname, hr.name i]
    exact fieldPosition?_name (hr.names ▸ hd) i
  have hmem : (i, e.2) ∈ read := mem_of_mapM hread he (by rw [hi]; rfl)
  exact List.mem_map_of_mem hmem

end Resolved

/-- Once the types are known and the key has the type of a key, an accepted outline has a model. -/
theorem exists_model? (ha : Accepted d o declared fs)
    (htypes : ∀ f ∈ fs, ∃ t, typeOf? f.type = some t)
    (hkey : ∀ f ∈ fs, f.name = o.key → typeOf? f.type = some .key)
    (hd : (fs.map (·.name)).Nodup) :
    ∃ m, o.model? typeOf? (fs.map fun f => (f.name, f.type)) = some m := by
  obtain ⟨fields, hfields⟩ := exists_resolveFields? htypes
  obtain ⟨marked, hr⟩ := resolved_of_resolveFields? hfields
  obtain ⟨key, hposition⟩ := exists_fieldPosition? (hr.names ▸ ha.key_mem)
  obtain ⟨columns, hcolumns⟩ := exists_descriptors ha htypes
  obtain ⟨written, hwritten⟩ : ∃ written, o.values.mapM (fieldPosition? fields) = some written :=
    exists_mapM fun name hname => exists_fieldPosition? (hr.names ▸ ha.values_mem hname)
  obtain ⟨read, hread⟩ : ∃ read, o.decode.mapM
      (fun e => (fieldPosition? fields e.1).map (·, e.2)) = some read :=
    exists_positions _ fun e he => hr.names ▸ ha.decode_mem he
  obtain ⟨shown, hshown⟩ := exists_shownPosition? fun target ht => hr.names ▸ ha.display_mem ht
  obtain ⟨checks, hchecks⟩ := exists_positions
    (fun v i => (⟨v.name, i, v.rule⟩ : FieldCheck fields.length))
    fun v hv => hr.names ▸ ha.validators_mem hv
  rw [Outline.model?]
  simp only [hfields, hcolumns, hposition, hwritten, hread, hshown, hchecks,
    Option.bind_eq_bind, Option.bind_some]
  rw [dif_pos ⟨keyType_of_position hr hposition hkey, read_complete hr ha hd hread⟩]
  exact ⟨_, rfl⟩

theorem exists_aligned (ha : Accepted d o declared fs) (ho : d.outline = .ok o)
    (htypes : ∀ f ∈ fs, ∃ t, typeOf? f.type = some t)
    (hkey : ∀ f ∈ fs, f.name = o.key → typeOf? f.type = some .key)
    (hd : (fs.map (·.name)).Nodup) :
    ∃ m, d.model? typeOf? = some m ∧ m.Aligned ∧
      m.columnNames = "id" :: (declared.filter (·.name ≠ o.key)).map (·.name) := by
  obtain ⟨m, hmodel⟩ := exists_model? ha htypes hkey hd
  have hm := derives_of_model? hmodel
  obtain ⟨marked, hr⟩ := resolved_of_resolveFields? hm.fields
  refine ⟨m, ?_, aligned_of_derives ha hm hr hd, ?_⟩
  · rw [Item.model?, ho, named_of_accepted ha]
    exact hmodel
  · rw [columnNames_derived ha hm hr hd, ← names_others hm hr hd, ha.names_others]

end Existence

/-- For every accepted declaration, the schema, the written and the read fields all list the key
first, under the column `id`, and then the other fields under their own names in the order of
declaration; no name of a column stands twice. Where the types are known, there is a model with
these columns, and every instance of it is read back from its own record, whose names are those of
the schema in order. -/
theorem derived_faithful {d : Item} {declared : List DeclaredField} {o : Outline}
    (hshape : d.shape = .fields declared) (hd : (declared.map (·.name)).Nodup)
    (ho : d.outline = .ok o) :
    let others := declared.filter (·.name ≠ o.key)
    o.key ∈ declared.map (·.name) ∧ others.length + 1 = declared.length ∧
      o.columns.map (fun c => (c.name, c.type)) =
        others.map (fun f => (f.name, Declaration.typeText f.type)) ∧
      o.values = o.key :: others.map (·.name) ∧
      o.decode = (o.key, "id") :: others.map (fun f => (f.name, f.name)) ∧
      ("id" :: others.map (·.name)).Nodup ∧
      ∀ typeOf? : String → Option FieldType,
        (∀ f ∈ declared, ∃ t, typeOf? (Declaration.typeText f.type) = some t) →
        (∀ f ∈ declared, f.name = o.key →
          typeOf? (Declaration.typeText f.type) = some .key) →
        ∃ m, d.model? typeOf? = some m ∧ m.Aligned ∧ m.schema.length = declared.length ∧
          m.written.length = declared.length ∧ m.read.length = declared.length ∧
          m.columnNames = "id" :: others.map (·.name) ∧
          ∀ x : Instance m, m.ofRecord x.toRecord = .ok x ∧ x.toRecord.keys = m.columnNames := by
  intro others
  obtain ⟨declared', fs, ha⟩ := Declaration.accepted_of_outline ho
  -- What was accepted are the very fields that were declared.
  have hsame : declared' = declared := by
    have hshapes := ha.shape.symm.trans hshape
    cases hshapes
    rfl
  subst hsame
  have hdfs : (fs.map (·.name)).Nodup := ha.names ▸ hd
  refine ⟨ha.names ▸ ha.key_mem, ha.length_others hd, ?_, ?_, ?_, ?_, ?_⟩
  · rw [ha.columns, List.map_map]
    exact ha.others
  · rw [ha.values, ha.names_others]
  · have hdecode := congrArg (List.map fun name => (name, name)) ha.names_others
    rw [List.map_map, List.map_map] at hdecode
    rw [ha.decode]
    exact congrArg ((o.key, "id") :: ·) hdecode
  · rw [← ha.names_others]
    exact ha.nodup_others hdfs
  · intro typeOf? htypes hkey
    obtain ⟨m, hmodel, haligned, hcolumns⟩ := exists_aligned ha ho
      (ha.forall_marked (P := fun _ type => ∃ t, typeOf? type = some t) htypes)
      (ha.forall_marked (P := fun name type => name = o.key → typeOf? type = some .key) hkey) hdfs
    have hlength : m.columnNames.length = declared'.length := by
      rw [hcolumns, List.length_cons, List.length_map, ha.length_others hd]
    obtain ⟨hschema, hwritten, hread⟩ := haligned.lengths
    refine ⟨m, hmodel, haligned, hschema.trans hlength, hwritten.trans hlength,
      hread.trans hlength, hcolumns, ?_⟩
    intro x
    exact ⟨x.ofRecord_toRecord haligned, x.keys_toRecord haligned⟩

theorem derived_faithful_measurement :
    (measurementFields.map (·.name)).Nodup ∧ measurement.outline = .ok measurementOutline ∧
      measurementOutline.decode =
        [("serial", "id"), ("level", "level"), ("note", "note"), ("taken", "taken")] ∧
      ∃ m, measurement.model? measurementTypes = some m ∧ m.written.length = 4 ∧
        m.columnNames = ["id", "level", "note", "taken"] ∧
        ∀ x : Instance m, m.ofRecord x.toRecord = .ok x ∧ x.toRecord.keys = m.columnNames := by
  have hd : (measurementFields.map (·.name)).Nodup := by decide +kernel
  obtain ⟨-, -, -, -, hdecode, -, hmodels⟩ := derived_faithful rfl hd measurement_outline
  have htypes : ∀ f ∈ measurementFields,
      ∃ t, measurementTypes (Declaration.typeText f.type) = some t := by
    intro f hf
    simp only [measurementFields, List.mem_cons, List.not_mem_nil, or_false] at hf
    rcases hf with rfl | rfl | rfl | rfl <;> exact ⟨_, rfl⟩
  have hkey : ∀ f ∈ measurementFields, f.name = measurementOutline.key →
      measurementTypes (Declaration.typeText f.type) = some .key := by
    intro f hf hname
    simp only [measurementFields, List.mem_cons, List.not_mem_nil, or_false] at hf
    rcases hf with rfl | rfl | rfl | rfl
    · exact absurd hname (by decide)
    · rfl
    · exact absurd hname (by decide)
    · exact absurd hname (by decide)
  obtain ⟨m, hm, -, -, hwritten, -, hnames, hread⟩ := hmodels measurementTypes htypes hkey
  exact ⟨hd, measurement_outline, hdecode, m, hm, hwritten, hnames, hread⟩

end TableMapper
