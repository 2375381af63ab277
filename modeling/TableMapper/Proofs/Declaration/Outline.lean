import TableMapper.Declaration.Outline
import TableMapper.Proofs.Except

/-!
# What an accepted outline holds

The columns, the written and the read fields of an outline all list the same fields: the key first,
and then the others in the order of declaration.
-/

namespace TableMapper.Declaration

/-- Everything that an accepted declaration went through. -/
structure Accepted (d : Item) (o : Outline) (declared : List DeclaredField)
    (fs : List MarkedField) : Prop where
  shape : d.shape = .fields declared
  marks : declared.mapM markField = .ok fs
  key : keyField fs = .ok o.key
  freeId : ∀ f ∈ fs, f.name ≠ o.key → f.name ≠ "id"
  display : checkDisplay (fs.filter (·.name ≠ o.key)) o.display = .ok ()
  columns : o.columns = (fs.filter (·.name ≠ o.key)).map (·.column)
  values : o.values = o.key :: (fs.filter (·.name ≠ o.key)).map (·.name)
  decode : o.decode = (o.key, "id") :: (fs.filter (·.name ≠ o.key)).map fun f => (f.name, f.name)
  validators : o.validators = (fs.filter (·.name ≠ o.key)).map (·.validator)

theorem fields?_eq_ok {shape : Shape} {declared : List DeclaredField}
    (h : shape.fields? = .ok declared) : shape = .fields declared := by
  cases shape with
  | fields fs => cases h; rfl
  | tuple => cases h
  | unit => cases h
  | choice => cases h

theorem marked_of_mapM {declared : List DeclaredField} {fs : List MarkedField}
    (h : declared.mapM markField = .ok fs) :
    fs.map (fun f => (f.name, f.type)) = declared.map fun f => (f.name, typeText f.type) := by
  apply mapM_keeps _ h
  intro f marked hf
  obtain ⟨mark, -, rfl⟩ := map_eq_ok.1 hf
  rfl

theorem accepted_of_outline {d : Item} {o : Outline} (h : d.outline = .ok o) :
    ∃ declared fs, Accepted d o declared fs := by
  rw [Item.outline] at h
  obtain ⟨mark, -, h⟩ := bind_eq_ok.1 h
  obtain ⟨declared, hshape, h⟩ := bind_eq_ok.1 h
  obtain ⟨fs, hmarked, h⟩ := bind_eq_ok.1 h
  obtain ⟨key, hkey, h⟩ := bind_eq_ok.1 h
  simp only at h
  split at h
  · cases h
  · rename_i hid
    obtain ⟨⟨⟩, hdisplay, h⟩ := bind_eq_ok.1 h
    cases h
    refine ⟨declared, fs, fields?_eq_ok hshape, hmarked, hkey, ?_, hdisplay, rfl, rfl, rfl, rfl⟩
    intro f hf hne he
    apply hid
    rw [List.any_eq_true]
    exact ⟨f, List.mem_filter.2 ⟨hf, by simpa using hne⟩, by simpa using he⟩

theorem keyField_mem {fs : List MarkedField} {key : String} (h : keyField fs = .ok key) :
    key ∈ fs.map (·.name) := by
  rw [keyField] at h
  split at h
  · rename_i f hf
    cases h
    have hm : f ∈ fs.filter (·.mark.isKey) := by
      rw [hf]
      exact List.mem_cons_self
    exact List.mem_map_of_mem (List.mem_filter.1 hm).1
  · cases h
  · split at h
    · rename_i hany
      cases h
      obtain ⟨f, hf, he⟩ := List.any_eq_true.1 hany
      exact List.mem_map.2 ⟨f, hf, by simpa using he⟩
    · cases h

namespace Accepted

variable {d : Item} {o : Outline} {declared : List DeclaredField} {fs : List MarkedField}
  (h : Accepted d o declared fs)

include h

theorem marked :
    fs.map (fun f => (f.name, f.type)) = declared.map fun f => (f.name, typeText f.type) :=
  marked_of_mapM h.marks

theorem names : fs.map (·.name) = declared.map (·.name) := by
  have hnames := congrArg (List.map Prod.fst) h.marked
  rwa [List.map_map, List.map_map] at hnames

theorem forall_marked {P : String → String → Prop}
    (hP : ∀ g ∈ declared, P g.name (typeText g.type)) : ∀ f ∈ fs, P f.name f.type := by
  intro f hf
  have hmem : (f.name, f.type) ∈ declared.map fun g => (g.name, typeText g.type) := by
    rw [← h.marked]
    exact List.mem_map.2 ⟨f, hf, rfl⟩
  obtain ⟨g, hg, he⟩ := List.mem_map.1 hmem
  rw [Prod.mk.injEq] at he
  obtain ⟨hname, htype⟩ := he
  rw [← hname, ← htype]
  exact hP g hg

theorem others : (fs.filter (·.name ≠ o.key)).map (fun f => (f.name, f.type)) =
    (declared.filter (·.name ≠ o.key)).map fun f => (f.name, typeText f.type) := by
  have hfiltered := congrArg (List.filter fun e => e.1 ≠ o.key) h.marked
  rwa [List.filter_map, List.filter_map] at hfiltered

theorem names_others : (fs.filter (·.name ≠ o.key)).map (·.name) =
    (declared.filter (·.name ≠ o.key)).map (·.name) := by
  have hnames := congrArg (List.map Prod.fst) h.others
  rwa [List.map_map, List.map_map] at hnames

theorem length_others (hd : (declared.map (·.name)).Nodup) :
    (declared.filter (·.name ≠ o.key)).length + 1 = declared.length := by
  have hkey : o.key ∈ declared.map (·.name) := h.names ▸ keyField_mem h.key
  have herase : (declared.map (·.name)).erase o.key =
      (declared.filter (·.name ≠ o.key)).map (·.name) := by
    rw [hd.erase_eq_filter, List.filter_map]
    congr 1
    apply List.filter_congr
    intro f _
    rw [Function.comp, Bool.eq_iff_iff, bne_iff_ne, decide_eq_true_iff]
  have hlength := List.length_erase_of_mem hkey
  have hpos := List.length_pos_of_mem hkey
  rw [herase, List.length_map, List.length_map] at hlength
  rw [List.length_map] at hpos
  omega

theorem nodup_others (hd : (fs.map (·.name)).Nodup) :
    ("id" :: (fs.filter (·.name ≠ o.key)).map (·.name)).Nodup := by
  rw [List.nodup_cons]
  constructor
  · intro hid
    obtain ⟨f, hf, he⟩ := List.mem_map.1 hid
    obtain ⟨hmem, hne⟩ := List.mem_filter.1 hf
    exact h.freeId f hmem (by simpa using hne) he
  · exact hd.sublist (List.filter_sublist.map _)

theorem key_mem : o.key ∈ fs.map (·.name) := keyField_mem h.key

theorem decode_mem {e : String × String} (he : e ∈ o.decode) : e.1 ∈ fs.map (·.name) := by
  rw [h.decode] at he
  rcases List.mem_cons.1 he with rfl | he
  · exact h.key_mem
  · obtain ⟨f, hf, rfl⟩ := List.mem_map.1 he
    exact List.mem_map_of_mem (List.mem_filter.1 hf).1

theorem values_mem {name : String} (hname : name ∈ o.values) : name ∈ fs.map (·.name) := by
  rw [h.values] at hname
  rcases List.mem_cons.1 hname with rfl | hname
  · exact h.key_mem
  · obtain ⟨f, hf, rfl⟩ := List.mem_map.1 hname
    exact List.mem_map_of_mem (List.mem_filter.1 hf).1

theorem validators_mem {v : Validator} (hv : v ∈ o.validators) : v.field ∈ fs.map (·.name) := by
  rw [h.validators] at hv
  obtain ⟨f, hf, rfl⟩ := List.mem_map.1 hv
  exact List.mem_map_of_mem (List.mem_filter.1 hf).1

theorem display_mem {target : String} (ht : o.display = some target) :
    target ∈ fs.map (·.name) := by
  have hcheck := h.display
  rw [ht, checkDisplay] at hcheck
  split at hcheck
  · rename_i hany
    obtain ⟨f, hf, he⟩ := List.any_eq_true.1 hany
    have htarget : f.name = target := by simpa using he
    rw [← htarget]
    exact List.mem_map_of_mem (List.mem_filter.1 hf).1
  · cases hcheck

theorem exists_decode {f : MarkedField} (hf : f ∈ fs) : ∃ e ∈ o.decode, e.1 = f.name := by
  rw [h.decode]
  by_cases hk : f.name = o.key
  · exact ⟨(o.key, "id"), List.mem_cons_self, hk.symm⟩
  · have hfilter : f ∈ fs.filter (·.name ≠ o.key) := List.mem_filter.2 ⟨hf, by simpa using hk⟩
    exact ⟨(f.name, f.name), List.mem_cons_of_mem _ (List.mem_map_of_mem hfilter), rfl⟩

end Accepted

end TableMapper.Declaration
