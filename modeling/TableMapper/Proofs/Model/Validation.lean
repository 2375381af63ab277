import Mathlib.Data.List.Nodup
import TableMapper.Proofs.Declaration.Attributes
import TableMapper.Proofs.Model.Derived

/-!
# Validation

Every field but the key has a check of its own, and a record as a whole is validated by its schema.
Both come from the same declaration, one through the validators and one through the columns, and
both say the same of every record.
-/

namespace TableMapper

open Declaration (DeclaredField ForbidsBlank Item plainName)

theorem Value.isEmpty_iff {v : Value} : v.isEmpty = true ↔ v = .null ∨ v = .text "" := by
  cases v with
  | text s => simp [isEmpty, String.toList_eq_nil_iff]
  | _ => simp [isEmpty]

namespace Model

variable {m : Model}

def check (blank : m.Field → Bool) (i : m.Field) : FieldCheck m.fields.length :=
  ⟨"valid_" ++ plainName (m.nameOf i), i, if blank i then .always else .nonEmpty⟩

/-- The columns of a schema and the checks of a model go by the same fields, which may be blank
unless their declaration forbids it. -/
structure Checked (m : Model) (declared : List DeclaredField) (blank : m.Field → Bool) : Prop where
  schema : m.schema = .id :: m.others.map fun i => (m.typeOf i).column (m.nameOf i) (blank i)
  written : m.written = m.key :: m.others
  checks : m.checks = m.others.map (check blank)
  names : m.others.map m.nameOf =
    (declared.filter (·.name ≠ m.nameOf m.key)).map (·.name)
  distinct : ("id" :: m.others.map m.nameOf).Nodup
  blank : ∀ f ∈ declared, ∀ i, m.nameOf i = f.name → (blank i = false ↔ ForbidsBlank f.attributes)

theorem exists_checked {typeOf? : String → Option FieldType} {d : Item}
    (hm : d.model? typeOf? = some m) (hd : (d.shape.named.map Prod.fst).Nodup)
    {declared : List DeclaredField} (hdeclared : d.shape = .fields declared) :
    ∃ blank, m.Checked declared blank := by
  obtain ⟨o, declared', fs, marked, ha, hderives, hr⟩ := exists_derives hm
  obtain rfl : declared' = declared := by
    rw [ha.shape] at hdeclared
    cases hdeclared
    rfl
  rw [named_of_accepted ha] at hd
  have hdistinct := nodup_of_named hd
  have hkey : m.nameOf m.key = o.key := name_of_fieldPosition? hderives.key
  have hothers := names_others hderives hr hdistinct
  refine ⟨fun i => (marked i).mark.blank, schema_derived ha hderives hr hdistinct,
    written_derived ha hderives hr hdistinct, checks_derived ha hderives hr hdistinct, ?_, ?_, ?_⟩
  · rw [← hothers, ha.names_others, hkey]
  · rw [← hothers]
    exact ha.nodup_others hdistinct
  · intro f hf i hname
    obtain ⟨f', hf', hmark⟩ := exists_of_mem_forall₂ (mapM_eq_ok.1 ha.marks) hf
    -- The marked field of this declaration has its name, so it is the one at this position.
    obtain ⟨j, -, rfl⟩ := List.mem_map.1 (hr.all ▸ hf')
    have hj : m.nameOf j = f.name := by
      obtain ⟨mark, -, hmarked⟩ := map_eq_ok.1 hmark
      exact (hr.name j).symm.trans (congrArg Declaration.MarkedField.name hmarked).symm
    have hij : some i = some j := by
      rw [← fieldPosition?_nameOf hr hdistinct i, ← fieldPosition?_nameOf hr hdistinct j, hname, hj]
    obtain rfl := Option.some.inj hij
    exact Declaration.blank_markField hmark

end Model

namespace Instance

variable {m : Model} {declared : List DeclaredField} {blank : m.Field → Bool} (x : Instance m)

theorem passes_check (i : m.Field) :
    x.passes (m.check blank i) = !(!blank i && (x.valueOf i).isEmpty) := by
  cases hblank : blank i <;> simp [passes, Model.check, hblank]

/-- The checks of single fields and the validation of the whole record say the same of a record of
declared fields. -/
structure ChecksAgree (declared : List DeclaredField) (x : Instance m) : Prop where
  /-- Every field but the key has one check, in the order of declaration. -/
  checks : m.checks.map (fun c => (c.name, m.nameOf c.field)) =
    (declared.filter (·.name ≠ m.nameOf m.key)).map fun f => ("valid_" ++ plainName f.name, f.name)
  /-- A check fails where blank values are forbidden and the value is one. -/
  fails : ∀ f ∈ declared, ∀ c ∈ m.checks, m.nameOf c.field = f.name →
    (x.passes c = false ↔
      ForbidsBlank f.attributes ∧ (x.valueOf c.field = .null ∨ x.valueOf c.field = .text ""))
  /-- A field is invalid where its check fails. -/
  invalid : ∀ c ∈ m.checks, m.nameOf c.field ∈ x.invalidFields ↔ x.passes c = false
  /-- The invalid fields stand in the order of declaration, none twice and none of them the key. -/
  order : x.invalidFields.Sublist ((declared.filter (·.name ≠ m.nameOf m.key)).map (·.name))
  once : x.invalidFields.Nodup
  key : m.nameOf m.key ∉ x.invalidFields ∧ "id" ∉ x.invalidFields
  /-- A record is valid if all checks pass. -/
  valid : x.isValid = m.checks.all x.passes
  accepted : x.validate = .ok () ↔ x.isValid = true
  refused : x.isValid = false → x.validate = .error (.validation
    (m.name ++ ": required fields are empty: " ++ String.intercalate ", " x.invalidFields))

section Checked

variable (h : m.Checked declared blank)

include h

theorem names_checks : m.checks.map (fun c => m.nameOf c.field) = m.others.map m.nameOf := by
  rw [h.checks, List.map_map]
  rfl

theorem invalidFields_eq :
    x.invalidFields = (m.checks.filter fun c => !x.passes c).map fun c => m.nameOf c.field := by
  have hkey : (!FieldDef.id.blank && (x.valueOf m.key).isEmpty) = false := rfl
  have hfilter : m.others.filter (fun i => !x.passes (m.check blank i)) =
      m.others.filter fun i => !blank i && (x.valueOf i).isEmpty := by
    apply List.filter_congr
    intro i _
    rw [passes_check, Bool.not_not]
  rw [invalidFields, zip_schema x h.schema h.written, List.filter_cons_of_neg (by simp [hkey]),
    List.filter_map, List.map_map, h.checks, List.filter_map, List.map_map]
  exact congrArg (List.map m.nameOf) hfilter.symm

theorem sublist_invalidFields : x.invalidFields.Sublist (m.others.map m.nameOf) := by
  rw [invalidFields_eq x h, ← names_checks h]
  exact List.filter_sublist.map _

theorem mem_invalidFields {c : FieldCheck m.fields.length} (hc : c ∈ m.checks) :
    m.nameOf c.field ∈ x.invalidFields ↔ x.passes c = false := by
  rw [invalidFields_eq x h, List.mem_map]
  constructor
  · rintro ⟨c', hc', hname⟩
    obtain ⟨hc', hfails⟩ := List.mem_filter.1 hc'
    have hdistinct : (m.checks.map fun c => m.nameOf c.field).Nodup := by
      rw [names_checks h]
      exact (List.nodup_cons.1 h.distinct).2
    obtain rfl := List.inj_on_of_nodup_map hdistinct hc' hc hname
    simpa using hfails
  · intro hfails
    exact ⟨c, List.mem_filter.2 ⟨hc, by simp [hfails]⟩, rfl⟩

theorem isValid_eq : x.isValid = m.checks.all x.passes := by
  rw [isValid, invalidFields_eq x h, Bool.eq_iff_iff, List.isEmpty_iff, List.map_eq_nil_iff,
    List.filter_eq_nil_iff, List.all_eq_true]
  simp

theorem checksAgree : x.ChecksAgree declared where
  checks := by
    have hnames : (m.others.map m.nameOf).map (fun name => ("valid_" ++ plainName name, name)) =
        (declared.filter (·.name ≠ m.nameOf m.key)).map fun f =>
          ("valid_" ++ plainName f.name, f.name) := by
      rw [h.names, List.map_map]
      rfl
    rw [h.checks, ← hnames, List.map_map, List.map_map]
    rfl
  fails := by
    intro f hf c hc hname
    rw [h.checks] at hc
    obtain ⟨i, -, rfl⟩ := List.mem_map.1 hc
    have hfails : x.passes (m.check blank i) = false ↔
        blank i = false ∧ (x.valueOf i).isEmpty = true := by
      rw [passes_check, Bool.not_eq_false', Bool.and_eq_true, Bool.not_eq_true']
    rw [hfails, h.blank f hf i hname, Value.isEmpty_iff]
    rfl
  invalid := fun c hc => mem_invalidFields x h hc
  order := h.names ▸ sublist_invalidFields x h
  once := (sublist_invalidFields x h).nodup (List.nodup_cons.1 h.distinct).2
  key := by
    -- The invalid columns are among those of other fields, of which none has the name of the key.
    have hsublist := sublist_invalidFields x h
    constructor
    · intro hkey
      have hmem := hsublist.subset hkey
      rw [h.names] at hmem
      obtain ⟨f, hf, hname⟩ := List.mem_map.1 hmem
      have hne : f.name ≠ m.nameOf m.key := by simpa using (List.mem_filter.1 hf).2
      exact hne hname
    · intro hid
      exact (List.nodup_cons.1 h.distinct).1 (hsublist.subset hid)
  valid := isValid_eq x h
  accepted := by
    cases hvalid : x.isValid <;> simp [validate, hvalid]
  refused := by
    intro hinvalid
    rw [validate, hinvalid]
    rfl

end Checked

/-- Of every record of a derived model, the check of a field says the same as the validation of the
whole record: that the declaration forbids blank values and the value is NULL or the empty text. The
key is never invalid, even where its own declaration forbids blank values. -/
theorem checks_agree_with_validation {typeOf? : String → Option FieldType} {d : Item}
    (hm : d.model? typeOf? = some m) (hd : (d.shape.named.map Prod.fst).Nodup)
    (hdeclared : d.shape = .fields declared) (x : Instance m) : x.ChecksAgree declared := by
  obtain ⟨blank, h⟩ := Model.exists_checked hm hd hdeclared
  exact checksAgree x h

end Instance

def optionOf (type : String) : List Declaration.Token :=
  [.ident "Option", .punct '<' false, .ident type, .punct '>' false]

def blankOption (allowed : String) : List Declaration.Token :=
  [.ident "blank", .punct '=' false, .ident allowed]

def stockFields : List DeclaredField := [
  ⟨"level", [.ident "f64"], []⟩,
  ⟨"serial", optionOf "i64",
    [[.ident "orm", .group .round (.ident "id" :: .punct ',' false :: blankOption "false")]]⟩,
  ⟨"r#type", optionOf "String", [[.ident "orm",
    .group .round (blankOption "true" ++ .punct ',' false :: blankOption "false")]]⟩,
  ⟨"note", optionOf "String", [[.ident "orm", .group .round (blankOption "false")],
    [.ident "orm", .group .round (blankOption "true")]]⟩]

/-- The key and two other fields are required, each in another way. -/
def stock : Item where
  name := "Stock"
  shape := .fields stockFields

def stockModel : Model where
  name := "Stock"
  table := "stock"
  fields := [("level", ⟨.float, false⟩), ("serial", .key), ("r#type", ⟨.text, true⟩),
    ("note", ⟨.text, true⟩)]
  schema := [.id, ⟨"level", .float, false, true, false⟩, ⟨"r#type", .text, true, false, false⟩,
    ⟨"note", .text, true, false, false⟩]
  key := 1
  keyType := rfl
  written := [1, 0, 2, 3]
  read := [(1, "id"), (0, "level"), (2, "r#type"), (3, "note")]
  complete := by decide
  shown := none
  checks := [⟨"valid_level", 0, .always⟩, ⟨"valid_type", 2, .nonEmpty⟩, ⟨"valid_note", 3, .nonEmpty⟩]

theorem stock_model? : stock.model? measurementTypes = some stockModel := by
  rfl

/-- Neither key nor note, and an empty text for a type. -/
def unlabelled : Instance stockModel where
  get
    | ⟨0, _⟩ => (0.5 : Float)
    | ⟨1, _⟩ => (none : Option Int64)
    | ⟨2, _⟩ => some ""
    | ⟨3, _⟩ => (none : Option String)

theorem Instance.checks_agree_unlabelled :
    stock.model? measurementTypes = some stockModel ∧ (stock.shape.named.map Prod.fst).Nodup ∧
      stock.shape = .fields stockFields ∧ unlabelled.ChecksAgree stockFields ∧
      ForbidsBlank stockFields[1].attributes ∧ unlabelled.id = none ∧
      unlabelled.invalidFields = ["r#type", "note"] ∧
      unlabelled.validate =
        .error (.validation "Stock: required fields are empty: r#type, note") := by
  have hd : (stock.shape.named.map Prod.fst).Nodup := by decide +kernel
  have hagree : unlabelled.ChecksAgree stockFields :=
    checks_agree_with_validation stock_model? hd rfl unlabelled
  have hinvalid : unlabelled.invalidFields = ["r#type", "note"] := by
    rfl
  have hkey : ForbidsBlank stockFields[1].attributes :=
    ⟨_, List.mem_cons_self, _, _, rfl, rfl, rfl⟩
  have hrefused := hagree.refused (by rw [isValid, hinvalid]; rfl)
  rw [hinvalid] at hrefused
  exact ⟨stock_model?, hd, rfl, hagree, hkey, rfl, hinvalid, hrefused⟩

end TableMapper
