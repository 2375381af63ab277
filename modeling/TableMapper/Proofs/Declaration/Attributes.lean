import Mathlib.Data.List.Induction
import TableMapper.Declaration.Outline
import TableMapper.Proofs.Except

/-!
# Attributes, one by one

What a list of attributes says is put together from the options of each. It can be read if every
attribute can, and otherwise the first that cannot decides. A field is the key if some option says
so, and must not be blank if the last option about it in some attribute says so. Of several options
about the display the last one counts.
-/

namespace TableMapper.Declaration

section Options

variable {α μ : Type} (read : List Token → Except Refusal (List α))

/-- The options of one attribute. Those of any other name than `orm` have none. -/
def attributeOptions (tokens : List Token) : Except Refusal (List α) :=
  match arguments? tokens with
  | none => .ok []
  | some arguments => arguments.bind read

/-- All options that can be read, in the order in which they are written. -/
def optionsOf (attributes : List (List Token)) : List α :=
  attributes.flatMap fun tokens => (attributeOptions read tokens).toOption.getD []

def Reads (attributes : List (List Token)) : Prop :=
  ∀ tokens ∈ attributes, ∃ options, attributeOptions read tokens = .ok options

def FirstRefusal (attributes : List (List Token)) (r : Refusal) : Prop :=
  ∃ front tokens back, attributes = front ++ tokens :: back ∧ Reads read front ∧
    attributeOptions read tokens = .error r

variable {read}

theorem attributeOptions_orm (bracket : Bracket) (inner : List Token) :
    attributeOptions read [.ident "orm", .group bracket inner] = read inner := rfl

theorem attributeOptions_other {tokens : List Token} (h : arguments? tokens = none) :
    attributeOptions read tokens = .ok [] := by
  rw [attributeOptions, h]

theorem optionsOf_cons {tokens : List Token} {attributes : List (List Token)} {options : List α}
    (h : attributeOptions read tokens = .ok options) :
    optionsOf read (tokens :: attributes) = options ++ optionsOf read attributes := by
  rw [optionsOf, List.flatMap_cons, h]
  rfl

theorem exists_mapM_attributeOptions {attributes : List (List Token)} :
    (∃ lists, attributes.mapM (attributeOptions read) = .ok lists) ↔ Reads read attributes :=
  exists_mapM_eq_ok

theorem mapM_attributeOptions_eq_error {attributes : List (List Token)} {r : Refusal} :
    attributes.mapM (attributeOptions read) = .error r ↔ FirstRefusal read attributes r :=
  mapM_eq_error

theorem FirstRefusal.not_reads {attributes : List (List Token)} {r : Refusal}
    (h : FirstRefusal read attributes r) : ¬Reads read attributes := by
  intro hreads
  obtain ⟨front, tokens, back, rfl, -, hrefused⟩ := h
  obtain ⟨options, hread⟩ := hreads tokens (by simp)
  cases hrefused.symm.trans hread

theorem flatten_of_mapM {attributes : List (List Token)} {lists : List (List α)}
    (h : attributes.mapM (attributeOptions read) = .ok lists) :
    lists.flatten = optionsOf read attributes := by
  have hread := mapM_eq_ok.1 h
  rw [optionsOf]
  clear h
  induction hread with
  | nil => rfl
  | cons ht _ ih =>
    rw [List.flatten_cons, List.flatMap_cons, ih, ht]
    rfl

theorem addOptions_eq {ofOptions : List α → μ} {merge : μ → μ → μ}
    (hmerge : ∀ mark, merge mark (ofOptions []) = mark) (mark : μ) (tokens : List Token) :
    (match arguments? tokens with
      | none => .ok mark
      | some arguments => do
        let options ← read (← arguments)
        .ok (merge mark (ofOptions options)) : Except Refusal μ) =
      (attributeOptions read tokens).map fun options => merge mark (ofOptions options) := by
  rw [attributeOptions]
  -- An attribute that does not count adds no options, as an empty one does.
  cases arguments? tokens with
  | none => rw [map_ok, hmerge]
  | some arguments =>
    cases arguments with
    | error r => rfl
    | ok inner =>
      simp only [ok_bind, Except.bind]
      cases read inner <;> rfl

/-- Merging mark after mark is the same as reading all attributes first. -/
theorem foldlM_merge {ofOptions : List α → μ} {merge : μ → μ → μ}
    (hmerge : ∀ mark, merge mark (ofOptions []) = mark) (mark : μ)
    (attributes : List (List Token)) :
    attributes.foldlM (fun mark tokens =>
        match arguments? tokens with
        | none => .ok mark
        | some arguments => do
          let options ← read (← arguments)
          .ok (merge mark (ofOptions options))) mark =
      (attributes.mapM (attributeOptions read)).map fun lists =>
        (lists.map ofOptions).foldl merge mark := by
  simp only [addOptions_eq hmerge, List.foldl_map]
  exact foldlM_map mark attributes

end Options

def ModelOption.table? : ModelOption → Option String
  | table name => some name
  | display _ => none

def ModelOption.display? : ModelOption → Option String
  | table _ => none
  | display field => some field

theorem isKey_ofOptions (options : List FieldOption) :
    (FieldMark.ofOptions options).isKey = options.contains .key := by
  induction options using List.reverseRecOn with
  | nil => rfl
  | append_singleton options option ih =>
    rw [FieldMark.ofOptions, List.foldl_append, ← FieldMark.ofOptions]
    cases option with
    | key => simp
    | blank allowed => simpa using ih

theorem isKey_foldl (lists : List (List FieldOption)) (mark : FieldMark) :
    ((lists.map FieldMark.ofOptions).foldl FieldMark.merge mark).isKey =
      (mark.isKey || lists.flatten.contains .key) := by
  induction lists generalizing mark with
  | nil => simp
  | cons options lists ih =>
    rw [List.map_cons, List.foldl_cons, ih, FieldMark.merge, isKey_ofOptions]
    simp [Bool.or_assoc]

def FieldOption.blank? : FieldOption → Option Bool
  | key => none
  | blank allowed => some allowed

theorem blank_ofOptions (options : List FieldOption) :
    (FieldMark.ofOptions options).blank =
      (options.reverse.findSome? FieldOption.blank?).getD true := by
  induction options using List.reverseRecOn with
  | nil => rfl
  | append_singleton options option ih =>
    rw [FieldMark.ofOptions, List.foldl_append, List.reverse_concat, List.findSome?_cons]
    cases option with
    | key => exact ih
    | blank allowed => rfl

theorem blank_foldl (lists : List (List FieldOption)) (mark : FieldMark) :
    ((lists.map FieldMark.ofOptions).foldl FieldMark.merge mark).blank = false ↔
      mark.blank = false ∨ ∃ options ∈ lists, (FieldMark.ofOptions options).blank = false := by
  induction lists generalizing mark with
  | nil => simp
  | cons options lists ih =>
    rw [List.map_cons, List.foldl_cons, ih, FieldMark.merge, Bool.and_eq_false_iff, or_assoc,
      List.exists_mem_cons_iff]

/-- The attribute counts, and the last of its options about blank values forbids them. -/
def Forbids (tokens : List Token) : Prop :=
  ∃ inner options, arguments? tokens = some (.ok inner) ∧ readFieldOptions inner = .ok options ∧
    options.reverse.findSome? FieldOption.blank? = some false

def ForbidsBlank (attributes : List (List Token)) : Prop := ∃ tokens ∈ attributes, Forbids tokens

theorem forbids_iff {tokens : List Token} {options : List FieldOption}
    (h : attributeOptions readFieldOptions tokens = .ok options) :
    Forbids tokens ↔ (FieldMark.ofOptions options).blank = false := by
  rw [attributeOptions] at h
  cases harguments : arguments? tokens with
  | none =>
    rw [harguments] at h
    cases h
    simp [Forbids, harguments, blank_ofOptions]
  | some arguments =>
    simp only [harguments] at h
    obtain ⟨inner, rfl, hoptions⟩ := bind_eq_ok.1 h
    rw [blank_ofOptions]
    simp only [Forbids, harguments, hoptions, Option.some.injEq, Except.ok.injEq, exists_and_left,
      exists_eq_left']
    cases options.reverse.findSome? FieldOption.blank? <;> simp

theorem ModelMark.ofOptions_eq (options : List ModelOption) : ModelMark.ofOptions options =
    ⟨(options.filterMap ModelOption.table?).getLast?,
      (options.filterMap ModelOption.display?).getLast?⟩ := by
  induction options using List.reverseRecOn with
  | nil => rfl
  | append_singleton options option ih =>
    rw [ModelMark.ofOptions, List.foldl_append, ← ModelMark.ofOptions, ih, List.filterMap_append,
      List.filterMap_append]
    cases option with
    | table name => simp [ModelOption.table?, ModelOption.display?]
    | display field => simp [ModelOption.table?, ModelOption.display?]

theorem ModelMark.ofOptions_append (options options' : List ModelOption) :
    ModelMark.ofOptions (options ++ options') =
      (ModelMark.ofOptions options).merge (ModelMark.ofOptions options') := by
  simp [ModelMark.ofOptions_eq, ModelMark.merge, List.getLast?_append]

theorem ModelMark.foldl_merge (lists : List (List ModelOption)) (options : List ModelOption) :
    (lists.map ModelMark.ofOptions).foldl ModelMark.merge (.ofOptions options) =
      .ofOptions (options ++ lists.flatten) := by
  induction lists generalizing options with
  | nil => rw [List.flatten_nil, List.append_nil, List.map_nil, List.foldl_nil]
  | cons options' lists ih =>
    rw [List.map_cons, List.foldl_cons, ← ModelMark.ofOptions_append, ih, List.flatten_cons,
      List.append_assoc]

theorem readFieldMark_eq (attributes : List (List Token)) :
    readFieldMark attributes =
      (attributes.mapM (attributeOptions readFieldOptions)).map fun lists =>
        (lists.map FieldMark.ofOptions).foldl FieldMark.merge {} := by
  have hmerge : ∀ mark, FieldMark.merge mark (FieldMark.ofOptions []) = mark := by
    intro mark
    simp [FieldMark.merge, FieldMark.ofOptions]
  exact foldlM_merge hmerge {} attributes

theorem readModelMark_eq (attributes : List (List Token)) :
    readModelMark attributes =
      (attributes.mapM (attributeOptions readModelOptions)).map fun lists =>
        (lists.map ModelMark.ofOptions).foldl ModelMark.merge {} := by
  have hmerge : ∀ mark, ModelMark.merge mark (ModelMark.ofOptions []) = mark := by
    intro mark
    simp [ModelMark.merge, ModelMark.ofOptions]
  exact foldlM_merge hmerge {} attributes

theorem readModelMark_eq_error {attributes : List (List Token)} {r : Refusal} :
    readModelMark attributes = .error r ↔ FirstRefusal readModelOptions attributes r := by
  rw [readModelMark_eq, map_eq_error, mapM_attributeOptions_eq_error]

theorem reads_of_readModelMark {attributes : List (List Token)} {mark : ModelMark}
    (h : readModelMark attributes = .ok mark) : Reads readModelOptions attributes := by
  rw [readModelMark_eq] at h
  obtain ⟨lists, hlists, -⟩ := map_eq_ok.1 h
  exact exists_mapM_attributeOptions.1 ⟨lists, hlists⟩

theorem isKey_readFieldMark {attributes : List (List Token)} {mark : FieldMark}
    (h : readFieldMark attributes = .ok mark) :
    mark.isKey = (optionsOf readFieldOptions attributes).contains .key := by
  rw [readFieldMark_eq] at h
  obtain ⟨lists, hlists, rfl⟩ := map_eq_ok.1 h
  rw [isKey_foldl, flatten_of_mapM hlists]
  rfl

theorem blank_readFieldMark {attributes : List (List Token)} {mark : FieldMark}
    (h : readFieldMark attributes = .ok mark) : mark.blank = false ↔ ForbidsBlank attributes := by
  rw [readFieldMark_eq] at h
  obtain ⟨lists, hlists, rfl⟩ := map_eq_ok.1 h
  have hread := mapM_eq_ok.1 hlists
  rw [blank_foldl, or_iff_right (by decide), ForbidsBlank]
  clear h hlists
  induction hread with
  | nil => simp
  | cons hfirst _ ih =>
    rw [List.exists_mem_cons_iff, List.exists_mem_cons_iff]
    exact or_congr (forbids_iff hfirst).symm ih

theorem blank_markField {f : DeclaredField} {marked : MarkedField} (h : markField f = .ok marked) :
    marked.mark.blank = false ↔ ForbidsBlank f.attributes := by
  obtain ⟨mark, hmark, rfl⟩ := map_eq_ok.1 h
  exact blank_readFieldMark hmark

theorem readModelMark_of_reads {attributes : List (List Token)}
    (h : Reads readModelOptions attributes) :
    readModelMark attributes = .ok (.ofOptions (optionsOf readModelOptions attributes)) := by
  obtain ⟨lists, hlists⟩ := exists_mapM_attributeOptions.2 h
  have hmerged := ModelMark.foldl_merge lists []
  rw [List.nil_append, flatten_of_mapM hlists] at hmerged
  rw [readModelMark_eq, hlists, map_ok, ← hmerged]
  rfl

theorem display_readModelMark {attributes : List (List Token)} {mark : ModelMark}
    (h : readModelMark attributes = .ok mark) :
    mark.display =
      ((optionsOf readModelOptions attributes).filterMap ModelOption.display?).getLast? := by
  have hread := readModelMark_of_reads (reads_of_readModelMark h)
  cases h.symm.trans hread
  rw [ModelMark.ofOptions_eq]

end TableMapper.Declaration
