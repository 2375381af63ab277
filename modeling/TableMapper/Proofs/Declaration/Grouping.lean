import TableMapper.Proofs.Declaration.Grammar

/-!
# Options spread over attributes

The same options can stand in one attribute or be spread over several, in the same order. What a model
is told, and which field is the key, does not depend on this. Whether a field may be blank does: inside
one attribute a later option overrides an earlier one, but an attribute that forbids blank values is
overridden by no other. So the grouping matters exactly if blank values are first forbidden and then
allowed again.
-/

namespace TableMapper.Declaration

section Spread

variable {α : Type} (Entry : List Token → α → Prop)

/-- The options that the attributes list, one group for each attribute that counts. -/
inductive Spread : List (List Token) → List (List α) → Prop
  | nil : Spread [] []
  | listed {bracket : Bracket} {inner : List Token} {options : List α}
      {attributes : List (List Token)} {groups : List (List α)} (h : Listed Entry inner options)
      (hrest : Spread attributes groups) :
      Spread ([.ident "orm", .group bracket inner] :: attributes) (options :: groups)
  | other {tokens : List Token} {attributes : List (List Token)} {groups : List (List α)}
      (h : arguments? tokens = none) (hrest : Spread attributes groups) :
      Spread (tokens :: attributes) groups

/-- The options stand in the attributes in this order, however they are grouped. -/
def Writes (attributes : List (List Token)) (options : List α) : Prop :=
  ∃ groups, Spread Entry attributes groups ∧ groups.flatten = options

variable {Entry} {read : List Token → Except Refusal (List α)}

theorem exists_listed (hentry : ∀ a, ∃ entry, Entry entry a) (options : List α) :
    ∃ inner, Listed Entry inner options := by
  induction options with
  | nil => exact ⟨[], .empty⟩
  | cons a options ih =>
    obtain ⟨entry, ha⟩ := hentry a
    obtain ⟨inner, hinner⟩ := ih
    exact ⟨entry ++ .punct ',' false :: inner, listed_iff_peeled.2 (.more ha hinner)⟩

theorem exists_spread (hentry : ∀ a, ∃ entry, Entry entry a) (groups : List (List α)) :
    ∃ attributes, Spread Entry attributes groups := by
  induction groups with
  | nil => exact ⟨[], .nil⟩
  | cons options groups ih =>
    obtain ⟨inner, hinner⟩ := exists_listed hentry options
    obtain ⟨attributes, hrest⟩ := ih
    exact ⟨[.ident "orm", .group .round inner] :: attributes, .listed hinner hrest⟩

namespace Spread

variable {attributes : List (List Token)} {groups : List (List α)}
  (hread : ∀ ts as, read ts = .ok as ↔ Listed Entry ts as)

include hread

theorem reads (h : Spread Entry attributes groups) : Reads read attributes := by
  induction h with
  | nil => exact List.forall_mem_nil _
  | @listed bracket inner options _ _ h _ ih =>
    refine List.forall_mem_cons.2 ⟨⟨options, ?_⟩, ih⟩
    rw [attributeOptions_orm, hread]
    exact h
  | other h _ ih => exact List.forall_mem_cons.2 ⟨⟨[], attributeOptions_other h⟩, ih⟩

theorem optionsOf_eq (h : Spread Entry attributes groups) :
    optionsOf read attributes = groups.flatten := by
  induction h with
  | nil => rfl
  | @listed bracket inner options _ _ h _ ih =>
    have hoptions : attributeOptions read [.ident "orm", .group bracket inner] = .ok options := by
      rw [attributeOptions_orm, hread]
      exact h
    rw [optionsOf_cons hoptions, ih, List.flatten_cons]
  | other h _ ih => rw [optionsOf_cons (attributeOptions_other h), ih, List.nil_append]

end Spread

end Spread

theorem readModelMark_of_writes {attributes : List (List Token)} {options : List ModelOption}
    (h : Writes ModelOption.Written attributes options) :
    readModelMark attributes = .ok (.ofOptions options) := by
  obtain ⟨groups, hspread, rfl⟩ := h
  rw [readModelMark_of_reads (hspread.reads fun _ _ => readModelOptions_eq_ok),
    hspread.optionsOf_eq fun _ _ => readModelOptions_eq_ok]

/-- What the last option about blank values says, if there is one. -/
def lastBlank? (options : List FieldOption) : Option Bool :=
  (options.filterMap FieldOption.blank?).getLast?

theorem lastBlank?_append (options options' : List FieldOption) :
    lastBlank? (options ++ options') = (lastBlank? options').or (lastBlank? options) := by
  rw [lastBlank?, List.filterMap_append, List.getLast?_append]
  rfl

theorem mem_blanks {options : List FieldOption} {allowed : Bool} :
    allowed ∈ options.filterMap FieldOption.blank? ↔ FieldOption.blank allowed ∈ options := by
  rw [List.mem_filterMap]
  constructor
  · rintro ⟨option, hoption, hblank⟩
    cases option with
    | key => cases hblank
    | blank allowed' =>
      cases hblank
      exact hoption
  · intro hoption
    exact ⟨_, hoption, rfl⟩

theorem mem_of_lastBlank? {options : List FieldOption} {allowed : Bool}
    (h : lastBlank? options = some allowed) : FieldOption.blank allowed ∈ options :=
  mem_blanks.1 (List.mem_of_getLast? h)

theorem exists_group_of_lastBlank? {groups : List (List FieldOption)} {allowed : Bool}
    (h : lastBlank? groups.flatten = some allowed) :
    ∃ group ∈ groups, lastBlank? group = some allowed := by
  induction groups with
  | nil => cases h
  | cons group groups ih =>
    rw [List.flatten_cons, lastBlank?_append] at h
    -- The groups after it decide, unless they say nothing about blank values.
    rcases Option.or_eq_some_iff.1 h with hrest | ⟨-, hgroup⟩
    · obtain ⟨later, hlater, hlast⟩ := ih hrest
      exact ⟨later, List.mem_cons_of_mem _ hlater, hlast⟩
    · exact ⟨group, List.mem_cons_self, hgroup⟩

/-- Blank values are forbidden by some option and allowed by the last one. -/
def OverridesBlank (options : List FieldOption) : Prop :=
  FieldOption.blank false ∈ options ∧ lastBlank? options = some true

instance (options : List FieldOption) : Decidable (OverridesBlank options) :=
  inferInstanceAs (Decidable (_ ∧ _))

theorem exists_forbidding_group_iff {groups : List (List FieldOption)}
    (h : ¬OverridesBlank groups.flatten) :
    (∃ group ∈ groups, lastBlank? group = some false) ↔
      FieldOption.blank false ∈ groups.flatten := by
  constructor
  · rintro ⟨group, hgroup, hlast⟩
    exact List.mem_flatten.2 ⟨group, hgroup, mem_of_lastBlank? hlast⟩
  · intro hforbids
    apply exists_group_of_lastBlank?
    cases hlast : lastBlank? groups.flatten with
    | none =>
      have hmem := mem_blanks.2 hforbids
      rw [List.getLast?_eq_none_iff.1 hlast] at hmem
      cases hmem
    | some allowed =>
      cases allowed with
      | false => rfl
      | true => exact absurd ⟨hforbids, hlast⟩ h

theorem forbidsBlank_iff {attributes : List (List Token)} {groups : List (List FieldOption)}
    (h : Spread FieldOption.Written attributes groups) :
    ForbidsBlank attributes ↔ ∃ group ∈ groups, lastBlank? group = some false := by
  induction h with
  | nil => simp [ForbidsBlank]
  | @listed bracket inner options _ _ h _ ih =>
    have hforbids : Forbids [.ident "orm", .group bracket inner] ↔
        lastBlank? options = some false := by
      have hread := readFieldOptions_eq_ok.2 h
      rw [Forbids, lastBlank?, List.getLast?_filterMap]
      constructor
      · rintro ⟨inner', options', harguments, hread', hlast⟩
        cases harguments
        cases hread.symm.trans hread'
        exact hlast
      · intro hlast
        exact ⟨inner, options, rfl, hread, hlast⟩
    rw [ForbidsBlank, List.exists_mem_cons_iff, List.exists_mem_cons_iff, hforbids]
    exact or_congr_right ih
  | @other tokens _ _ h _ ih =>
    have hforbids : ¬Forbids tokens := by
      rintro ⟨inner, options, harguments, -⟩
      cases h.symm.trans harguments
    rw [ForbidsBlank, List.exists_mem_cons_iff]
    exact (or_iff_right hforbids).trans ih

/-- The attributes are accepted. Which field is the key is said by all options together, and whether
it may be blank by each group on its own. -/
theorem readFieldMark_of_spread {attributes : List (List Token)} {groups : List (List FieldOption)}
    (h : Spread FieldOption.Written attributes groups) :
    ∃ mark, readFieldMark attributes = .ok mark ∧
      (mark.isKey = true ↔ FieldOption.key ∈ groups.flatten) ∧
      (mark.blank = false ↔ ∃ group ∈ groups, lastBlank? group = some false) := by
  have hread := fun ts options => @readFieldOptions_eq_ok ts options
  obtain ⟨lists, hlists⟩ := exists_mapM_attributeOptions.2 (h.reads hread)
  have hmark := readFieldMark_eq attributes
  rw [hlists, map_ok] at hmark
  refine ⟨_, hmark, ?_, ?_⟩
  · rw [isKey_readFieldMark hmark, h.optionsOf_eq hread, List.contains_iff_mem]
  · rw [blank_readFieldMark hmark, forbidsBlank_iff h]

theorem readFieldMark_of_writes {attributes : List (List Token)} {options : List FieldOption}
    (h : Writes FieldOption.Written attributes options) (hblank : ¬OverridesBlank options) :
    readFieldMark attributes =
      .ok ⟨options.contains .key, !options.contains (.blank false)⟩ := by
  obtain ⟨groups, hspread, rfl⟩ := h
  obtain ⟨mark, hmark, hkey, hforbids⟩ := readFieldMark_of_spread hspread
  rw [exists_forbidding_group_iff hblank] at hforbids
  rw [hmark]
  congr 1
  cases mark with
  | mk isKey blank => grind

theorem exists_written (option : FieldOption) : ∃ entry, FieldOption.Written entry option := by
  cases option with
  | key => exact ⟨_, .key⟩
  | blank allowed => exact ⟨[.ident "blank", .punct '=' false, .truth allowed], .blank allowed⟩

/-- Where the last option overrides an earlier one, it matters whether both stand in one attribute. -/
theorem exists_different_grouping {options : List FieldOption} (h : OverridesBlank options) :
    ∃ attributes attributes', Writes FieldOption.Written attributes options ∧
      Writes FieldOption.Written attributes' options ∧
      readFieldMark attributes ≠ readFieldMark attributes' := by
  obtain ⟨hforbids, hlast⟩ := h
  -- All options in one attribute, and each in an attribute of its own.
  obtain ⟨attributes, hone⟩ := exists_spread exists_written [options]
  obtain ⟨attributes', heach⟩ := exists_spread exists_written (options.map ([·]))
  have hflatten : (options.map ([·])).flatten = options := by
    rw [← List.flatMap_def, List.flatMap_singleton']
  refine ⟨attributes, attributes', ⟨_, hone, List.flatten_singleton⟩, ⟨_, heach, hflatten⟩,
    fun he => ?_⟩
  obtain ⟨mark, hmark, -, hblank⟩ := readFieldMark_of_spread hone
  obtain ⟨mark', hmark', -, hblank'⟩ := readFieldMark_of_spread heach
  have hsame : mark = mark' := by
    rw [hmark, hmark'] at he
    exact Except.ok.inj he
  have hforbidden : mark'.blank = false :=
    hblank'.2 ⟨[.blank false], List.mem_map.2 ⟨_, hforbids, rfl⟩, rfl⟩
  obtain ⟨group, hgroup, hfalse⟩ := hblank.1 (hsame ▸ hforbidden)
  rw [List.mem_singleton.1 hgroup, hlast] at hfalse
  cases hfalse

/-- Two fields differ only in how the same options are grouped, and none of these overrides another
one about blank values. -/
structure DeclaredField.Regrouped (f f' : DeclaredField) : Prop where
  name : f.name = f'.name
  type : f.type = f'.type
  options : ∃ options, ¬OverridesBlank options ∧
    Writes FieldOption.Written f.attributes options ∧
    Writes FieldOption.Written f'.attributes options

inductive Shape.Regrouped : Shape → Shape → Prop
  | fields {fs fs' : List DeclaredField} (h : List.Forall₂ DeclaredField.Regrouped fs fs') :
      Regrouped (.fields fs) (.fields fs')
  | other (shape : Shape) : Regrouped shape shape

/-- Two declarations differ only in how the same options are grouped. -/
structure Item.Regrouped (d d' : Item) : Prop where
  name : d.name = d'.name
  options : ∃ options, Writes ModelOption.Written d.attributes options ∧
    Writes ModelOption.Written d'.attributes options
  shape : d.shape.Regrouped d'.shape

theorem DeclaredField.Regrouped.markField_eq {f f' : DeclaredField} (h : f.Regrouped f') :
    markField f = markField f' := by
  obtain ⟨options, hblank, hf, hf'⟩ := h.options
  rw [markField, markField, readFieldMark_of_writes hf hblank, readFieldMark_of_writes hf' hblank,
    h.name, h.type]

theorem Item.Regrouped.outline_eq {d d' : Item} (h : d.Regrouped d') : d.outline = d'.outline := by
  obtain ⟨options, hd, hd'⟩ := h.options
  have hshape := h.shape
  rw [Item.outline, Item.outline, readModelMark_of_writes hd, readModelMark_of_writes hd', h.name]
  generalize d.shape = shape at hshape ⊢
  generalize d'.shape = shape' at hshape ⊢
  cases hshape with
  | fields hfields =>
    have hmarks := mapM_congr_forall₂ (hfields.imp fun _ _ hf => hf.markField_eq)
    rw [Shape.fields?, Shape.fields?, ok_bind, ok_bind, ok_bind, ok_bind, hmarks]
  | other => rfl

/-- Options may be spread over attributes in any way: the attributes are accepted, all options
together say which field is the key, and a model is told the same as by one attribute. A field may be
blank if no attribute forbids it by its last option about blank values, which depends on the grouping
exactly for options of which the last overrides an earlier one. Where there are none of these,
declarations that differ in the grouping only have the same outline. -/
theorem grouping_matters_for_overridden_blank (options : List FieldOption)
    (modelOptions : List ModelOption) :
    (∀ attributes groups, Spread FieldOption.Written attributes groups → groups.flatten = options →
      ∃ mark, readFieldMark attributes = .ok mark ∧
        (mark.isKey = true ↔ FieldOption.key ∈ options) ∧
        (mark.blank = false ↔ ∃ group ∈ groups, lastBlank? group = some false)) ∧
    ((∀ attributes attributes', Writes FieldOption.Written attributes options →
      Writes FieldOption.Written attributes' options →
      readFieldMark attributes = readFieldMark attributes') ↔ ¬OverridesBlank options) ∧
    (∀ attributes, Writes ModelOption.Written attributes modelOptions →
      readModelMark attributes = .ok (.ofOptions modelOptions)) ∧
    ∀ d d' : Item, d.Regrouped d' → d.outline = d'.outline := by
  refine ⟨?_, ⟨fun h hoverrides => ?_, ?_⟩, fun _ h => readModelMark_of_writes h,
    fun _ _ h => h.outline_eq⟩
  · rintro attributes groups hspread rfl
    exact readFieldMark_of_spread hspread
  · obtain ⟨attributes, attributes', hwrites, hwrites', hne⟩ := exists_different_grouping hoverrides
    exact hne (h attributes attributes' hwrites hwrites')
  · intro hblank attributes attributes' hwrites hwrites'
    rw [readFieldMark_of_writes hwrites hblank, readFieldMark_of_writes hwrites' hblank]

def orm (inner : List Token) : List Token := [.ident "orm", .group .round inner]

def blankTokens (allowed : Bool) : List Token := [.ident "blank", .punct '=' false, .truth allowed]

def tableTokens : List Token := [.ident "table", .punct '=' false, .text "\"notes\"" "notes"]

def displayTokens : List Token := [.ident "display", .punct '=' false, .text "\"text\"" "text"]

def noteWith (attributes serial text : List (List Token)) : Item :=
  ⟨"Note", attributes, .fields [⟨"serial", [.ident "i64"], serial⟩, ⟨"text", [.ident "String"], text⟩]⟩

def noteTogether : Item :=
  noteWith [orm (tableTokens ++ .punct ',' false :: displayTokens)] [orm [.ident "id"]]
    [orm (blankTokens true ++ .punct ',' false :: blankTokens false ++ [.punct ',' false])]

/-- The declaration above with its options spread over several attributes. -/
def noteSpread : Item :=
  noteWith [orm tableTokens, [.ident "doc", .punct '=' false, .text "\"\"" ""], orm displayTokens]
    [orm [], orm [.ident "id"]] [orm (blankTokens true), orm (blankTokens false)]

theorem note_regrouped : noteTogether.Regrouped noteSpread := by
  have hfields {inner : List Token} {options : List FieldOption}
      (h : readFieldOptions inner = .ok options) : Listed FieldOption.Written inner options :=
    readFieldOptions_eq_ok.1 h
  have hmodel {inner : List Token} {options : List ModelOption}
      (h : readModelOptions inner = .ok options) : Listed ModelOption.Written inner options :=
    readModelOptions_eq_ok.1 h
  refine ⟨rfl, ⟨[.table "notes", .display "text"], ?_, ?_⟩, .fields (.cons ?_ (.cons ?_ .nil))⟩
  · exact ⟨_, .listed (hmodel rfl) .nil, rfl⟩
  · exact ⟨_, .listed (hmodel rfl) (.other rfl (.listed (hmodel rfl) .nil)), rfl⟩
  · exact ⟨rfl, rfl, [.key], by decide, ⟨_, .listed (hfields rfl) .nil, rfl⟩,
      ⟨_, .listed (hfields rfl) (.listed (hfields rfl) .nil), rfl⟩⟩
  · exact ⟨rfl, rfl, [.blank true, .blank false], by decide, ⟨_, .listed (hfields rfl) .nil, rfl⟩,
      ⟨_, .listed (hfields rfl) (.listed (hfields rfl) .nil), rfl⟩⟩

/-- The last option forbids blank values, so the grouping does not matter. -/
theorem grouping_matters_note :
    ¬OverridesBlank [.blank true, .blank false] ∧
    (∃ mark, readFieldMark [orm (blankTokens true), orm (blankTokens false)] = .ok mark ∧
      mark.blank = false) ∧
    noteTogether.Regrouped noteSpread ∧
    ∃ o, noteTogether.outline = .ok o ∧ noteSpread.outline = .ok o := by
  obtain ⟨hmarks, -, -, houtline⟩ := grouping_matters_for_overridden_blank
    [.blank true, .blank false] [.table "notes", .display "text"]
  have hspread : Spread FieldOption.Written [orm (blankTokens true), orm (blankTokens false)]
      [[.blank true], [.blank false]] :=
    .listed (readFieldOptions_eq_ok.1 rfl) (.listed (readFieldOptions_eq_ok.1 rfl) .nil)
  obtain ⟨mark, hmark, -, hforbids⟩ := hmarks _ _ hspread rfl
  have hfalse : mark.blank = false := hforbids.2 ⟨[.blank false], by simp, rfl⟩
  exact ⟨by decide, ⟨mark, hmark, hfalse⟩, note_regrouped, _, rfl,
    (houtline _ _ note_regrouped).symm⟩

/-- Blank values are forbidden by one attribute and allowed by the next, or both by the same one. -/
theorem not_grouping_irrelevant :
    ¬∀ (options : List FieldOption) (attributes attributes' : List (List Token)),
      Writes FieldOption.Written attributes options →
      Writes FieldOption.Written attributes' options →
      readFieldMark attributes = readFieldMark attributes' := by
  intro h
  have hforbidding : Listed FieldOption.Written (blankTokens false) [.blank false] :=
    readFieldOptions_eq_ok.1 rfl
  have hallowing : Listed FieldOption.Written (blankTokens true) [.blank true] :=
    readFieldOptions_eq_ok.1 rfl
  have hboth : Listed FieldOption.Written
      (blankTokens false ++ .punct ',' false :: blankTokens true) [.blank false, .blank true] :=
    readFieldOptions_eq_ok.1 rfl
  have hsame := h [.blank false, .blank true]
    [orm (blankTokens false), orm (blankTokens true)]
    [orm (blankTokens false ++ .punct ',' false :: blankTokens true)]
    ⟨_, .listed hforbidding (.listed hallowing .nil), rfl⟩ ⟨_, .listed hboth .nil, rfl⟩
  cases hsame

end TableMapper.Declaration
