import Mathlib.Data.List.Nodup
import TableMapper.Proofs.Declaration.Attributes

/-!
# Which declarations are accepted

Seven checks decide, each said here by what is written in the declaration. A declaration is accepted
if it passes all of them, and otherwise it is refused for the first that it does not pass.
-/

namespace TableMapper.Declaration

def DeclaredField.isMarked (f : DeclaredField) : Bool :=
  (optionsOf readFieldOptions f.attributes).contains .key

namespace Item

def declared (d : Item) : List DeclaredField :=
  match d.shape with
  | .fields fs => fs
  | _ => []

/-- What is to be displayed, by the last option about it. -/
def displayTarget? (d : Item) : Option String :=
  ((optionsOf readModelOptions d.attributes).filterMap ModelOption.display?).getLast?

/-- The field is marked as the key, or it is called `id` and no field is marked. -/
def IsKey (d : Item) (f : DeclaredField) : Prop :=
  f ∈ d.declared ∧ (f.isMarked = true ∨ f.name = "id" ∧ ∀ g ∈ d.declared, g.isMarked = false)

/-- The field is not the key. Fields are told apart by their names. -/
def IsColumn (d : Item) (f : DeclaredField) : Prop :=
  f ∈ d.declared ∧ ∀ k, d.IsKey k → f.name ≠ k.name

end Item

inductive Check
  | modelOptions
  | shape
  | fieldOptions
  | oneKey
  | someKey
  | freeId
  | display
  deriving DecidableEq, Repr

/-- The place of a check in the order in which they are made. -/
def Check.place : Check → Nat
  | modelOptions => 0
  | shape => 1
  | fieldOptions => 2
  | oneKey => 3
  | someKey => 4
  | freeId => 5
  | display => 6

theorem Check.place_inj {c c' : Check} (h : c.place = c'.place) : c = c' := by
  cases c <;> cases c' <;> simp_all [Check.place]

namespace Item

def Passes (d : Item) : Check → Prop
  | .modelOptions => Reads readModelOptions d.attributes
  | .shape => ∃ fs, d.shape = .fields fs
  | .fieldOptions => Reads readFieldOptions (d.declared.flatMap (·.attributes))
  | .oneKey => (d.declared.filter (·.isMarked)).length ≤ 1
  | .someKey => ∃ f ∈ d.declared, f.isMarked = true ∨ f.name = "id"
  | .freeId => ∀ f, d.IsColumn f → f.name ≠ "id"
  | .display => ∀ target, d.displayTarget? = some target → ∃ f, d.IsColumn f ∧ f.name = target

/-- The refusal that belongs to a check which is not passed. -/
def Refuses (d : Item) : Check → Refusal → Prop
  | .modelOptions, r => FirstRefusal readModelOptions d.attributes r
  | .shape, r =>
    d.shape = .choice ∧ r = .notStructure ∨
      (d.shape = .tuple ∨ d.shape = .unit) ∧ r = .unnamedFields
  | .fieldOptions, r => FirstRefusal readFieldOptions (d.declared.flatMap (·.attributes)) r
  | .oneKey, r => r = .severalKeys
  | .someKey, r => r = .missingKey
  | .freeId, r => r = .columnNamedId
  | .display, r => ∃ target, d.displayTarget? = some target ∧ r = .unknownDisplay target

def PassesBefore (d : Item) (place : Nat) : Prop := ∀ c : Check, c.place < place → d.Passes c

def FirstFailing (d : Item) (c : Check) : Prop := d.PassesBefore c.place ∧ ¬d.Passes c

theorem passesBefore_zero (d : Item) : d.PassesBefore 0 := fun _ h => absurd h (Nat.not_lt_zero _)

theorem PassesBefore.next {d : Item} {c : Check} (h : d.PassesBefore c.place) (hc : d.Passes c) :
    d.PassesBefore (c.place + 1) := by
  intro c' hc'
  rcases Nat.lt_succ_iff_lt_or_eq.1 hc' with hlt | heq
  · exact h c' hlt
  · exact Check.place_inj heq ▸ hc

theorem PassesBefore.all {d : Item} (h : d.PassesBefore 7) (c : Check) : d.Passes c := by
  apply h
  cases c <;> decide

theorem FirstFailing.unique {d : Item} {c c' : Check} (h : d.FirstFailing c)
    (h' : d.FirstFailing c') : c = c' := by
  rcases Nat.lt_trichotomy c.place c'.place with hlt | heq | hgt
  · exact absurd (h'.1 c hlt) h.2
  · exact Check.place_inj heq
  · exact absurd (h.1 c' hgt) h'.2

theorem Refuses.unique {d : Item} {c : Check} {r r' : Refusal} (h : d.Refuses c r)
    (h' : d.Refuses c r') : r = r' := by
  cases c with
  | modelOptions =>
    exact Except.error.inj ((mapM_attributeOptions_eq_error.2 h).symm.trans
      (mapM_attributeOptions_eq_error.2 h'))
  | shape =>
    rcases h with ⟨hs, rfl⟩ | ⟨hs, rfl⟩ <;> rcases h' with ⟨hs', rfl⟩ | ⟨hs', rfl⟩ <;> simp_all
  | fieldOptions =>
    exact Except.error.inj ((mapM_attributeOptions_eq_error.2 h).symm.trans
      (mapM_attributeOptions_eq_error.2 h'))
  | oneKey => exact h.trans h'.symm
  | someKey => exact h.trans h'.symm
  | freeId => exact h.trans h'.symm
  | display =>
    obtain ⟨target, ht, rfl⟩ := h
    obtain ⟨target', ht', rfl⟩ := h'
    cases ht.symm.trans ht'
    rfl

end Item

theorem mapM_markField_eq_error {declared : List DeclaredField} {r : Refusal} :
    declared.mapM markField = .error r ↔
      FirstRefusal readFieldOptions (declared.flatMap (·.attributes)) r := by
  rw [← mapM_attributeOptions_eq_error]
  induction declared with
  | nil =>
    rw [List.flatMap_nil, List.mapM_nil, List.mapM_nil]
    simp
  | cons f declared ih =>
    have herror : markField f = .error r ↔
        f.attributes.mapM (attributeOptions readFieldOptions) = .error r := by
      rw [markField, map_eq_error, readFieldMark_eq, map_eq_error]
    have hok : (∃ marked, markField f = .ok marked) ↔
        ∃ lists, f.attributes.mapM (attributeOptions readFieldOptions) = .ok lists := by
      rw [markField, readFieldMark_eq]
      cases f.attributes.mapM (attributeOptions readFieldOptions) <;> simp
    rw [mapM_cons_eq_error, List.flatMap_cons, mapM_append_eq_error, ih, herror, hok]

theorem reads_of_mapM_markField {declared : List DeclaredField} {fs : List MarkedField}
    (h : declared.mapM markField = .ok fs) :
    Reads readFieldOptions (declared.flatMap (·.attributes)) := by
  rw [← exists_mapM_attributeOptions]
  cases hread : (declared.flatMap (·.attributes)).mapM (attributeOptions readFieldOptions) with
  | ok lists => exact ⟨lists, rfl⟩
  | error r =>
    have herror := mapM_markField_eq_error.2 (mapM_attributeOptions_eq_error.1 hread)
    cases herror.symm.trans h

/-- The marked fields stand for the declared ones, with the same names and keys. -/
def Stand (fs : List MarkedField) (declared : List DeclaredField) : Prop :=
  fs.map (fun f => (f.name, f.mark.isKey)) = declared.map fun f => (f.name, f.isMarked)

theorem stand_of_mapM_markField {declared : List DeclaredField} {fs : List MarkedField}
    (h : declared.mapM markField = .ok fs) : Stand fs declared := by
  apply mapM_keeps _ h
  intro f marked hf
  obtain ⟨mark, hmark, rfl⟩ := map_eq_ok.1 hf
  rw [isKey_readFieldMark hmark]
  rfl

namespace Stand

variable {fs : List MarkedField} {declared : List DeclaredField} (h : Stand fs declared)

include h

theorem exists_iff (P : String → Bool → Prop) :
    (∃ f ∈ fs, P f.name f.mark.isKey) ↔ ∃ f ∈ declared, P f.name f.isMarked := by
  have hpairs : (∃ e ∈ fs.map (fun f => (f.name, f.mark.isKey)), P e.1 e.2) ↔
      ∃ e ∈ declared.map (fun f => (f.name, f.isMarked)), P e.1 e.2 := by rw [h]
  simpa using hpairs

theorem forall_iff (P : String → Bool → Prop) :
    (∀ f ∈ fs, P f.name f.mark.isKey) ↔ ∀ f ∈ declared, P f.name f.isMarked := by
  have hpairs : (∀ e ∈ fs.map (fun f => (f.name, f.mark.isKey)), P e.1 e.2) ↔
      ∀ e ∈ declared.map (fun f => (f.name, f.isMarked)), P e.1 e.2 := by rw [h]
  simpa using hpairs

theorem length_filter :
    (fs.filter (·.mark.isKey)).length = (declared.filter (·.isMarked)).length := by
  have hkeys := congrArg (fun es => (es.filter Prod.snd).length) h
  simpa [List.filter_map, Function.comp_def] using hkeys

end Stand

/-- How the key is found: several marked fields are too many, one marked field is the key, and
without any it is the field called `id`, if there is one. -/
inductive KeySearch (fs : List MarkedField) : Except Refusal String → Prop
  | several (h : 1 < (fs.filter (·.mark.isKey)).length) : KeySearch fs (.error .severalKeys)
  | missing (hone : (fs.filter (·.mark.isKey)).length ≤ 1)
      (h : ¬∃ f ∈ fs, f.mark.isKey = true ∨ f.name = "id") : KeySearch fs (.error .missingKey)
  | found {key : String} (hone : (fs.filter (·.mark.isKey)).length ≤ 1)
      (h : ∀ name, (∃ k ∈ fs, (k.mark.isKey = true ∨
        k.name = "id" ∧ ∀ g ∈ fs, g.mark.isKey = false) ∧ k.name = name) ↔ name = key) :
      KeySearch fs (.ok key)

theorem keySearch (fs : List MarkedField) : KeySearch fs (keyField fs) := by
  rw [keyField]
  cases hkeys : fs.filter (·.mark.isKey) with
  | nil =>
    have hnone : ∀ f ∈ fs, f.mark.isKey = false := by
      intro f hf
      simpa using List.filter_eq_nil_iff.1 hkeys f hf
    have hone : (fs.filter (·.mark.isKey)).length ≤ 1 := by simp [hkeys]
    by_cases hid : fs.any (·.name == "id") = true
    · obtain ⟨f, hf, hname⟩ := List.any_eq_true.1 hid
      have hname : f.name = "id" := by simpa using hname
      simp only [hid, if_true]
      refine .found hone fun name => ⟨?_, ?_⟩
      · rintro ⟨k, hk, hmarked | ⟨hk', -⟩, rfl⟩
        · simp [hnone k hk] at hmarked
        · exact hk'
      · rintro rfl
        exact ⟨f, hf, .inr ⟨hname, hnone⟩, hname⟩
    · simp only [hid, Bool.false_eq_true, if_false]
      refine .missing hone ?_
      rintro ⟨f, hf, hmarked | hname⟩
      · simp [hnone f hf] at hmarked
      · exact hid (List.any_eq_true.2 ⟨f, hf, by simpa using hname⟩)
  | cons k rest =>
    cases rest with
    | cons k' rest => exact .several (by simp [hkeys])
    | nil =>
      -- The one marked field is the key, and a field called `id` counts for nothing beside it.
      have hmem : ∀ f, f ∈ fs ∧ f.mark.isKey = true ↔ f = k := by
        intro f
        have hf : f ∈ fs.filter (·.mark.isKey) ↔ f ∈ [k] := by rw [hkeys]
        rwa [List.mem_filter, List.mem_singleton] at hf
      obtain ⟨hk, hmarked⟩ := (hmem k).2 rfl
      refine .found (by simp [hkeys]) fun name => ⟨?_, ?_⟩
      · rintro ⟨f, hf, hmarked' | ⟨-, hnone⟩, rfl⟩
        · rw [(hmem f).1 ⟨hf, hmarked'⟩]
        · simp [hnone k hk] at hmarked
      · rintro rfl
        exact ⟨k, hk, .inl hmarked, rfl⟩

section Columns

variable {d : Item} {fs : List MarkedField} {key : String}

theorem isKey_iff (hstand : Stand fs d.declared) (hkey : keyField fs = .ok key) (name : String) :
    (∃ k, d.IsKey k ∧ k.name = name) ↔ name = key := by
  have hsearch := keySearch fs
  rw [hkey] at hsearch
  cases hsearch with
  | found _ hfound =>
    have hnone := hstand.forall_iff fun _ marked => marked = false
    rw [← hfound, hnone, hstand.exists_iff fun n marked => (marked = true ∨
      n = "id" ∧ ∀ g ∈ d.declared, g.isMarked = false) ∧ n = name]
    simp only [Item.IsKey, and_assoc]

theorem isColumn_iff (hstand : Stand fs d.declared) (hkey : keyField fs = .ok key)
    (f : DeclaredField) : d.IsColumn f ↔ f ∈ d.declared ∧ f.name ≠ key := by
  have hiff := isKey_iff hstand hkey
  rw [Item.IsColumn]
  constructor
  · rintro ⟨hf, hother⟩
    refine ⟨hf, fun he => ?_⟩
    obtain ⟨k, hk, hname⟩ := (hiff key).2 rfl
    exact hother k hk (he.trans hname.symm)
  · rintro ⟨hf, hne⟩
    exact ⟨hf, fun k hk he => hne (he.trans ((hiff k.name).1 ⟨k, hk, rfl⟩))⟩

theorem any_columns_iff (hstand : Stand fs d.declared) (hkey : keyField fs = .ok key)
    (name : String) :
    (fs.filter (·.name ≠ key)).any (·.name == name) = true ↔ ∃ f, d.IsColumn f ∧ f.name = name := by
  have hexists := hstand.exists_iff fun n _ => n ≠ key ∧ n = name
  simp only [isColumn_iff hstand hkey, and_assoc, ← hexists]
  simp

end Columns

/-- A declaration is accepted after all checks, or refused after the first that it does not pass. -/
inductive Verdict (d : Item) : Except Refusal Outline → Prop
  | accepted {o : Outline} (h : ∀ c, d.Passes c) : Verdict d (.ok o)
  | refused {c : Check} {r : Refusal} (hfirst : d.FirstFailing c) (hr : d.Refuses c r) :
      Verdict d (.error r)

section Verdict

variable {d : Item} {fs : List MarkedField} {key : String} {o : Outline}

theorem verdict_display (hstand : Stand fs d.declared) (hkey : keyField fs = .ok key)
    (hbefore : d.PassesBefore 6) :
    Verdict d (do
      checkDisplay (fs.filter (·.name ≠ key)) d.displayTarget?
      .ok o) := by
  cases htarget : d.displayTarget? with
  | none =>
    refine .accepted (hbefore.next (c := .display) ?_).all
    intro target h
    cases htarget.symm.trans h
  | some target =>
    have hany := any_columns_iff hstand hkey target
    rw [checkDisplay]
    by_cases hnamed : (fs.filter (·.name ≠ key)).any (·.name == target) = true
    · rw [if_pos hnamed]
      refine .accepted (hbefore.next (c := .display) ?_).all
      intro target' h
      cases htarget.symm.trans h
      exact hany.1 hnamed
    · rw [if_neg hnamed]
      refine .refused (c := .display) ⟨hbefore, fun h => ?_⟩ ⟨target, htarget, rfl⟩
      exact hnamed (hany.2 (h target htarget))

theorem verdict_columns (hstand : Stand fs d.declared) (hkey : keyField fs = .ok key)
    (hbefore : d.PassesBefore 5) :
    Verdict d (if (fs.filter (·.name ≠ key)).any (·.name == "id") then .error .columnNamedId
      else do
        checkDisplay (fs.filter (·.name ≠ key)) d.displayTarget?
        .ok o) := by
  have hany := any_columns_iff hstand hkey "id"
  by_cases hid : (fs.filter (·.name ≠ key)).any (·.name == "id") = true
  · rw [if_pos hid]
    obtain ⟨f, hf, hname⟩ := hany.1 hid
    exact .refused (c := .freeId) ⟨hbefore, fun h => h f hf hname⟩ rfl
  · rw [if_neg hid]
    apply verdict_display hstand hkey (hbefore.next (c := .freeId) _)
    intro f hf hname
    exact hid (hany.2 ⟨f, hf, hname⟩)

theorem verdict_fields {outlineOf : String → Outline} (hstand : Stand fs d.declared)
    (hbefore : d.PassesBefore 3) :
    Verdict d (do
      let key ← keyField fs
      if (fs.filter (·.name ≠ key)).any (·.name == "id") then .error .columnNamedId
      else do
        checkDisplay (fs.filter (·.name ≠ key)) d.displayTarget?
        .ok (outlineOf key)) := by
  have hsearch := keySearch fs
  have hlength := hstand.length_filter
  have hsome := hstand.exists_iff fun n marked => marked = true ∨ n = "id"
  cases hkey : keyField fs with
  | error r =>
    rw [hkey] at hsearch
    cases hsearch with
    | several h =>
      refine .refused (c := .oneKey) ⟨hbefore, fun hone => ?_⟩ rfl
      rw [Item.Passes] at hone
      omega
    | missing hone h =>
      have hone : d.Passes .oneKey := by rwa [Item.Passes, ← hlength]
      exact .refused (c := .someKey) ⟨hbefore.next hone, fun hany => h (hsome.2 hany)⟩ rfl
  | ok key =>
    rw [hkey] at hsearch
    cases hsearch with
    | found hone h =>
      obtain ⟨k, hk, hkeyed, -⟩ := (h key).2 rfl
      have hone : d.Passes .oneKey := by rwa [Item.Passes, ← hlength]
      have hany : d.Passes .someKey := hsome.1 ⟨k, hk, hkeyed.imp_right And.left⟩
      exact verdict_columns hstand hkey ((hbefore.next hone).next hany)

theorem verdict (d : Item) : Verdict d d.outline := by
  -- The checks are followed in the order in which they are made, with those that were passed kept.
  rw [Item.outline]
  cases hmodel : readModelMark d.attributes with
  | error r =>
    have hfirst := readModelMark_eq_error.1 hmodel
    exact .refused (c := .modelOptions) ⟨d.passesBefore_zero, hfirst.not_reads⟩ hfirst
  | ok mark =>
    have hbefore : d.PassesBefore 1 :=
      d.passesBefore_zero.next (c := .modelOptions) (reads_of_readModelMark hmodel)
    have hdisplay : mark.display = d.displayTarget? := display_readModelMark hmodel
    cases hshape : d.shape with
    | tuple =>
      refine .refused (c := .shape) ⟨hbefore, ?_⟩ (.inr ⟨.inl hshape, rfl⟩)
      simp [Item.Passes, hshape]
    | unit =>
      refine .refused (c := .shape) ⟨hbefore, ?_⟩ (.inr ⟨.inr hshape, rfl⟩)
      simp [Item.Passes, hshape]
    | choice =>
      refine .refused (c := .shape) ⟨hbefore, ?_⟩ (.inl ⟨hshape, rfl⟩)
      simp [Item.Passes, hshape]
    | fields declared =>
      have hdeclared : d.declared = declared := by rw [Item.declared, hshape]
      have hbefore : d.PassesBefore 2 := hbefore.next (c := .shape) ⟨declared, hshape⟩
      rw [ok_bind, Shape.fields?, ok_bind]
      cases hmarked : declared.mapM markField with
      | error r =>
        have hfirst : d.Refuses .fieldOptions r := by
          rw [Item.Refuses, hdeclared]
          exact mapM_markField_eq_error.1 hmarked
        exact .refused (c := .fieldOptions) ⟨hbefore, hfirst.not_reads⟩ hfirst
      | ok fs =>
        have hreads : d.Passes .fieldOptions := by
          rw [Item.Passes, hdeclared]
          exact reads_of_mapM_markField hmarked
        have hstand : Stand fs d.declared := by
          rw [hdeclared]
          exact stand_of_mapM_markField hmarked
        rw [ok_bind, hdisplay]
        exact verdict_fields hstand (hbefore.next hreads)

theorem Verdict.ok_iff {answer : Except Refusal Outline} (h : Verdict d answer) :
    (∃ o, answer = .ok o) ↔ ∀ c, d.Passes c := by
  cases h with
  | accepted hpasses => exact ⟨fun _ => hpasses, fun _ => ⟨_, rfl⟩⟩
  | refused hfirst _ =>
    constructor
    · rintro ⟨o, ho⟩
      cases ho
    · intro hpasses
      exact absurd (hpasses _) hfirst.2

/-- No other check comes first, and a check has one refusal for each declaration. -/
theorem Verdict.error_iff {answer : Except Refusal Outline} {r : Refusal} (h : Verdict d answer) :
    answer = .error r ↔ ∃ c, d.FirstFailing c ∧ d.Refuses c r := by
  cases h with
  | accepted hpasses =>
    constructor
    · intro hr
      cases hr
    · rintro ⟨c, hfirst, -⟩
      exact absurd (hpasses c) hfirst.2
  | refused hfirst hr =>
    constructor
    · intro he
      cases he
      exact ⟨_, hfirst, hr⟩
    · rintro ⟨c, hfirst', hr'⟩
      cases hfirst.unique hfirst'
      rw [hr.unique hr']

end Verdict

namespace Item

theorem isColumn_iff_not_isKey {d : Item} (hd : (d.declared.map (·.name)).Nodup)
    {f : DeclaredField} (hf : f ∈ d.declared) : d.IsColumn f ↔ ¬d.IsKey f := by
  constructor
  · intro hcolumn hkey
    exact hcolumn.2 f hkey rfl
  · intro hother
    refine ⟨hf, fun k hk hname => hother ?_⟩
    rwa [List.inj_on_of_nodup_map hd hf hk.1 hname]

/-- A declaration is accepted if it passes every check, and otherwise the first check that it does
not pass says why it is refused. Where names are distinct, as in any declaration of a structure,
its columns are all fields but the key. -/
theorem outline_decided (d : Item) :
    ((∃ o, d.outline = .ok o) ↔ ∀ c, d.Passes c) ∧
    (∀ r, d.outline = .error r ↔ ∃ c, d.FirstFailing c ∧ d.Refuses c r) ∧
    ((d.declared.map (·.name)).Nodup → ∀ f ∈ d.declared, d.IsColumn f ↔ ¬d.IsKey f) := by
  have hverdict := verdict d
  refine ⟨hverdict.ok_iff, fun r => hverdict.error_iff, fun hd f hf => ?_⟩
  exact isColumn_iff_not_isKey hd hf

/-- The key is marked, a plain field is called `id`, and what is to be displayed is the key. -/
def clashing : Item :=
  ⟨"Reading", [[.ident "orm", .group .round [.ident "display", .punct '=' false,
      .text "\"serial\"" "serial"]]],
    .fields [⟨"id", [.ident "i64"], []⟩,
      ⟨"serial", [.ident "i64"], [[.ident "orm", .group .round [.ident "id"]]]⟩]⟩

theorem outline_decided_clashing :
    (clashing.declared.map (·.name)).Nodup ∧ (¬∀ c, clashing.Passes c) ∧
    (∃ c, clashing.FirstFailing c ∧ clashing.Refuses c .columnNamedId) ∧
    ∀ f ∈ clashing.declared, clashing.IsColumn f ↔ ¬clashing.IsKey f := by
  obtain ⟨haccepted, hrefused, hcolumns⟩ := outline_decided clashing
  have hnames : (clashing.declared.map (·.name)).Nodup := by decide
  have hrefusal : clashing.outline = .error .columnNamedId := by rfl
  refine ⟨hnames, fun h => ?_, (hrefused _).1 hrefusal, hcolumns hnames⟩
  obtain ⟨o, ho⟩ := haccepted.2 h
  cases hrefusal.symm.trans ho

end Item

end TableMapper.Declaration
