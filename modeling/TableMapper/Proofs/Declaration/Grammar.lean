import TableMapper.Proofs.Declaration.Attributes

/-!
# The grammar of options

Options are written one after the other, with a single comma between each two, and one more comma
may end a list that is not empty. Both readers accept exactly the lists of their own entries, and of
several options about one thing they keep the last.
-/

namespace TableMapper.Declaration

section Lists

variable {α : Type} (Entry : List Token → α → Prop)

/-- Entries with a single comma between each two. -/
inductive Separated : List Token → List α → Prop
  | single {entry : List Token} {a : α} (h : Entry entry a) : Separated entry [a]
  | comma {entry rest : List Token} {a : α} {as : List α} {joint : Bool} (h : Entry entry a)
      (hrest : Separated rest as) : Separated (entry ++ .punct ',' joint :: rest) (a :: as)

/-- A list may be empty, and another comma may end one that is not. -/
inductive Listed : List Token → List α → Prop
  | empty : Listed [] []
  | plain {ts : List Token} {as : List α} (h : Separated Entry ts as) : Listed ts as
  | ended {ts : List Token} {as : List α} {joint : Bool} (h : Separated Entry ts as) :
      Listed (ts ++ [.punct ',' joint]) as

/-- A list as it is read: nothing, one last entry, or an entry with a comma and whatever else may
stand in a list. -/
inductive Peeled (Rest : List Token → List α → Prop) : List Token → List α → Prop
  | nothing : Peeled Rest [] []
  | last {entry : List Token} {a : α} (h : Entry entry a) : Peeled Rest entry [a]
  | more {entry rest : List Token} {a : α} {as : List α} {joint : Bool} (h : Entry entry a)
      (hrest : Rest rest as) : Peeled Rest (entry ++ .punct ',' joint :: rest) (a :: as)

variable {Entry}

theorem listed_iff_peeled {ts : List Token} {as : List α} :
    Listed Entry ts as ↔ Peeled Entry (Listed Entry) ts as := by
  constructor
  · intro h
    cases h with
    | empty => exact .nothing
    | plain h =>
      cases h with
      | single h => exact .last h
      | comma h hrest => exact .more h (.plain hrest)
    | ended h =>
      cases h with
      | single h => exact .more h .empty
      | comma h hrest =>
        rw [List.append_assoc, List.cons_append]
        exact .more h (.ended hrest)
  · intro h
    cases h with
    | nothing => exact .empty
    | last h => exact .plain (.single h)
    | more h hrest =>
      cases hrest with
      | empty => exact .ended (.single h)
      | plain hrest => exact .plain (.comma h hrest)
      | ended hrest =>
        rw [← List.cons_append, ← List.append_assoc]
        exact .ended (.comma h hrest)

theorem Peeled.mono {R R' : List Token → List α → Prop} {ts : List Token} {as : List α}
    (hR : ∀ rest as, rest.length < ts.length → R rest as → R' rest as)
    (h : Peeled Entry R ts as) : Peeled Entry R' ts as := by
  cases h with
  | nothing => exact .nothing
  | last h => exact .last h
  | more h hrest =>
    refine .more h (hR _ _ ?_ hrest)
    rw [List.length_append, List.length_cons]
    omega

/-- There is only one way to read on after every comma. -/
theorem listed_of_peeled {R : List Token → List α → Prop}
    (hR : ∀ ts as, R ts as ↔ Peeled Entry R ts as) {ts : List Token} {as : List α} :
    R ts as ↔ Listed Entry ts as := by
  induction hn : ts.length using Nat.strongRecOn generalizing ts as with
  | _ n ih =>
    subst hn
    rw [hR, listed_iff_peeled]
    constructor
    · exact Peeled.mono fun rest as hlt => (ih rest.length hlt rfl).1
    · exact Peeled.mono fun rest as hlt => (ih rest.length hlt rfl).2

end Lists

def Token.truth : Bool → Token
  | true => .ident "true"
  | false => .ident "false"

/-- How an option of a field is written. -/
inductive FieldOption.Written : List Token → FieldOption → Prop
  | key : Written [.ident "id"] .key
  | blank {joint : Bool} (allowed : Bool) :
      Written [.ident "blank", .punct '=' joint, .truth allowed] (.blank allowed)

/-- How an option of a model is written. A text may be written in several ways. -/
inductive ModelOption.Written : List Token → ModelOption → Prop
  | table {joint : Bool} {written : String} (name : String) :
      Written [.ident "table", .punct '=' joint, .text written name] (.table name)
  | display {joint : Bool} {written : String} (field : String) :
      Written [.ident "display", .punct '=' joint, .text written field] (.display field)

theorem readName_eq_ok {t : Token} {name : String} :
    readName t = .ok name ↔ t = .ident name ∧ keywords.contains name = false := by
  cases t with
  | ident word =>
    rw [readName, guard_eq_ok, Token.ident.injEq, Bool.not_eq_true]
    constructor
    · rintro ⟨hword, rfl⟩
      exact ⟨rfl, hword⟩
    · rintro ⟨rfl, hword⟩
      exact ⟨hword, rfl⟩
  | _ => simp [readName]

theorem Token.bool?_eq_some {t : Token} {b : Bool} : t.bool? = some b ↔ t = .truth b := by
  cases t with
  | ident name => cases b <;> grind [Token.bool?, Token.truth]
  | _ => cases b <;> simp [Token.bool?, Token.truth]

theorem peeled_of_readFieldOptions {ts : List Token} {options : List FieldOption}
    (h : readFieldOptions ts = .ok options) :
    Peeled FieldOption.Written (fun ts options => readFieldOptions ts = .ok options) ts options := by
  cases ts with
  | nil =>
    cases h
    exact .nothing
  | cons t ts =>
    rw [readFieldOptions.eq_def] at h
    obtain ⟨name, hname, hoption⟩ := bind_eq_ok.1 h
    clear h
    obtain ⟨rfl, -⟩ := readName_eq_ok.1 hname
    split at hoption
    · rename_i hid
      subst hid
      -- After the word there is nothing more, or a comma, or something that does not belong there.
      split at hoption
      · cases hoption
        exact .last .key
      · obtain ⟨rest, hrest, rfl⟩ := map_eq_ok.1 hoption
        exact .more FieldOption.Written.key hrest
      · cases hoption
    · split at hoption
      · rename_i hblank
        subst hblank
        split at hoption
        · cases hoption
        · split at hoption
          · cases hoption
          · rename_i allowed hallowed
            rw [Token.bool?_eq_some.1 hallowed]
            split at hoption
            · cases hoption
              exact .last (.blank allowed)
            · obtain ⟨rest, hrest, rfl⟩ := map_eq_ok.1 hoption
              exact .more (FieldOption.Written.blank allowed) hrest
            · cases hoption
        · cases hoption
      · cases hoption

theorem readFieldOptions_eq_ok {ts : List Token} {options : List FieldOption} :
    readFieldOptions ts = .ok options ↔ Listed FieldOption.Written ts options := by
  apply listed_of_peeled (R := fun ts options => readFieldOptions ts = .ok options)
  intro ts options
  constructor
  · exact peeled_of_readFieldOptions
  · intro h
    cases h with
    | nothing => rfl
    | last h =>
      cases h with
      | key => rfl
      | blank allowed => cases allowed <;> rfl
    | more h hrest =>
      cases h with
      | key => exact map_eq_ok.2 ⟨_, hrest, rfl⟩
      | blank allowed => cases allowed <;> exact map_eq_ok.2 ⟨_, hrest, rfl⟩

theorem modelOption_eq_ok {name value : String} {option : ModelOption} :
    modelOption name value = .ok option ↔
      name = "table" ∧ option = .table value ∨ name = "display" ∧ option = .display value := by
  rw [modelOption]
  by_cases htable : name = "table"
  · subst htable
    simp [eq_comm]
  · by_cases hdisplay : name = "display"
    · subst hdisplay
      simp [eq_comm]
    · simp [htable, hdisplay]

theorem written_of_modelOption {name written value : String} {joint : Bool} {option : ModelOption}
    (h : modelOption name value = .ok option) :
    ModelOption.Written [.ident name, .punct '=' joint, .text written value] option := by
  rcases modelOption_eq_ok.1 h with ⟨rfl, rfl⟩ | ⟨rfl, rfl⟩
  · exact .table value
  · exact .display value

theorem peeled_of_readModelOptions {ts : List Token} {options : List ModelOption}
    (h : readModelOptions ts = .ok options) :
    Peeled ModelOption.Written (fun ts options => readModelOptions ts = .ok options) ts options := by
  cases ts with
  | nil =>
    cases h
    exact .nothing
  | cons t ts =>
    rw [readModelOptions.eq_def] at h
    obtain ⟨name, hname, hoption⟩ := bind_eq_ok.1 h
    clear h
    obtain ⟨rfl, -⟩ := readName_eq_ok.1 hname
    split at hoption
    · cases hoption
    · obtain ⟨option, hread, hlist⟩ := bind_eq_ok.1 hoption
      split at hlist
      · cases hlist
        exact .last (written_of_modelOption hread)
      · obtain ⟨rest, hrest, rfl⟩ := map_eq_ok.1 hlist
        exact .more (written_of_modelOption hread) hrest
      · cases hlist
    · cases hoption
    · cases hoption

theorem readModelOptions_eq_ok {ts : List Token} {options : List ModelOption} :
    readModelOptions ts = .ok options ↔ Listed ModelOption.Written ts options := by
  apply listed_of_peeled (R := fun ts options => readModelOptions ts = .ok options)
  intro ts options
  constructor
  · exact peeled_of_readModelOptions
  · intro h
    cases h with
    | nothing => rfl
    | last h => cases h <;> rfl
    | more h hrest => cases h <;> exact map_eq_ok.2 ⟨_, hrest, rfl⟩

theorem FieldMark.ofOptions_eq_iff {options : List FieldOption} {mark : FieldMark} :
    FieldMark.ofOptions options = mark ↔ (mark.isKey = true ↔ FieldOption.key ∈ options) ∧
      mark.blank = (options.filterMap FieldOption.blank?).getLast?.getD true := by
  have hkey : (FieldMark.ofOptions options).isKey = true ↔ FieldOption.key ∈ options := by
    rw [isKey_ofOptions, List.contains_iff_mem]
  have hblank := blank_ofOptions options
  rw [← List.getLast?_filterMap] at hblank
  rw [← hkey, ← hblank]
  constructor
  · rintro rfl
    exact ⟨Iff.rfl, rfl⟩
  · rintro ⟨hkeys, hblanks⟩
    cases mark with
    | mk isKey blank => exact congrArg₂ FieldMark.mk (Bool.eq_iff_iff.2 hkeys).symm hblanks.symm

theorem ModelMark.ofOptions_eq_iff {options : List ModelOption} {mark : ModelMark} :
    ModelMark.ofOptions options = mark ↔
      mark.table = (options.filterMap ModelOption.table?).getLast? ∧
        mark.display = (options.filterMap ModelOption.display?).getLast? := by
  cases mark with
  | mk table display => rw [ModelMark.ofOptions_eq, eq_comm, ModelMark.mk.injEq]

theorem readFieldMark_singleton (bracket : Bracket) (inner : List Token) :
    readFieldMark [[.ident "orm", .group bracket inner]] =
      (readFieldOptions inner).map FieldMark.ofOptions := by
  rw [readFieldMark_eq, List.mapM_cons, attributeOptions_orm]
  cases readFieldOptions inner with
  | error r => rfl
  | ok options => simp [FieldMark.merge]

theorem readModelMark_singleton (bracket : Bracket) (inner : List Token) :
    readModelMark [[.ident "orm", .group bracket inner]] =
      (readModelOptions inner).map ModelMark.ofOptions := by
  rw [readModelMark_eq, List.mapM_cons, attributeOptions_orm]
  cases readModelOptions inner with
  | error r => rfl
  | ok options => simp [ModelMark.merge]

/-- What stands between the brackets of an attribute is accepted exactly if it is a list of options
with single commas between them and at most one after the last. A field is then the key if some
option says so, and whether it may be blank is said by the last option about it. Of a model the last
table and the last display are kept. -/
theorem options_read_by_grammar (bracket : Bracket) (inner : List Token) :
    (∀ options, readFieldOptions inner = .ok options ↔ Listed FieldOption.Written inner options) ∧
    (∀ mark, readFieldMark [[.ident "orm", .group bracket inner]] = .ok mark ↔
      ∃ options, Listed FieldOption.Written inner options ∧
        (mark.isKey = true ↔ FieldOption.key ∈ options) ∧
        mark.blank = (options.filterMap FieldOption.blank?).getLast?.getD true) ∧
    (∀ options, readModelOptions inner = .ok options ↔ Listed ModelOption.Written inner options) ∧
    ∀ mark, readModelMark [[.ident "orm", .group bracket inner]] = .ok mark ↔
      ∃ options, Listed ModelOption.Written inner options ∧
        mark.table = (options.filterMap ModelOption.table?).getLast? ∧
        mark.display = (options.filterMap ModelOption.display?).getLast? := by
  refine ⟨fun _ => readFieldOptions_eq_ok, fun mark => ?_, fun _ => readModelOptions_eq_ok,
    fun mark => ?_⟩
  · rw [readFieldMark_singleton, map_eq_ok]
    simp only [readFieldOptions_eq_ok, FieldMark.ofOptions_eq_iff]
  · rw [readModelMark_singleton, map_eq_ok]
    simp only [readModelOptions_eq_ok, ModelMark.ofOptions_eq_iff]

end TableMapper.Declaration
