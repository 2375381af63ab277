import Mathlib.Data.List.Forall2

/-!
# Steps that may fail

A step that succeeds hands its result to the next one, and a sequence succeeds only if every step
does. The rewriting rules are no definitional unfoldings, so that large numerals in a later step
are never computed with.
-/

namespace TableMapper

variable {ε α β γ : Type}

@[simp] theorem ok_bind (a : α) (f : α → Except ε β) : (Except.ok a >>= f) = f a := (rfl)

@[simp] theorem error_bind (e : ε) (f : α → Except ε β) :
    (Except.error e >>= f) = Except.error e := (rfl)

@[simp] theorem ok_pure (a : α) : (pure a : Except ε α) = .ok a := (rfl)

@[simp] theorem map_ok (f : α → β) (a : α) : (Except.ok a : Except ε α).map f = .ok (f a) := (rfl)

@[simp] theorem map_error (f : α → β) (e : ε) :
    (Except.error e : Except ε α).map f = .error e := (rfl)

theorem bind_eq_ok {x : Except ε α} {f : α → Except ε β} {b : β} :
    (x >>= f) = .ok b ↔ ∃ a, x = .ok a ∧ f a = .ok b := by
  cases x <;> simp

theorem map_eq_ok {f : α → β} {x : Except ε α} {b : β} :
    x.map f = .ok b ↔ ∃ a, x = .ok a ∧ f a = b := by
  cases x <;> simp

theorem map_eq_error {f : α → β} {x : Except ε α} {e : ε} :
    x.map f = .error e ↔ x = .error e := by
  cases x <;> simp

theorem mapError_eq_ok {δ : Type} {f : ε → δ} {x : Except ε α} {a : α} :
    x.mapError f = .ok a ↔ x = .ok a := by
  cases x <;> simp [Except.mapError]

theorem mapError_eq_error {δ : Type} {f : ε → δ} {x : Except ε α} {d : δ} :
    x.mapError f = .error d ↔ ∃ e, x = .error e ∧ f e = d := by
  cases x <;> simp [Except.mapError]

theorem toOption_eq_some {x : Except ε α} {a : α} : x.toOption = some a ↔ x = .ok a := by
  cases x <;> simp [Except.toOption]

theorem toOption_map_eq_some {f : α → β} {x : Except ε α} {b : β} :
    x.toOption.map f = some b ↔ ∃ a, x = .ok a ∧ f a = b := by
  cases x <;> simp [Except.toOption]

theorem guard_eq_error {c : Prop} [Decidable c] {own e : ε} {a : α} :
    (if c then .error own else .ok a : Except ε α) = .error e ↔ c ∧ e = own := by
  by_cases hc : c
  · rw [if_pos hc]
    constructor
    · intro h
      cases h
      exact ⟨hc, rfl⟩
    · rintro ⟨-, rfl⟩
      rfl
  · rw [if_neg hc]
    constructor
    · intro h
      cases h
    · rintro ⟨hholds, -⟩
      exact absurd hholds hc

theorem guard_eq_ok {c : Prop} [Decidable c] {own : ε} {a b : α} :
    (if c then .error own else .ok a : Except ε α) = .ok b ↔ ¬c ∧ a = b := by
  by_cases hc : c <;> simp [hc]

/-- What every single step keeps is kept by the steps over a whole list. -/
theorem mapM_keeps {f : α → Except ε β} {before : α → γ} {after : β → γ}
    (hf : ∀ a b, f a = .ok b → after b = before a) {as : List α} {bs : List β}
    (h : as.mapM f = .ok bs) : bs.map after = as.map before := by
  induction as generalizing bs with
  | nil =>
    rw [List.mapM_nil] at h
    cases h
    rfl
  | cons a as ih =>
    rw [List.mapM_cons, bind_eq_ok] at h
    obtain ⟨b, hb, h⟩ := h
    rw [bind_eq_ok] at h
    obtain ⟨rest, hrest, h⟩ := h
    cases h
    rw [List.map_cons, List.map_cons, hf a b hb, ih hrest]

theorem exists_of_mem_forall₂ {R : α → β → Prop} {as : List α} {bs : List β}
    (h : List.Forall₂ R as bs) {a : α} (ha : a ∈ as) : ∃ b ∈ bs, R a b := by
  induction h with
  | nil => cases ha
  | cons hab _ ih =>
    rcases List.mem_cons.1 ha with rfl | ha
    · exact ⟨_, List.mem_cons_self, hab⟩
    · obtain ⟨b, hb, hab'⟩ := ih ha
      exact ⟨b, List.mem_cons_of_mem _ hb, hab'⟩

theorem mapM_eq_ok {f : α → Except ε β} {as : List α} {bs : List β} :
    as.mapM f = .ok bs ↔ List.Forall₂ (fun a b => f a = .ok b) as bs := by
  induction as generalizing bs with
  | nil =>
    rw [List.mapM_nil, List.forall₂_nil_left_iff]
    constructor
    · intro h
      cases h
      rfl
    · rintro rfl
      rfl
  | cons a as ih =>
    rw [List.mapM_cons, bind_eq_ok, List.forall₂_cons_left_iff]
    constructor
    · rintro ⟨b, hb, h⟩
      obtain ⟨rest, hrest, h⟩ := bind_eq_ok.1 h
      cases h
      exact ⟨b, rest, hb, ih.1 hrest, rfl⟩
    · rintro ⟨b, rest, hb, hrest, rfl⟩
      exact ⟨b, hb, bind_eq_ok.2 ⟨rest, ih.2 hrest, rfl⟩⟩

theorem mapM_congr_forall₂ {f : α → Except ε β} {as as' : List α}
    (h : List.Forall₂ (fun a a' => f a = f a') as as') : as.mapM f = as'.mapM f := by
  induction h with
  | nil => rfl
  | cons hstep _ ih => rw [List.mapM_cons, List.mapM_cons, hstep, ih]

/-- The first step that fails decides. -/
theorem first_of_mapM {f : α → Except ε β} {as : List α} {e : ε} (h : as.mapM f = .error e) :
    ∃ front a back, as = front ++ a :: back ∧ (∀ a' ∈ front, ∃ b, f a' = .ok b) ∧
      f a = .error e := by
  induction as with
  | nil => cases h
  | cons a as ih =>
    rw [List.mapM_cons] at h
    cases ha : f a with
    | error own =>
      rw [ha, error_bind] at h
      cases h
      exact ⟨[], a, as, rfl, by simp, ha⟩
    | ok b =>
      rw [ha, ok_bind] at h
      have hrest : as.mapM f = .error e := map_eq_error.1 h
      obtain ⟨front, a', back, rfl, hfront, he⟩ := ih hrest
      exact ⟨a :: front, a', back, rfl, List.forall_mem_cons.2 ⟨⟨b, ha⟩, hfront⟩, he⟩

theorem mapM_cons_eq_error {f : α → Except ε β} {a : α} {as : List α} {e : ε} :
    (a :: as).mapM f = .error e ↔
      f a = .error e ∨ (∃ b, f a = .ok b) ∧ as.mapM f = .error e := by
  rw [List.mapM_cons]
  cases f a with
  | error own => simp
  | ok b =>
    rw [ok_bind]
    cases as.mapM f <;> simp

theorem mapM_append_eq_error {f : α → Except ε β} {as as' : List α} {e : ε} :
    (as ++ as').mapM f = .error e ↔
      as.mapM f = .error e ∨ (∃ bs, as.mapM f = .ok bs) ∧ as'.mapM f = .error e := by
  rw [List.mapM_append]
  cases as.mapM f with
  | error own => simp
  | ok bs =>
    rw [ok_bind]
    cases as'.mapM f <;> simp

theorem mapM_eq_error {f : α → Except ε β} {as : List α} {e : ε} :
    as.mapM f = .error e ↔ ∃ front a back, as = front ++ a :: back ∧
      (∀ a' ∈ front, ∃ b, f a' = .ok b) ∧ f a = .error e := by
  constructor
  · exact first_of_mapM
  · rintro ⟨front, a, back, rfl, hfront, ha⟩
    induction front with
    | nil => exact mapM_cons_eq_error.2 (.inl ha)
    | cons a' front ih =>
      obtain ⟨ha', hfront⟩ := List.forall_mem_cons.1 hfront
      exact mapM_cons_eq_error.2 (.inr ⟨ha', ih hfront⟩)

theorem exists_mapM_eq_ok {f : α → Except ε β} {as : List α} :
    (∃ bs, as.mapM f = .ok bs) ↔ ∀ a ∈ as, ∃ b, f a = .ok b := by
  constructor
  · rintro ⟨bs, h⟩ a ha
    obtain ⟨b, -, hb⟩ := exists_of_mem_forall₂ (mapM_eq_ok.1 h) ha
    exact ⟨b, hb⟩
  · intro h
    cases hall : as.mapM f with
    | ok bs => exact ⟨bs, rfl⟩
    | error e =>
      obtain ⟨front, a, back, rfl, -, he⟩ := first_of_mapM hall
      obtain ⟨b, hb⟩ := h a (by simp)
      cases hb.symm.trans he

theorem foldlM_map {f : γ → β → γ} {g : α → Except ε β} (c : γ) (as : List α) :
    as.foldlM (fun c a => (g a).map (f c)) c = (as.mapM g).map (List.foldl f c) := by
  induction as generalizing c with
  | nil => rfl
  | cons a as ih =>
    rw [List.foldlM_cons, List.mapM_cons]
    cases g a with
    | error e => rfl
    | ok b =>
      rw [map_ok, ok_bind, ok_bind, ih]
      cases as.mapM g <;> rfl

theorem all_or_first (p : α → Prop) (as : List α) :
    (∀ a ∈ as, p a) ∨
      ∃ front a back, as = front ++ a :: back ∧ (∀ a' ∈ front, p a') ∧ ¬p a := by
  induction as with
  | nil => exact .inl fun _ h => nomatch h
  | cons a as ih =>
    by_cases ha : p a
    · rcases ih with hall | ⟨front, a', back, rfl, hfront, ha'⟩
      · exact .inl (List.forall_mem_cons.2 ⟨ha, hall⟩)
      · exact .inr ⟨a :: front, a', back, rfl, List.forall_mem_cons.2 ⟨ha, hfront⟩, ha'⟩
    · exact .inr ⟨[], a, as, rfl, by simp, ha⟩

theorem mapM_eq_some {f : α → Option β} {as : List α} {bs : List β} :
    as.mapM f = some bs ↔ as.map f = bs.map some := by
  induction as generalizing bs with
  | nil => cases bs <;> simp
  | cons a as ih =>
    cases hf : f a with
    | none => cases bs <;> simp [List.mapM_cons, hf]
    | some b =>
      cases bs with
      | nil =>
        rw [List.mapM_cons, hf]
        cases as.mapM f <;> simp
      | cons c cs =>
        simp only [List.mapM_cons, hf, Option.bind_eq_bind, Option.bind_some, List.map_cons,
          List.cons.injEq, ← ih]
        cases as.mapM f <;> simp

theorem exists_mapM {f : α → Option β} {as : List α} (h : ∀ a ∈ as, ∃ b, f a = some b) :
    ∃ bs, as.mapM f = some bs := by
  induction as with
  | nil => exact ⟨[], rfl⟩
  | cons a as ih =>
    obtain ⟨b, hb⟩ := h a List.mem_cons_self
    obtain ⟨bs, hbs⟩ := ih fun a' ha => h a' (List.mem_cons_of_mem a ha)
    refine ⟨b :: bs, ?_⟩
    rw [mapM_eq_some] at hbs ⊢
    rw [List.map_cons, hb, hbs, List.map_cons]

theorem mem_of_mapM {f : α → Option β} {as : List α} {bs : List β} (h : as.mapM f = some bs)
    {a : α} (ha : a ∈ as) {b : β} (hb : f a = some b) : b ∈ bs := by
  have hmem : some b ∈ bs.map some := by
    rw [← mapM_eq_some.1 h, ← hb]
    exact List.mem_map_of_mem ha
  simpa using hmem

theorem mapM_map_some {f : α → Option β} {g : γ → α} {g' : γ → β} {cs : List γ}
    (h : ∀ c ∈ cs, f (g c) = some (g' c)) : (cs.map g).mapM f = some (cs.map g') := by
  rw [mapM_eq_some, List.map_map, List.map_map]
  exact List.map_congr_left h

end TableMapper
