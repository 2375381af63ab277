import Mathlib.Data.List.Forall2
import TableMapper.Proofs.Except
import TableMapper.Proofs.Json.Members
import TableMapper.Proofs.Record

/-!
# Records of JSON members

The members of an object become a record if the last member of every key brings a scalar, and then
that is what the record holds under the key. One more member may change what stands under its own
key and nothing else.
-/

namespace TableMapper

def Json.isScalar : Json → Bool
  | list _ | object _ => false
  | _ => true

def noScalar (column : String) (j : Json) : Error :=
  .decode column ("expected a JSON scalar, got " ++ j.canonical.render)

namespace Value

theorem exists_ofJson {j : Json} (h : j.isScalar = true) (column : String) :
    ∃ v, ofJson column j = .ok v := by
  cases j with
  | list items => cases h
  | object ms => cases h
  | int n =>
    rw [ofJson, ofNumber, Json.asInt64?]
    cases Decimal.int64? n with
    | none => exact ⟨_, rfl⟩
    | some i => exact ⟨_, rfl⟩
  | _ => exact ⟨_, rfl⟩

theorem ofJson_eq_error {j : Json} (h : j.isScalar = false) (column : String) :
    ofJson column j = .error (noScalar column j) := by
  cases j with
  | list items => rfl
  | object ms => rfl
  | _ => cases h

theorem isScalar_of_ofJson {j : Json} {column : String} {v : Value} (h : ofJson column j = .ok v) :
    j.isScalar = true := by
  by_contra hj
  rw [ofJson_eq_error (by simpa using hj)] at h
  cases h

end Value

namespace Record

theorem entriesOfMembers_ok {ms : List (String × Json)} {es : List (String × Value)}
    (h : entriesOfMembers ms = .ok es) :
    List.Forall₂ (fun m e => m.1 = e.1 ∧ Value.ofJson m.1 m.2 = .ok e.2) ms es := by
  induction ms generalizing es with
  | nil =>
    cases h
    exact .nil
  | cons m ms ih =>
    rw [entriesOfMembers, bind_eq_ok] at h
    obtain ⟨v, hv, h⟩ := h
    rw [bind_eq_ok] at h
    obtain ⟨es', hes, h⟩ := h
    cases h
    exact .cons ⟨rfl, hv⟩ (ih hes)

theorem exists_entriesOfMembers {ms : List (String × Json)} (h : ∀ m ∈ ms, m.2.isScalar = true) :
    ∃ es, entriesOfMembers ms = .ok es := by
  induction ms with
  | nil => exact ⟨[], rfl⟩
  | cons m ms ih =>
    obtain ⟨v, hv⟩ := Value.exists_ofJson (h m List.mem_cons_self) m.1
    obtain ⟨es, hes⟩ := ih fun m' hm' => h m' (List.mem_cons_of_mem m hm')
    refine ⟨(m.1, v) :: es, ?_⟩
    rw [entriesOfMembers, hv, ok_bind, hes, ok_bind]

theorem entriesOfMembers_error {ms : List (String × Json)} (h : ∀ m ∈ ms, m.2.isScalar = true)
    {k : String} {j : Json} (hj : j.isScalar = false) (ms' : List (String × Json)) :
    entriesOfMembers (ms ++ (k, j) :: ms') = .error (noScalar k j) := by
  induction ms with
  | nil => rw [List.nil_append, entriesOfMembers, Value.ofJson_eq_error hj, error_bind]
  | cons m ms ih =>
    obtain ⟨v, hv⟩ := Value.exists_ofJson (h m List.mem_cons_self) m.1
    have hrest := ih fun m' hm' => h m' (List.mem_cons_of_mem m hm')
    rw [List.cons_append, entriesOfMembers, hv, ok_bind, hrest, error_bind]

section Entries

variable {ms : List (String × Json)} {es : List (String × Value)}
  (h : List.Forall₂ (fun m e => m.1 = e.1 ∧ Value.ofJson m.1 m.2 = .ok e.2) ms es)

include h

theorem keys_entries : es.map Prod.fst = ms.map Prod.fst := by
  induction h with
  | nil => rfl
  | cons hm _ ih => rw [List.map_cons, List.map_cons, ih, hm.1]

theorem find?_entries (k : String) :
    (es.find? fun e => e.1 = k).map (fun e => Except.ok e.2) =
      (ms.find? fun m => m.1 = k).map fun m => Value.ofJson k m.2 := by
  induction h with
  | nil => rfl
  | @cons m e ms es hm _ ih =>
    by_cases hk : m.1 = k
    · subst hk
      simp [← hm.1, hm.2]
    · have hk' : e.1 ≠ k := fun he => hk (hm.1.trans he)
      simp only [List.find?_cons, hk, hk', decide_false, ih]

end Entries

theorem get?_ofMembers {ms : List (String × Json)} {r : Record} (h : ofMembers ms = .ok r)
    (k : String) : (r.get? k).map Except.ok = (Json.last? ms k).map (Value.ofJson k) := by
  obtain ⟨es, hes, rfl⟩ := map_eq_ok.1 h
  have hentries := entriesOfMembers_ok hes
  have hd : (es.map Prod.fst).Nodup := keys_entries hentries ▸ Json.nodup_sortMembers ms
  have hfound := find?_entries hentries k
  rw [Json.find?_sortMembers] at hfound
  rw [get?, entries_ofPairs hd, Json.last?, Option.map_map, Option.map_map]
  exact hfound

theorem exists_ofMembers_iff {ms : List (String × Json)} :
    (∃ r, ofMembers ms = .ok r) ↔ ∀ k j, Json.last? ms k = some j → j.isScalar = true := by
  constructor
  · rintro ⟨r, hr⟩ k j hj
    have hget := get?_ofMembers hr k
    rw [hj, Option.map_some, Option.map_eq_some_iff] at hget
    obtain ⟨v, -, hv⟩ := hget
    exact Value.isScalar_of_ofJson hv.symm
  · intro h
    obtain ⟨es, hes⟩ := exists_entriesOfMembers fun m hm => h m.1 m.2 (Json.mem_sortMembers.1 hm)
    exact ⟨ofPairs es, map_eq_ok.2 ⟨es, hes, rfl⟩⟩

theorem ofMembers_error {ms : List (String × Json)} {k : String} {j : Json}
    (hlast : Json.last? ms k = some j) (hj : j.isScalar = false)
    (h : ∀ k' j', k' ≠ k → Json.last? ms k' = some j' → j'.isScalar = true) :
    ofMembers ms = .error (noScalar k j) := by
  obtain ⟨front, back, hsplit⟩ := List.append_of_mem (Json.mem_sortMembers.2 hlast)
  have hd := Json.nodup_sortMembers ms
  rw [hsplit, List.map_append, List.map_cons, List.nodup_append] at hd
  -- The keys before it in sorted order are other keys, so reading gets as far as this member.
  have hfront : ∀ m ∈ front, m.2.isScalar = true := by
    intro m hm
    have hne : m.1 ≠ k := hd.2.2 m.1 (List.mem_map_of_mem hm) k List.mem_cons_self
    have hmem : m ∈ Json.sortMembers ms := hsplit ▸ List.mem_append_left _ hm
    exact h m.1 m.2 hne (Json.mem_sortMembers.1 hmem)
  rw [ofMembers, hsplit, entriesOfMembers_error hfront hj, map_error]

end Record

section Extra

variable {before after : List (String × Json)} {k : String} {j : Json}

theorem Json.last?_extra {k' : String} (h : k' ≠ k ∨ k' ∈ after.map Prod.fst) :
    last? (before ++ (k, j) :: after) k' = last? (before ++ after) k' := by
  have hsplit : before ++ (k, j) :: after = before ++ [(k, j)] ++ after := by simp
  rw [hsplit, last?_append, last?_append, last?_append, last?_singleton]
  rcases h with hne | hmem
  · rw [if_neg hne.symm, Option.none_or]
  · obtain ⟨j', hj'⟩ := Option.ne_none_iff_exists'.1 (last?_eq_none.not_left.2 hmem)
    rw [hj', Option.some_or, Option.some_or]

theorem Json.last?_extra_self (h : k ∉ after.map Prod.fst) :
    last? (before ++ (k, j) :: after) k = some j := by
  have hsplit : before ++ (k, j) :: after = before ++ [(k, j)] ++ after := by simp
  rw [hsplit, last?_append, last?_append, last?_singleton, if_pos rfl, last?_eq_none.2 h]
  rfl

variable {r : Record} (h : Record.ofMembers (before ++ after) = .ok r)

include h

/-- One more member that is a scalar, or that is not the last of its key, leaves what stands under
the other keys as it was. -/
theorem Record.ofMembers_extra (hj : j.isScalar = true ∨ k ∈ after.map Prod.fst) :
    ∃ r', ofMembers (before ++ (k, j) :: after) = .ok r' ∧
      ∀ k', k' ≠ k → r'.get? k' = r.get? k' := by
  have hscalars := exists_ofMembers_iff.1 ⟨r, h⟩
  have hscalars' : ∀ k' j', Json.last? (before ++ (k, j) :: after) k' = some j' →
      j'.isScalar = true := by
    intro k' j' hlast
    -- Only where the new member is the last of its key is it seen at all.
    by_cases hk' : k' ≠ k ∨ k' ∈ after.map Prod.fst
    · rw [Json.last?_extra hk'] at hlast
      exact hscalars k' j' hlast
    · obtain ⟨he, hnot⟩ := not_or.1 hk'
      obtain rfl := not_not.1 he
      rw [Json.last?_extra_self hnot] at hlast
      cases hlast
      exact hj.resolve_right hnot
  obtain ⟨r', hr'⟩ := exists_ofMembers_iff.2 hscalars'
  refine ⟨r', hr', fun k' hk' => ?_⟩
  have hget := get?_ofMembers h k'
  have hget' := get?_ofMembers hr' k'
  rw [Json.last?_extra (.inl hk'), ← hget] at hget'
  exact Option.map_injective (fun _ _ => Except.ok.inj) hget'

theorem Record.ofMembers_extra_error (hj : j.isScalar = false) (hk : k ∉ after.map Prod.fst) :
    ofMembers (before ++ (k, j) :: after) = .error (noScalar k j) := by
  apply ofMembers_error (Json.last?_extra_self hk) hj
  intro k' j' hk' hlast
  rw [Json.last?_extra (.inl hk')] at hlast
  exact exists_ofMembers_iff.1 ⟨r, h⟩ k' j' hlast

end Extra

end TableMapper
