import Mathlib.Data.Char
import Mathlib.Data.List.Lex
import TableMapper.Json.Basic
import TableMapper.Proofs.Keyed

/-!
# Sorting the members of an object

Members with distinct keys are only put into another order. In any case one member is left for each
key, the last of them, and the keys then stand in strict order, so none stands twice.
-/

namespace TableMapper.Json

variable {α β : Type}

theorem insertMember_perm {key : String} {ms : List (String × α)} (a : α)
    (h : key ∉ ms.map Prod.fst) : (insertMember key a ms).Perm ((key, a) :: ms) := by
  induction ms with
  | nil => exact .refl _
  | cons m ms ih =>
    obtain ⟨k, b⟩ := m
    rw [List.map_cons, List.mem_cons, not_or] at h
    rw [insertMember, if_neg fun e => h.1 e.symm]
    split
    · exact .refl _
    · exact ((ih h.2).cons (k, b)).trans (.swap (key, a) (k, b) ms)

theorem foldl_insertMember_perm {ms sorted : List (String × α)}
    (h : ((sorted ++ ms).map Prod.fst).Nodup) :
    (ms.foldl (fun sorted m => insertMember m.1 m.2 sorted) sorted).Perm (sorted ++ ms) := by
  induction ms generalizing sorted with
  | nil => simp
  | cons m ms ih =>
    have hm : m.1 ∉ sorted.map Prod.fst := by
      rw [List.map_append, List.map_cons, List.nodup_append] at h
      exact fun hs => h.2.2 _ hs _ List.mem_cons_self rfl
    have hinsert : (insertMember m.1 m.2 sorted ++ ms).Perm (sorted ++ m :: ms) :=
      ((insertMember_perm m.2 hm).append_right ms).trans List.perm_middle.symm
    have hd : ((insertMember m.1 m.2 sorted ++ ms).map Prod.fst).Nodup :=
      (hinsert.map Prod.fst).nodup_iff.2 h
    exact (ih hd).trans hinsert

theorem sortMembers_perm {ms : List (String × α)} (h : (ms.map Prod.fst).Nodup) :
    (sortMembers ms).Perm ms :=
  foldl_insertMember_perm h

theorem insertMember_map (f : α → β) (key : String) (a : α) (ms : List (String × α)) :
    insertMember key (f a) (ms.map fun m => (m.1, f m.2)) =
      (insertMember key a ms).map fun m => (m.1, f m.2) := by
  induction ms with
  | nil => rfl
  | cons m ms ih =>
    rw [List.map_cons, insertMember, insertMember, ih]
    by_cases he : m.1 = key
    · simp [he]
    · by_cases hb : Text.before key m.1 = true
      · simp [he, hb]
      · simp [he, hb]

theorem foldl_insertMember_map (f : α → β) (ms sorted : List (String × α)) :
    (ms.map fun m => (m.1, f m.2)).foldl (fun sorted m => insertMember m.1 m.2 sorted)
        (sorted.map fun m => (m.1, f m.2)) =
      (ms.foldl (fun sorted m => insertMember m.1 m.2 sorted) sorted).map
        fun m => (m.1, f m.2) := by
  induction ms generalizing sorted with
  | nil => rfl
  | cons m ms ih =>
    have hinsert := insertMember_map f m.1 m.2 sorted
    simp only [List.map_cons, List.foldl_cons, hinsert, ih]

theorem sortMembers_map (f : α → β) (ms : List (String × α)) :
    sortMembers (ms.map fun m => (m.1, f m.2)) = (sortMembers ms).map fun m => (m.1, f m.2) :=
  foldl_insertMember_map f ms []

end TableMapper.Json

namespace TableMapper

namespace Text

theorem before_trans {s t u : String} (hst : before s t = true) (htu : before t u = true) :
    before s u = true := by
  simp only [before, decide_eq_true_eq] at *
  exact List.lt_trans hst htu

theorem ne_of_before {s t : String} (h : before s t = true) : s ≠ t := by
  rintro rfl
  rw [before, decide_eq_true_eq] at h
  exact List.lt_irrefl _ h

theorem before_of_not_before {s t : String} (h : ¬before s t = true) (hne : t ≠ s) :
    before t s = true := by
  simp only [before, decide_eq_true_eq] at *
  rcases lt_trichotomy s.toList t.toList with hlt | heq | hgt
  · exact absurd hlt h
  · exact absurd (String.toList_inj.1 heq).symm hne
  · exact hgt

end Text

namespace Json

variable {α : Type}

/-- What stands under a key in an object, which is what its last member with that key brings. -/
def last? (ms : List (String × α)) (key : String) : Option α :=
  (ms.reverse.find? fun m => m.1 = key).map (·.2)

theorem last?_append (ms ms' : List (String × α)) (key : String) :
    last? (ms ++ ms') key = (last? ms' key).or (last? ms key) := by
  rw [last?, List.reverse_append, List.find?_append, Option.map_or]
  rfl

theorem last?_singleton (k : String) (a : α) (key : String) :
    last? [(k, a)] key = if k = key then some a else none := by
  by_cases h : k = key <;> simp [last?, h]

theorem last?_eq_none {ms : List (String × α)} {key : String} :
    last? ms key = none ↔ key ∉ ms.map Prod.fst := by
  simp only [last?, Option.map_eq_none_iff, List.find?_eq_none, List.mem_reverse, decide_eq_true_eq,
    List.mem_map, not_exists, not_and]

theorem find?_insertMember (k : String) (a : α) (ms : List (String × α)) (key : String) :
    (insertMember k a ms).find? (fun m => m.1 = key) =
      if k = key then some (k, a) else ms.find? (fun m => m.1 = key) := by
  induction ms with
  | nil => by_cases h : k = key <;> simp [insertMember, h]
  | cons m ms ih =>
    obtain ⟨k', b⟩ := m
    rw [insertMember]
    by_cases he : k' = k
    · subst he
      rw [if_pos rfl]
      by_cases h : k' = key <;> simp [h]
    · rw [if_neg he]
      by_cases hb : Text.before k k' = true
      · rw [if_pos hb]
        by_cases h : k = key <;> simp [h]
      · rw [if_neg hb]
        by_cases hk : k' = key
        · have h : k ≠ key := fun e => he (hk.trans e.symm)
          simp [h, hk]
        · simp only [List.find?_cons, hk, decide_false, ih]

def Ordered (ms : List (String × α)) : Prop :=
  ms.Pairwise fun m m' => Text.before m.1 m'.1 = true

theorem mem_insertMember {k : String} {a : α} {ms : List (String × α)} {m : String × α}
    (h : m ∈ insertMember k a ms) : m = (k, a) ∨ m ∈ ms := by
  induction ms with
  | nil => exact .inl (List.mem_singleton.1 h)
  | cons m' ms ih =>
    rw [insertMember] at h
    split at h
    · rcases List.mem_cons.1 h with rfl | h
      · exact .inl rfl
      · exact .inr (List.mem_cons_of_mem _ h)
    · split at h
      · exact List.mem_cons.1 h
      · rcases List.mem_cons.1 h with rfl | h
        · exact .inr List.mem_cons_self
        · exact (ih h).imp_right (List.mem_cons_of_mem _)

theorem ordered_insertMember (k : String) (a : α) {ms : List (String × α)} (h : Ordered ms) :
    Ordered (insertMember k a ms) := by
  induction ms with
  | nil => exact List.pairwise_singleton _ _
  | cons m ms ih =>
    obtain ⟨hm, hms⟩ := List.pairwise_cons.1 h
    rw [insertMember]
    split
    · rename_i he
      exact List.pairwise_cons.2 ⟨fun m' hm' => he ▸ hm m' hm', hms⟩
    · rename_i hne
      split
      · rename_i hb
        refine List.pairwise_cons.2 ⟨fun m' hm' => ?_, h⟩
        rcases List.mem_cons.1 hm' with rfl | hm'
        · exact hb
        · exact Text.before_trans hb (hm m' hm')
      · rename_i hb
        refine List.pairwise_cons.2 ⟨fun m' hm' => ?_, ih hms⟩
        rcases mem_insertMember hm' with rfl | hm'
        · exact Text.before_of_not_before hb hne
        · exact hm m' hm'

theorem sortMembers_append_singleton (ms : List (String × α)) (m : String × α) :
    sortMembers (ms ++ [m]) = insertMember m.1 m.2 (sortMembers ms) := by
  rw [sortMembers, List.foldl_append]
  rfl

theorem find?_sortMembers (ms : List (String × α)) (key : String) :
    (sortMembers ms).find? (fun m => m.1 = key) = ms.reverse.find? fun m => m.1 = key := by
  induction ms using List.reverseRecOn with
  | nil => rfl
  | append_singleton ms m ih =>
    obtain ⟨k, a⟩ := m
    rw [sortMembers_append_singleton, find?_insertMember, ih, List.reverse_append]
    by_cases h : k = key <;> simp [h]

theorem ordered_sortMembers (ms : List (String × α)) : Ordered (sortMembers ms) := by
  induction ms using List.reverseRecOn with
  | nil => exact List.Pairwise.nil
  | append_singleton ms m ih =>
    rw [sortMembers_append_singleton]
    exact ordered_insertMember m.1 m.2 ih

theorem nodup_sortMembers (ms : List (String × α)) : ((sortMembers ms).map Prod.fst).Nodup := by
  rw [List.Nodup, List.pairwise_map]
  exact (ordered_sortMembers ms).imp Text.ne_of_before

theorem mem_sortMembers {ms : List (String × α)} {key : String} {a : α} :
    (key, a) ∈ sortMembers ms ↔ last? ms key = some a := by
  have hfound := find?_key_iff (nodup_sortMembers ms) key (key, a)
  rw [find?_sortMembers] at hfound
  rw [last?, Option.map_eq_some_iff]
  constructor
  · intro h
    exact ⟨(key, a), hfound.2 ⟨h, rfl⟩, rfl⟩
  · rintro ⟨⟨k, b⟩, hfind, rfl⟩
    have hk : k = key := by simpa using List.find?_some hfind
    subst hk
    exact (hfound.1 hfind).1

end Json

end TableMapper
