import Mathlib.Data.List.Induction
import TableMapper.Record

/-!
# Laws of lists with keys

What is found under a key after an update, and where the keys stand. A list whose keys are distinct
is determined by the order of its keys and by what is found under each.
-/

namespace TableMapper

variable {α : Type} {key : α → String}

theorem find?_key_iff {bs : List α} (hd : (bs.map key).Nodup) (k : String) (a : α) :
    bs.find? (fun b => key b = k) = some a ↔ a ∈ bs ∧ key a = k := by
  constructor
  · intro h
    exact ⟨List.mem_of_find?_eq_some h, by simpa using List.find?_some h⟩
  · rintro ⟨ha, rfl⟩
    induction bs with
    | nil => cases ha
    | cons b bs ih =>
      rw [List.map_cons, List.nodup_cons] at hd
      rcases List.mem_cons.1 ha with rfl | hm
      · simp
      · have hne : key b ≠ key a := fun e => hd.1 (e ▸ List.mem_map_of_mem hm)
        rw [List.find?_cons_of_neg (by simpa using hne)]
        exact ih hd.2 hm

theorem filterMap_keys {find? : String → Option α} {bs : List α}
    (h : ∀ a ∈ bs, find? (key a) = some a) : (bs.map key).filterMap find? = bs := by
  induction bs with
  | nil => rfl
  | cons b bs ih =>
    have hb := h b List.mem_cons_self
    rw [List.map_cons, List.filterMap_cons_some hb, ih fun a ha => h a (List.mem_cons_of_mem b ha)]

theorem upsert_of_not_mem {a : α} {bs : List α} (h : key a ∉ bs.map key) :
    upsert key a bs = bs ++ [a] := by
  induction bs with
  | nil => rfl
  | cons b bs ih =>
    rw [List.map_cons, List.mem_cons, not_or] at h
    rw [upsert, if_neg (Ne.symm h.1), ih h.2, List.cons_append]

theorem find?_upsert (a : α) (bs : List α) (k : String) :
    (upsert key a bs).find? (fun b => key b = k) =
      if key a = k then some a else bs.find? (fun b => key b = k) := by
  induction bs with
  | nil => by_cases h : key a = k <;> simp [upsert, h]
  | cons b bs ih =>
    by_cases hb : key b = key a
    · rw [upsert, if_pos hb]
      by_cases h : key a = k
      · simp [h]
      · have hk : key b ≠ k := fun e => h (hb ▸ e)
        simp [h, hk]
    · rw [upsert, if_neg hb]
      by_cases hk : key b = k
      · have h : key a ≠ k := fun e => hb (hk.trans e.symm)
        simp [h, hk]
      · simp only [List.find?_cons, hk, decide_false, ih]

theorem upsertAll_append (fs gs bs : List α) :
    upsertAll key (fs ++ gs) bs = upsertAll key gs (upsertAll key fs bs) := by
  simp [upsertAll, List.foldl_append]

theorem upsertAll_of_nodup {items bs : List α} (h : ((bs ++ items).map key).Nodup) :
    upsertAll key items bs = bs ++ items := by
  induction items generalizing bs with
  | nil => simp [upsertAll]
  | cons a items ih =>
    have hsplit : bs ++ a :: items = bs ++ [a] ++ items := by simp
    have ha : key a ∉ bs.map key := by
      rw [List.map_append, List.map_cons, List.nodup_append] at h
      exact fun hm => h.2.2 _ hm _ List.mem_cons_self rfl
    rw [hsplit] at h ⊢
    rw [← ih h, upsertAll, List.foldl_cons, upsert_of_not_mem ha]
    rfl

theorem map_key_upsertAll (fs : List α) :
    (upsertAll key fs []).map key = (fs.map key).eraseDups := by
  induction fs using List.reverseRecOn with
  | nil => simp [upsertAll]
  | append_singleton fs f ih =>
    have hstep : upsertAll key (fs ++ [f]) [] = upsert key f (upsertAll key fs []) :=
      upsertAll_append fs [f] []
    rw [hstep, map_key_upsert, ih, List.map_append, List.eraseDups_append]
    by_cases hm : key f ∈ fs.map key
    · have hrest : [key f].removeAll (fs.map key) = [] := by
        rw [List.removeAll, List.filter_cons_of_neg (by simpa using hm), List.filter_nil]
      rw [if_pos (List.mem_eraseDups.2 hm), List.map_singleton, hrest, List.eraseDups_nil,
        List.append_nil]
    · have hrest : [key f].removeAll (fs.map key) = [key f] := by
        rw [List.removeAll, List.filter_cons_of_pos (by simpa using hm), List.filter_nil]
      rw [if_neg fun h => hm (List.mem_eraseDups.1 h), List.map_singleton, hrest]
      rfl

/-- Under each key stands the last item that came with it. -/
theorem find?_upsertAll (fs bs : List α) (k : String) :
    (upsertAll key fs bs).find? (fun b => key b = k) =
      (fs.reverse.find? fun b => key b = k).or (bs.find? fun b => key b = k) := by
  induction fs generalizing bs with
  | nil => simp [upsertAll]
  | cons f fs ih =>
    have hstep : upsertAll key (f :: fs) bs = upsertAll key fs (upsert key f bs) := rfl
    rw [hstep, ih, find?_upsert, List.reverse_cons, List.find?_append, Option.or_assoc]
    by_cases h : key f = k <;> simp [h]

end TableMapper
