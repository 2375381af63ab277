import TableMapper.Decimal.Layout
import TableMapper.Proofs.Decimal.Digits

/-!
# Characters of laid out numbers

Whatever the layout, the text of a magnitude begins with a digit and holds only digits, a point,
signs and the mark of an exponent.
-/

namespace TableMapper.Decimal

def IsNumeric (c : Char) : Prop := c.isDigit = true ∨ c ∈ ['.', 'e', '+', '-']

theorem mem_signed {negative : Bool} {cs : List Char} {c : Char} (h : c ∈ signed negative cs) :
    c = '-' ∨ c ∈ cs := by
  cases negative with
  | false => exact .inr h
  | true => exact List.mem_cons.1 h

namespace Layout

variable {l : Layout} {ds : List Char}

theorem isNumeric_pointZero {pointZero : Bool} :
    ∀ c ∈ if pointZero then ['.', '0'] else [], IsNumeric c := by
  intro c hc
  cases pointZero with
  | false => simp at hc
  | true =>
    rcases (by simpa using hc : c = '.' ∨ c = '0') with rfl | rfl
    · exact .inr (by simp)
    · exact .inl (by decide)

theorem isNumeric_setPositional {e : Int} (hd : ∀ c ∈ ds, c.isDigit = true) :
    ∀ c ∈ l.setPositional ds e, IsNumeric c := by
  intro c hc
  have hz : Char.isDigit '0' = true := by decide
  rw [setPositional] at hc
  by_cases he : 0 ≤ e
  · rw [if_pos he] at hc
    simp only [List.mem_append, List.mem_replicate] at hc
    rcases hc with (hc | ⟨-, rfl⟩) | hc
    · exact .inl (hd c hc)
    · exact .inl hz
    · exact isNumeric_pointZero c hc
  rw [if_neg he] at hc
  by_cases hb : (ds.length + e).toNat = 0
  · rw [if_pos hb] at hc
    simp only [List.mem_append, List.mem_replicate, List.mem_cons, List.not_mem_nil,
      or_false] at hc
    rcases hc with ((rfl | rfl) | ⟨-, rfl⟩) | hc
    · exact .inl hz
    · exact .inr (by simp)
    · exact .inl hz
    · exact .inl (hd c hc)
  · rw [if_neg hb] at hc
    simp only [List.mem_append, List.mem_cons] at hc
    rcases hc with hc | rfl | hc
    · exact .inl (hd c (List.mem_of_mem_take hc))
    · exact .inr (by simp)
    · exact .inl (hd c (List.mem_of_mem_drop hc))

theorem isNumeric_setScientific {s : Int} (hd : ∀ c ∈ ds, c.isDigit = true) :
    ∀ c ∈ l.setScientific ds s, IsNumeric c := by
  intro c hc
  simp only [setScientific, List.mem_append, List.mem_cons] at hc
  rcases hc with ((hc | hc) | rfl | hc) | hc
  · exact .inl (hd c (List.mem_of_mem_take hc))
  · split at hc
    · simp at hc
    · rcases List.mem_cons.1 hc with rfl | hc
      · exact .inr (by simp)
      · exact .inl (hd c (List.mem_of_mem_drop hc))
  · exact .inr (by simp)
  · split at hc
    · exact .inr (by simp_all)
    · split at hc
      · exact .inr (by simp_all)
      · simp at hc
  · exact .inl (isDigit_of_mem_digits hc)

theorem isNumeric_magnitude {m : Nat} {q : Int} : ∀ c ∈ l.magnitude m q, IsNumeric c := by
  intro c hc
  rw [magnitude] at hc
  split at hc
  · rcases List.mem_cons.1 hc with rfl | hc
    · exact .inl (by decide)
    · exact isNumeric_pointZero c hc
  · simp only at hc
    split at hc
    · exact isNumeric_setPositional (fun _ => isDigit_of_mem_digits) c hc
    · exact isNumeric_setScientific (fun _ => isDigit_of_mem_digits) c hc

theorem head_setPositional {c : Char} {cs : List Char} (e : Int) (hc : c.isDigit = true) :
    ∃ d ds, l.setPositional (c :: cs) e = d :: ds ∧ d.isDigit = true := by
  rw [setPositional]
  split
  · exact ⟨c, _, rfl, hc⟩
  · simp only
    split
    · exact ⟨'0', _, rfl, by decide⟩
    · rename_i hb
      obtain ⟨n, hn⟩ := Nat.exists_eq_add_one_of_ne_zero hb
      rw [hn]
      exact ⟨c, _, rfl, hc⟩

theorem head_magnitude (l : Layout) (m : Nat) (q : Int) :
    ∃ d ds, l.magnitude m q = d :: ds ∧ d.isDigit = true := by
  rw [magnitude]
  split
  · exact ⟨'0', _, rfl, by decide⟩
  · simp only
    obtain ⟨c, cs, he, hc, -⟩ := digits_cons (shortest l.tie m q).1
    rw [he]
    split
    · exact head_setPositional _ hc
    · exact ⟨c, _, rfl, hc⟩

end Layout

end TableMapper.Decimal
