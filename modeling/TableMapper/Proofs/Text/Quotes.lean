import Mathlib.Data.List.Basic

/-!
# Quotes and items in a text

Cutting a text at every quote gives pieces that stand outside and inside of quotes in turn, if each
quote opens or closes one. A text that was joined by quotes from pieces without any is cut into the
same pieces again.

The items of a list are written with a comma and a blank between each two. Cutting the text at these
gives the items again, although an item may hold commas and blanks of its own, as long as they stand
inside of its quotes.
-/

namespace TableMapper.Text

variable {α : Type}

def QuoteFree (s : String) : Prop := '\'' ∉ s.toList

instance (s : String) : Decidable (QuoteFree s) := inferInstanceAs (Decidable ('\'' ∉ s.toList))

@[simp] theorem quoteFree_append {s t : String} :
    QuoteFree (s ++ t) ↔ QuoteFree s ∧ QuoteFree t := by
  simp [QuoteFree]

@[simp] theorem quoteFree_ofList {cs : List Char} : QuoteFree (String.ofList cs) ↔ '\'' ∉ cs := by
  simp [QuoteFree]

theorem quoteFree_intercalate {separator : String} {ts : List String}
    (hs : QuoteFree separator) (ht : ∀ t ∈ ts, QuoteFree t) :
    QuoteFree (separator.intercalate ts) := by
  induction ts with
  | nil => simp [QuoteFree]
  | cons t ts ih =>
    have htail := ih fun t' h => ht t' (List.mem_cons_of_mem t h)
    cases ts with
    | nil => simpa using ht t List.mem_cons_self
    | cons t' ts =>
      rw [String.intercalate_cons_cons, quoteFree_append, quoteFree_append]
      exact ⟨⟨ht t List.mem_cons_self, hs⟩, htail⟩

/-- Every second item of a list, from the first one on. -/
def alternate : List α → List α
  | [] => []
  | [a] => [a]
  | a :: _ :: as => a :: alternate as

/-- The pieces of a text that stand outside of quotes. -/
def outside (s : String) : List String := (alternate (s.toList.splitOn '\'')).map String.ofList

/-- The pieces of a text that stand inside of quotes. -/
def inside (s : String) : List String :=
  (alternate (s.toList.splitOn '\'').tail).map String.ofList

theorem alternate_modifyHead (f : α → α) (as : List α) :
    alternate (as.modifyHead f) = (alternate as).modifyHead f := by
  match as with
  | [] => rfl
  | [a] => rfl
  | a :: b :: as => rfl

theorem intercalate_modifyHead (quote cs : List α) {pieces : List (List α)} (h : pieces ≠ []) :
    quote.intercalate (pieces.modifyHead (cs ++ ·)) = cs ++ quote.intercalate pieces := by
  match pieces with
  | [p] => simp
  | p :: p' :: ps => simp [List.intercalate_cons_cons]

/-- The pieces of a text between commas that stand outside of quotes and have a blank behind them.
The text may begin inside of quotes; every quote opens or closes some. -/
def cutItems : (quoted : Bool) → List Char → List (List Char)
  | _, [] => [[]]
  | false, ',' :: ' ' :: cs => [] :: cutItems false cs
  | quoted, c :: cs => (cutItems (quoted ^^ c == '\'') cs).modifyHead (c :: ·)

def items (s : String) : List String := (cutItems false s.toList).map String.ofList

/-- The text is not cut, and no quote stays open in it. -/
def Whole (s : String) : Prop :=
  ∀ rest, cutItems false (s.toList ++ rest) = (cutItems false rest).modifyHead (s.toList ++ ·)

theorem cutItems_cons {quoted : Bool} {c : Char} (h : quoted = true ∨ c ≠ ',') (cs : List Char) :
    cutItems quoted (c :: cs) = (cutItems (quoted ^^ c == '\'') cs).modifyHead (c :: ·) := by
  rw [cutItems]
  rintro tail rfl rfl rfl
  rcases h with h | h
  · cases h
  · exact h rfl

theorem cutItems_append {quoted : Bool} {cs : List Char}
    (h : ∀ c ∈ cs, c ≠ '\'' ∧ (quoted = true ∨ c ≠ ',')) (rest : List Char) :
    cutItems quoted (cs ++ rest) = (cutItems quoted rest).modifyHead (cs ++ ·) := by
  induction cs with
  | nil =>
    rw [List.nil_append]
    cases cutItems quoted rest <;> rfl
  | cons c cs ih =>
    obtain ⟨hquote, hcomma⟩ := h c List.mem_cons_self
    have hstate : (quoted ^^ c == '\'') = quoted := by
      rw [beq_false_of_ne hquote, Bool.xor_false]
    rw [List.cons_append, cutItems_cons hcomma, hstate,
      ih fun c' hc => h c' (List.mem_cons_of_mem c hc), List.modifyHead_modifyHead]
    rfl

theorem whole_of_free {s : String} (hquote : QuoteFree s) (hcomma : ',' ∉ s.toList) : Whole s := by
  apply cutItems_append
  intro c hc
  constructor
  · rintro rfl
    exact hquote hc
  · right
    rintro rfl
    exact hcomma hc

theorem whole_quoted {s : String} (h : QuoteFree s) : Whole ("'" ++ s ++ "'") := by
  intro rest
  have htext : ("'" ++ s ++ "'").toList = '\'' :: (s.toList ++ ['\'']) := by simp
  have hbody : ∀ c ∈ s.toList, c ≠ '\'' ∧ (true = true ∨ c ≠ ',') := by
    intro c hc
    refine ⟨?_, .inl rfl⟩
    rintro rfl
    exact h hc
  have hopen : (false ^^ '\'' == '\'') = true := by decide
  have hclose : (true ^^ '\'' == '\'') = false := by decide
  rw [htext, List.cons_append, List.append_assoc, cutItems_cons (.inr (by decide)), hopen,
    cutItems_append hbody, List.singleton_append, cutItems_cons (.inl rfl), hclose,
    List.modifyHead_modifyHead, List.modifyHead_modifyHead]
  congr 1
  funext cs
  simp

theorem cutItems_separator (rest : List Char) :
    cutItems false (", ".toList ++ rest) = [] :: cutItems false rest := by
  rfl

theorem cutItems_nil (quoted : Bool) : cutItems quoted [] = [[]] := by
  rw [cutItems]

/-- A list whose items are whole is read back from its text. -/
theorem items_intercalate {ts : List String} (hne : ts ≠ []) (h : ∀ t ∈ ts, Whole t) :
    items (", ".intercalate ts) = ts := by
  rw [items]
  induction ts with
  | nil => exact absurd rfl hne
  | cons t ts ih =>
    have ht := h t List.mem_cons_self
    cases ts with
    | nil =>
      have hlast := ht []
      rw [List.append_nil, cutItems_nil] at hlast
      rw [String.intercalate_singleton, hlast]
      simp
    | cons t' ts =>
      have hrest := ih (List.cons_ne_nil t' ts) fun u hu => h u (List.mem_cons_of_mem t hu)
      rw [String.intercalate_cons_cons, String.toList_append, String.toList_append,
        List.append_assoc, ht, cutItems_separator, List.modifyHead_cons, List.map_cons, hrest]
      simp

end TableMapper.Text
