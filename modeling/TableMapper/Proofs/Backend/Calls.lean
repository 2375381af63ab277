import TableMapper.Backend

/-!
# Calls of a dialogue

The calls that a dialogue makes of a backend, in order, apart from what the backend does on each.
A dialogue that goes on with another first makes all of its own calls.
-/

namespace TableMapper

inductive Call
  | fetch (sql : String)
  | execute (sql : String)
  | insert (sql : String)
  deriving DecidableEq, Repr

section

variable {σ α β : Type} (b : Backend σ)

def Call.failure? (s : σ) : Call → Option Error
  | fetch sql => match (b.fetch sql s).answer with | .error e => some e | .ok _ => none
  | execute sql => match (b.execute sql s).answer with | .error e => some e | .ok _ => none
  | insert sql => match (b.insert sql s).answer with | .error e => some e | .ok _ => none

theorem Call.failure?_fetch {sql : String} {s : σ} {e : Error} :
    (fetch sql).failure? b s = some e ↔ (b.fetch sql s).answer = .error e := by
  rw [Call.failure?]
  cases (b.fetch sql s).answer <;> simp

theorem Call.failure?_execute {sql : String} {s : σ} {e : Error} :
    (execute sql).failure? b s = some e ↔ (b.execute sql s).answer = .error e := by
  rw [Call.failure?]
  cases (b.execute sql s).answer <;> simp

theorem Call.failure?_insert {sql : String} {s : σ} {e : Error} :
    (insert sql).failure? b s = some e ↔ (b.insert sql s).answer = .error e := by
  rw [Call.failure?]
  cases (b.insert sql s).answer <;> simp

def Dialogue.calls (d : Dialogue α) (s : σ) : List Call :=
  match d with
  | done _ => []
  | fetch sql next =>
    .fetch sql :: (next (b.fetch sql s).answer).calls (b.fetch sql s).state
  | execute sql next =>
    .execute sql :: (next (b.execute sql s).answer).calls (b.execute sql s).state
  | insert sql next =>
    .insert sql :: (next (b.insert sql s).answer).calls (b.insert sql s).state
  | emit _ rest => rest.calls s

theorem Outcome.after_append (first second : List Occurrence) (o : Outcome σ α) :
    (o.after second).after first = o.after (first ++ second) := by
  simp [Outcome.after, List.append_assoc]

namespace Dialogue

theorem run_andThen (d : Dialogue α) (f : α → Dialogue β) (s : σ) :
    (d.andThen f).run b s =
      ((f (d.run b s).answer).run b (d.run b s).state).after (d.run b s).trace := by
  induction d generalizing s with
  | done a => rfl
  | fetch sql next ih => simp only [andThen, run, ih, Outcome.after_append]; rfl
  | execute sql next ih => simp only [andThen, run, ih, Outcome.after_append]; rfl
  | insert sql next ih => simp only [andThen, run, ih, Outcome.after_append]; rfl
  | emit event rest ih => simp only [andThen, run, ih, Outcome.after_append]; rfl

theorem answer_andThen (d : Dialogue α) (f : α → Dialogue β) (s : σ) :
    ((d.andThen f).run b s).answer = ((f (d.run b s).answer).run b (d.run b s).state).answer := by
  rw [run_andThen]
  rfl

theorem calls_andThen (d : Dialogue α) (f : α → Dialogue β) (s : σ) :
    (d.andThen f).calls b s =
      d.calls b s ++ (f (d.run b s).answer).calls b (d.run b s).state := by
  induction d generalizing s with
  | done a => rfl
  | fetch sql next ih => simp only [andThen, calls, ih, List.cons_append]; rfl
  | execute sql next ih => simp only [andThen, calls, ih, List.cons_append]; rfl
  | insert sql next ih => simp only [andThen, calls, ih, List.cons_append]; rfl
  | emit event rest ih => simp only [andThen, calls, ih]; rfl

end Dialogue

/-- Whatever the backend's state and answer, the action makes exactly the one call, and an error of
the backend is its own error. -/
def Action.Sends (call : Call) (d : Action α) : Prop :=
  ∀ s, d.calls b s = [call] ∧ ∀ e, call.failure? b s = some e → (d.run b s).answer = .error e

namespace Action

variable {b}

theorem sends_fetch (sql : String) (f : List Row → Except Error α) :
    Sends b (.fetch sql) (.fetch sql fun answer => .done (answer.bind f)) := by
  intro s
  constructor
  · rfl
  · intro e he
    rw [Dialogue.run, (Call.failure?_fetch b).1 he]
    rfl

theorem sends_execute (sql : String) : Sends b (.execute sql) (.execute sql .done) := by
  intro s
  constructor
  · rfl
  · intro e he
    rw [Dialogue.run, (Call.failure?_execute b).1 he]
    rfl

theorem Sends.followedBy {call : Call} {d : Action α} {f : α → Action β} (h : Sends b call d)
    (hf : ∀ a s, (f a).calls b s = []) : Sends b call (d.followedBy f) := by
  intro s
  obtain ⟨hcalls, hfailure⟩ := h s
  rw [Action.followedBy]
  constructor
  · rw [Dialogue.calls_andThen, hcalls]
    cases (d.run b s).answer with
    | ok a => simp only [hf, List.append_nil]
    | error e => rfl
  · intro e he
    rw [Dialogue.run_andThen, hfailure e he]
    rfl

theorem Sends.map {call : Call} {d : Action α} (f : α → β) (h : Sends b call d) :
    Sends b call (d.map f) := by
  intro s
  obtain ⟨hcalls, hfailure⟩ := h s
  rw [Action.map]
  constructor
  · rw [Dialogue.calls_andThen, hcalls]
    rfl
  · intro e he
    rw [Dialogue.run_andThen, hfailure e he]
    rfl

end Action

end

end TableMapper
