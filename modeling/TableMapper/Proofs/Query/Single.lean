import TableMapper.Backend
import TableMapper.Proofs.Backend.Calls
import TableMapper.Proofs.Model.Json
import TableMapper.Proofs.Model.Reading
import TableMapper.Proofs.Query.Narrowing
import TableMapper.Query.Actions

/-!
# Asking for the only record

A query that must match one row first reads every row that the backend answers with, and only then
counts them. So a row that cannot be read decides before the number of rows does.
-/

namespace TableMapper

namespace Model

variable {m : Model}

theorem decode_of_readFields_error {r : Record} {entries : List (m.Field × String)} {e : Error}
    (h : m.readFields r entries = .error e) : ∃ column message, e = .decode column message := by
  induction entries with
  | nil => cases h
  | cons entry entries ih =>
    obtain ⟨i, column⟩ := entry
    rw [readFields] at h
    cases hfirst : r.decode (m.typeOf i) column with
    | error own =>
      rw [hfirst, error_bind] at h
      cases h
      obtain ⟨v, fault, -, -, rfl⟩ := Record.decode_eq_error.1 hfirst
      exact ⟨column, fault.message, rfl⟩
    | ok a =>
      rw [hfirst, ok_bind] at h
      cases hothers : m.readFields r entries with
      | error own =>
        rw [hothers, error_bind] at h
        cases h
        exact ih hothers
      | ok others =>
        rw [hothers, ok_bind] at h
        cases h

theorem decode_of_ofRow_error {row : Row} {e : Error} (h : m.ofRow row = .error e) :
    ∃ column message, e = .decode column message :=
  decode_of_readFields_error (map_eq_error.1 h)

end Model

namespace QuerySet

variable {m : Model} {σ : Type}

/-- What becomes of the answer to the select of a query that must match one row. -/
inductive SingleFrom (q : QuerySet m) : Except Error (List Row) → Except Error (Instance m) → Prop
  | refused {e : Error} : SingleFrom q (.error e) (.error e)
  | unreadable {front back : List Row} {row : Row} {column message : String}
      (hfront : ∀ row' ∈ front, ∃ x, m.ofRow row' = .ok x)
      (hrow : m.ofRow row = .error (.decode column message)) :
      SingleFrom q (.ok (front ++ row :: back)) (.error (.decode column message))
  | missing : SingleFrom q (.ok []) (.error (.notFound (m.name ++ " matching" ++ q.whereClause)))
  | found {row : Row} {x : Instance m} (hrow : m.ofRow row = .ok x) :
      SingleFrom q (.ok [row]) (.ok x)
  | several {rows : List Row} (hrows : ∀ row ∈ rows, ∃ x, m.ofRow row = .ok x)
      (hlength : 2 ≤ rows.length) : SingleFrom q (.ok rows) (.error (.multipleObjects rows.length))

/-- The only record of those that were read. -/
def only (q : QuerySet m) : Except Error (List (Instance m)) → Except Error (Instance m)
  | .error e => .error e
  | .ok [] => .error (.notFound (m.name ++ " matching" ++ q.whereClause))
  | .ok [x] => .ok x
  | .ok xs => .error (.multipleObjects xs.length)

theorem answer_get (q : QuerySet m) (b : Backend σ) (s : σ) :
    ((q.get b.dialect).run b s).answer =
      q.only ((b.fetch (q.sql b.dialect) s).answer.bind m.ofRows) := by
  have hfetch : ((q.fetch b.dialect).run b s).answer =
      (b.fetch (q.sql b.dialect) s).answer.bind m.ofRows := rfl
  rw [get, Action.followedBy, Dialogue.answer_andThen, hfetch]
  rcases (b.fetch (q.sql b.dialect) s).answer.bind m.ofRows with e | _ | ⟨x, _ | ⟨y, xs⟩⟩ <;> rfl

theorem only_of_several (q : QuerySet m) {xs : List (Instance m)} (h : 2 ≤ xs.length) :
    q.only (.ok xs) = .error (.multipleObjects xs.length) := by
  match xs with
  | [] => simp at h
  | [x] => simp at h
  | x :: y :: xs => rfl

theorem only_of_singleFrom {q : QuerySet m} {answer : Except Error (List Row)}
    {outcome : Except Error (Instance m)} (h : q.SingleFrom answer outcome) :
    q.only (answer.bind m.ofRows) = outcome := by
  cases h with
  | refused => rfl
  | @unreadable front back row column message hfront hrow =>
    have hread : m.ofRows (front ++ row :: back) = .error (.decode column message) :=
      mapM_eq_error.2 ⟨front, row, back, rfl, hfront, hrow⟩
    rw [Except.bind, hread, only]
  | missing => rfl
  | @found row x hrow =>
    have hread : m.ofRows [row] = .ok [x] := mapM_eq_ok.2 (.cons hrow .nil)
    rw [Except.bind, hread, only]
  | @several rows hrows hlength =>
    obtain ⟨xs, hread⟩ := exists_mapM_eq_ok.2 hrows
    have hsame : rows.length = xs.length := (mapM_eq_ok.1 hread).length_eq
    have hread' : m.ofRows rows = .ok xs := hread
    rw [Except.bind, hread', only_of_several q (hsame ▸ hlength), hsame]

theorem singleFrom_only (q : QuerySet m) (answer : Except Error (List Row)) :
    q.SingleFrom answer (q.only (answer.bind m.ofRows)) := by
  cases answer with
  | error e => exact .refused
  | ok rows =>
    rw [Except.bind]
    cases hread : m.ofRows rows with
    | error e =>
      obtain ⟨front, row, back, rfl, hfront, hrow⟩ := first_of_mapM hread
      obtain ⟨column, message, rfl⟩ := Model.decode_of_ofRow_error hrow
      exact .unreadable hfront hrow
    | ok xs =>
      cases mapM_eq_ok.1 hread with
      | nil => exact .missing
      | @cons row x rows xs hrow hrest =>
        cases hrest with
        | nil => exact .found hrow
        | @cons row' x' rows xs hrow' hrest =>
          have hlength : (x :: x' :: xs).length = (row :: row' :: rows).length :=
            (mapM_eq_ok.1 hread).length_eq.symm
          rw [only_of_several q (by simp), hlength]
          exact .several (exists_mapM_eq_ok.1 ⟨_, hread⟩) (by simp)

theorem singleFrom_iff {q : QuerySet m} {answer : Except Error (List Row)}
    {outcome : Except Error (Instance m)} :
    q.SingleFrom answer outcome ↔ q.only (answer.bind m.ofRows) = outcome := by
  constructor
  · exact only_of_singleFrom
  · rintro rfl
    exact singleFrom_only q answer

theorem answer_getJson (q : QuerySet m) (b : Backend σ) (s : σ) :
    ((q.getJson b.dialect).run b s).answer =
      ((q.get b.dialect).run b s).answer.map Instance.json := by
  rw [getJson, Action.map, Dialogue.answer_andThen]
  rfl

open Narrowing

theorem filterAll_eq_narrowed {cs : List Narrowing} (ho : last? order? cs = none)
    (hl : last? limit? cs = none) : (all m).filterAll (filtersOf cs) = narrowed m cs := by
  rw [narrowed_eq, ho, hl]
  rfl

/-- A query that must match one row is answered by the error of the backend, by the error of the
first row that cannot be read, however many rows there are, and else by the number of rows: the
record of the only one, or an error that says that there is none, or how many there are. The record
is asked for as JSON with the same result, its own text in its place. And a model that is asked with
a list of filters does what the query set does into which calls have merged these filters. -/
theorem get_classifies_answers (q : QuerySet m) (b : Backend σ) (s : σ) :
    (∀ outcome, q.SingleFrom (b.fetch (q.sql b.dialect) s).answer outcome ↔
      ((q.get b.dialect).run b s).answer = outcome) ∧
    (∀ text, ((q.getJson b.dialect).run b s).answer = .ok text ↔
      ∃ x, ((q.get b.dialect).run b s).answer = .ok x ∧ x.json = text) ∧
    (∀ e, ((q.getJson b.dialect).run b s).answer = .error e ↔
      ((q.get b.dialect).run b s).answer = .error e) ∧
    ∀ cs, last? order? cs = none → last? limit? cs = none → ∀ dialect,
      m.get (filtersOf cs) dialect = (narrowed m cs).get dialect ∧
        m.getJson (filtersOf cs) dialect = (narrowed m cs).getJson dialect := by
  refine ⟨?_, ?_, ?_, ?_⟩
  · intro outcome
    rw [answer_get, singleFrom_iff]
  · intro text
    rw [answer_getJson, map_eq_ok]
  · intro e
    rw [answer_getJson, map_eq_error]
  · intro cs ho hl dialect
    rw [Model.get, Model.getJson, filterAll_eq_narrowed ho hl]
    exact ⟨rfl, rfl⟩

/-- A second row that cannot be read is reported, and not that there are two rows. -/
theorem get_classifies_answers_measurement :
    let b := Script.backend .mySql
    let s : Script := ⟨[.rows [measured.values, [.text "seven"]]], 1⟩
    let cs := [.compare .gt "level" (.int 1), .lookup "note" .null, .lookup "level__gt" (.int 3)]
    let q := narrowed measurementModel cs
    let e := Error.decode "id" "expected integer, got Text(\"seven\")"
    last? order? cs = none ∧ last? limit? cs = none ∧
      measurementModel.get (filtersOf cs) .mySql = q.get .mySql ∧
      ((q.get .mySql).run b s).answer = .error e ∧
      ((q.getJson .mySql).run b s).answer = .error e := by
  intro b s cs q e
  obtain ⟨hget, -, hjson, hmerged⟩ := get_classifies_answers q b s
  have hfront : ∀ row ∈ [measured.values], ∃ x, measurementModel.ofRow row = .ok x :=
    List.forall_mem_singleton.2 ⟨_, rfl⟩
  have hrow : measurementModel.ofRow [.text "seven"] = .error e := by
    have hfailure : (measurementModel.ofRow [.text "seven"]).map (fun _ => ()) = .error e := by
      decide +kernel
    exact map_eq_error.1 hfailure
  have hsingle : q.SingleFrom (.ok [measured.values, [.text "seven"]]) (.error e) :=
    .unreadable hfront hrow
  have herror := (hget _).1 hsingle
  exact ⟨rfl, rfl, (hmerged cs rfl rfl .mySql).1, herror, (hjson e).2 herror⟩

end QuerySet

end TableMapper
