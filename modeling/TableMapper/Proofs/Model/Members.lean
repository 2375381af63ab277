import TableMapper.Proofs.Json.RoundTrip
import TableMapper.Proofs.Model.Reading
import TableMapper.Proofs.Record.Members
import TableMapper.Query.Actions

/-!
# Members that are no columns

A JSON object is made a record as a whole before a model looks at its columns. A member under a key
that is no column is dropped if it is a scalar or is not the last under its key. Otherwise reading
fails, though the model would never have looked at it.
-/

namespace TableMapper

namespace Model

variable {m : Model}

theorem ofJson_of_parse {text : String} {ms : List (String × Json)}
    (h : Json.parse text = .ok (.object ms)) :
    m.ofJson text = (Record.ofMembers ms).bind m.ofRecord := by
  rw [ofJson, Record.ofJson, Record.parseJson, h]
  rfl

open Declaration (Item)

/-- Adding a member under a key that is no column to a text that is read as a record. If a scalar is
the last thing under the key, the text is read as the same record, and so it is created, looked for
or updated. Otherwise nothing is read and nothing is sent: the error names the member, though it is
no column of the model. -/
theorem ofJson_extra_member {typeOf? : String → Option FieldType} {d : Item}
    (hm : d.model? typeOf? = some m) (hd : (d.shape.named.map Prod.fst).Nodup)
    {text text' : String} {before after : List (String × Json)} {k : String} {j : Json}
    {x : Instance m} (ht : Json.parse text = .ok (.object (before ++ after)))
    (hx : m.ofJson text = .ok x)
    (ht' : Json.parse text' = .ok (.object (before ++ (k, j) :: after)))
    (hk : k ∉ m.columnNames) :
    (j.isScalar = true ∨ k ∈ after.map Prod.fst →
      m.ofJson text' = .ok x ∧
      (∀ dialect, m.createFromJson text' dialect = create x dialect ∧
        m.getOrCreateFromJson text' dialect = getOrCreate x dialect) ∧
      m.updateFromJson text' = x.update.map fun _ => x) ∧
    (j.isScalar = false → k ∉ after.map Prod.fst →
      m.ofJson text' = .error (noScalar k j) ∧
      (∀ dialect, m.createFromJson text' dialect = Action.fail (noScalar k j) ∧
        m.getOrCreateFromJson text' dialect = Action.fail (noScalar k j)) ∧
      m.updateFromJson text' = Action.fail (noScalar k j)) := by
  have haligned : m.Aligned := aligned_of_model? hm hd
  rw [ofJson_of_parse ht] at hx
  obtain ⟨r, hr, hx⟩ := bind_eq_ok.1 hx
  constructor
  · intro hj
    obtain ⟨r', hr', hget⟩ := Record.ofMembers_extra hr hj
    -- The member stands under no column, so the columns say what they said before.
    have hcolumns : ∀ e ∈ m.read, r'.get e.2 = r.get e.2 := by
      intro e he
      have hne : e.2 ≠ k := fun heq => hk (heq ▸ haligned.column_of_mem_read he)
      rw [Record.get, Record.get, hget e.2 hne]
    have hread : m.ofJson text' = .ok x := by
      rw [ofJson_of_parse ht', hr', ← hx]
      exact ofRecord_congr hcolumns
    refine ⟨hread, fun dialect => ⟨?_, ?_⟩, ?_⟩
    · rw [createFromJson, hread, Action.given]
    · rw [getOrCreateFromJson, hread, Action.given]
    · rw [updateFromJson, hread, Action.given]
  · intro hj hafter
    have hread : m.ofJson text' = .error (noScalar k j) := by
      rw [ofJson_of_parse ht', Record.ofMembers_extra_error hr hj hafter]
      rfl
    refine ⟨hread, fun dialect => ⟨?_, ?_⟩, ?_⟩
    · rw [createFromJson, hread, Action.given]
    · rw [getOrCreateFromJson, hread, Action.given]
    · rw [updateFromJson, hread, Action.given]

def measuredWith (extra : List (String × Json)) : Json :=
  .object ([("level", .int 1)] ++ extra ++ [("taken", .text "2024-01-02T03:04:05")])

theorem exact_one : (Json.int 1).Exact := by
  constructor <;> decide

theorem exact_seven : (Json.int 7).Exact := by
  constructor <;> decide

theorem parse_plain : Json.parse (measuredWith []).render = .ok (measuredWith []) :=
  Json.parse_render (by decide) ⟨exact_one, trivial, trivial⟩

theorem parse_listed : Json.parse (measuredWith [("aisle", .list [.int 7])]).render =
    .ok (measuredWith [("aisle", .list [.int 7])]) :=
  Json.parse_render (by decide) ⟨exact_one, ⟨exact_seven, trivial⟩, trivial, trivial⟩

theorem exists_ofJson_plain : ∃ x, measurementModel.ofJson (measuredWith []).render = .ok x := by
  have hread : (measurementModel.ofJson (measuredWith []).render).isOk = true := by decide +kernel
  cases hx : measurementModel.ofJson (measuredWith []).render with
  | ok x => exact ⟨x, rfl⟩
  | error e =>
    rw [hx] at hread
    cases hread

/-- A number under a foreign key is dropped; a list makes the reading fail. -/
theorem ofJson_extra_member_measurement :
    let plain := (measuredWith []).render
    let numbered := (measuredWith [("aisle", .int 7)]).render
    let listed := (measuredWith [("aisle", .list [.int 7])]).render
    measurement.model? measurementTypes = some measurementModel ∧
      (measurement.shape.named.map Prod.fst).Nodup ∧ "aisle" ∉ measurementModel.columnNames ∧
      Json.parse plain = .ok (measuredWith []) ∧
      Json.parse numbered = .ok (measuredWith [("aisle", .int 7)]) ∧
      Json.parse listed = .ok (measuredWith [("aisle", .list [.int 7])]) ∧
      ∃ x, measurementModel.ofJson plain = .ok x ∧ measurementModel.ofJson numbered = .ok x ∧
        measurementModel.ofJson listed =
          .error (.decode "aisle" "expected a JSON scalar, got [7]") := by
  intro plain numbered listed
  have hd : (measurement.shape.named.map Prod.fst).Nodup := by decide +kernel
  have hk : "aisle" ∉ measurementModel.columnNames := by decide
  have hnumbered : Json.parse numbered = .ok (measuredWith [("aisle", .int 7)]) :=
    Json.parse_render (by decide) ⟨exact_one, exact_seven, trivial, trivial⟩
  obtain ⟨x, hx⟩ := exists_ofJson_plain
  obtain ⟨hdropped, -⟩ := ofJson_extra_member measurement_model? hd parse_plain hx hnumbered hk
  obtain ⟨-, hrefused⟩ := ofJson_extra_member measurement_model? hd parse_plain hx parse_listed hk
  have hnone : "aisle" ∉ [("taken", Json.text "2024-01-02T03:04:05")].map Prod.fst := by decide
  have herror : noScalar "aisle" (.list [.int 7]) =
      .decode "aisle" "expected a JSON scalar, got [7]" := by decide +kernel
  refine ⟨measurement_model?, hd, hk, parse_plain, hnumbered, parse_listed, x, hx, ?_, ?_⟩
  · exact (hdropped (.inl rfl)).1
  · exact herror ▸ (hrefused rfl hnone).1

/-- So it is not true that members which are no columns are dropped whatever they hold. -/
theorem not_extra_member_dropped :
    ¬∀ (typeOf? : String → Option FieldType) (d : Item) (m : Model),
      d.model? typeOf? = some m → (d.shape.named.map Prod.fst).Nodup →
      ∀ (text text' : String) (before after : List (String × Json)) (k : String) (j : Json)
        (x : Instance m),
        Json.parse text = .ok (.object (before ++ after)) → m.ofJson text = .ok x →
        Json.parse text' = .ok (.object (before ++ (k, j) :: after)) → k ∉ m.columnNames →
        m.ofJson text' = .ok x := by
  intro hall
  obtain ⟨x, hx⟩ := exists_ofJson_plain
  have hd : (measurement.shape.named.map Prod.fst).Nodup := by decide +kernel
  have hdropped := hall measurementTypes measurement measurementModel measurement_model? hd
    _ _ _ _ "aisle" (.list [.int 7]) x parse_plain hx parse_listed (by decide)
  have hfails : (measurementModel.ofJson
      (measuredWith [("aisle", .list [.int 7])]).render).isOk = false := by decide +kernel
  rw [hdropped] at hfails
  cases hfails

end Model

end TableMapper
