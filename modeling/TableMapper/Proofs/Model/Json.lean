import TableMapper.Proofs.Model.Derived

/-!
# Records through JSON and back

Instances of an aligned model are read back from the JSON they are written as, one by one and as a
list, provided that JSON carries every value they hold.
-/

namespace TableMapper

variable {m : Model}

def Instance.Portable (x : Instance m) : Prop := ∀ i, (x.valueOf i).Portable

namespace Instance

variable {x : Instance m}

theorem portable_toRecord (h : m.Aligned) (hx : x.Portable) : x.toRecord.Portable := by
  intro e he
  rw [entries_toRecord x h] at he
  obtain ⟨i, -, rfl⟩ := List.mem_map.1 he
  exact hx i

theorem ofMembers_members (h : m.Aligned) (hx : x.Portable) :
    (Record.ofMembers (x.toRecord.entries.map fun e => (e.1, e.2.toJson))).bind m.ofRecord =
      .ok x := by
  obtain ⟨r, hr, hperm, -⟩ := Record.ofMembers_toJson x.toRecord
  rw [hr]
  apply Model.ofRecord_ok
  intro e he
  rw [h.read] at he
  obtain ⟨i, -, rfl⟩ := List.mem_map.1 he
  have hmem : (m.columnOf i, (x.valueOf i).viaJson) ∈ r.entries := by
    rw [← (hx i).decoded]
    exact hperm.symm.subset (List.mem_map.2 ⟨_, mem_toRecord x h i, rfl⟩)
  have hget := Record.get_of_mem hmem
  have hvalue := (m.typeOf i).ofValue_viaJson (x.get i) (hx i)
  simp only [Record.decode, hget, valueOf, hvalue]
  rfl

theorem parse_json (h : m.Aligned) (hx : x.Portable) :
    Json.parse x.json = .ok x.toRecord.toJson := by
  apply Json.parse_render
  · rw [Record.height_toJson]
    decide
  · exact Record.exact_toJson (portable_toRecord h hx).legible

theorem ofJson_json (h : m.Aligned) (hx : x.Portable) : m.ofJson x.json = .ok x := by
  have hread := ofMembers_members h hx
  rw [Model.ofJson, Record.ofJson, Record.parseJson, parse_json h hx]
  exact hread

theorem exactItems_map {xs : List (Instance m)} (h : m.Aligned) (hxs : ∀ x ∈ xs, x.Portable) :
    Json.ExactItems (xs.map fun x => x.toRecord.toJson) := by
  induction xs with
  | nil => exact trivial
  | cons x xs ih =>
    constructor
    · exact Record.exact_toJson (portable_toRecord h (hxs x List.mem_cons_self)).legible
    · exact ih fun y hy => hxs y (List.mem_cons_of_mem x hy)

theorem heightItems_map_le (xs : List (Instance m)) :
    Json.heightItems (xs.map fun x => x.toRecord.toJson) ≤ 1 := by
  induction xs with
  | nil => exact Nat.zero_le 1
  | cons x xs ih =>
    rw [List.map_cons, Json.heightItems, Record.height_toJson]
    omega

theorem parse_jsonList {xs : List (Instance m)} (h : m.Aligned) (hxs : ∀ x ∈ xs, x.Portable) :
    Json.parse (jsonList xs) = .ok (.list (xs.map fun x => x.toRecord.toJson)) := by
  apply Json.parse_render
  · have hheight := heightItems_map_le xs
    rw [Json.height, Json.depthLimit]
    omega
  · exact exactItems_map h hxs

end Instance

open Declaration (Item)

/-- A list of records is written as a list of as many objects in the same order, and each object
is read as the record it was written from; so is the text of a single record. -/
theorem jsonList_round_trip {typeOf? : String → Option FieldType} {d : Item}
    (hm : d.model? typeOf? = some m) (hd : (d.shape.named.map Prod.fst).Nodup) :
    (∀ xs : List (Instance m), (∀ x ∈ xs, x.Portable) →
      ∃ objects : List (List (String × Json)),
        Json.parse (Instance.jsonList xs) = .ok (.list (objects.map .object)) ∧
        objects.map (fun members => (Record.ofMembers members).bind m.ofRecord) = xs.map .ok) ∧
    ∀ x : Instance m, x.Portable → m.ofJson x.json = .ok x := by
  have h : m.Aligned := aligned_of_model? hm hd
  constructor
  · intro xs hxs
    refine ⟨xs.map fun x => x.toRecord.entries.map fun e => (e.1, e.2.toJson), ?_, ?_⟩
    · rw [Instance.parse_jsonList h hxs, List.map_map]
      rfl
    · rw [List.map_map]
      apply List.map_congr_left
      intro x hx
      exact Instance.ofMembers_members h (hxs x hx)
  · intro x hx
    exact Instance.ofJson_json h hx

/-- A measurement in a leap second of the year 45 before the era. -/
def measured : Instance measurementModel where
  get
    | ⟨0, _⟩ => (0.1 : Float)
    | ⟨1, _⟩ => (none : Option Int64)
    | ⟨2, _⟩ => some "a \"quoted\"\nnote"
    | ⟨3, _⟩ => (⟨⟨-44, 3, 15, by decide⟩, ⟨23, 59, 59, 1500000000, by decide⟩⟩ :
        Calendar.Timestamp)

theorem portable_measured : measured.Portable := by
  have hlevel : Json.ReadsBack 0.1 := by decide +kernel
  have hlast : Calendar.Clock.LeapLast ⟨23, 59, 59, 1500000000, by decide⟩ := by decide
  intro i
  match i with
  | ⟨0, _⟩ => exact hlevel
  | ⟨1, _⟩ => exact trivial
  | ⟨2, _⟩ => exact trivial
  | ⟨3, _⟩ => exact hlast

theorem jsonList_round_trip_measured :
    measurement.model? measurementTypes = some measurementModel ∧
      (measurement.shape.named.map Prod.fst).Nodup ∧ measured.Portable ∧
      (∃ objects : List (List (String × Json)),
        Json.parse (Instance.jsonList [measured, measured]) =
          .ok (.list (objects.map .object)) ∧
        objects.map (fun members => (Record.ofMembers members).bind measurementModel.ofRecord) =
          [.ok measured, .ok measured]) ∧
      measurementModel.ofJson measured.json = .ok measured := by
  have hd : (measurement.shape.named.map Prod.fst).Nodup := by decide +kernel
  have hround := jsonList_round_trip measurement_model? hd
  have hxs : ∀ x ∈ [measured, measured], x.Portable := by
    intro x hx
    have he : x = measured := by simpa using hx
    exact he ▸ portable_measured
  exact ⟨measurement_model?, hd, portable_measured, hround.1 _ hxs,
    hround.2 measured portable_measured⟩

def measuredAt (t : Calendar.Timestamp) : Instance measurementModel where
  get
    | ⟨0, _⟩ => (0.1 : Float)
    | ⟨1, _⟩ => (none : Option Int64)
    | ⟨2, _⟩ => (none : Option String)
    | ⟨3, _⟩ => t

/-- A record is not read back if it holds a leap second that does not end its minute. The text is
that of a record with the second after, which is read instead. -/
theorem not_jsonList_round_trip :
    measurement.model? measurementTypes = some measurementModel ∧
      (measurement.shape.named.map Prod.fst).Nodup ∧ Json.ReadsBack 0.1 ∧
      measurementModel.ofJson (measuredAt Calendar.leapMidMinute).json ≠
        .ok (measuredAt Calendar.leapMidMinute) := by
  have hd : (measurement.shape.named.map Prod.fst).Nodup := by decide +kernel
  have hlevel : Json.ReadsBack 0.1 := by decide +kernel
  have hshown : (measuredAt Calendar.leapMidMinute.shown).Portable := by
    have hlast : Calendar.leapMidMinute.shown.clock.LeapLast := by decide +kernel
    intro i
    match i with
    | ⟨0, _⟩ => exact hlevel
    | ⟨1, _⟩ => exact trivial
    | ⟨2, _⟩ => exact trivial
    | ⟨3, _⟩ => exact hlast
  have hsame : (measuredAt Calendar.leapMidMinute).json =
      (measuredAt Calendar.leapMidMinute.shown).json := by decide +kernel
  refine ⟨measurement_model?, hd, hlevel, ?_⟩
  rw [hsame, Instance.ofJson_json (aligned_of_model? measurement_model? hd) hshown]
  intro hread
  have htaken := congrArg (fun x => x.get ⟨3, by decide⟩) (Except.ok.inj hread)
  have hlast := Calendar.Timestamp.shown_eq_self.1 htaken
  exact absurd hlast (by decide)

end TableMapper
