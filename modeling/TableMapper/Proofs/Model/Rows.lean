import TableMapper.Proofs.Model.Json
import TableMapper.Proofs.Model.Reading
import TableMapper.Query.Actions

/-!
# Reading rows by position

The values of a row belong to the key first and then to the other fields in the order of
declaration; a missing value is NULL. The first field in this order that does not read its value
decides what a row fails with, and the first row that fails decides for a list of rows.
-/

namespace TableMapper

namespace Model

variable {m : Model}

section Places

variable (h : m.Aligned) {k : Nat} {i : m.Field} (hi : (m.key :: m.others)[k]? = some i) (row : Row)

include h

theorem entries_rowRecord : (m.rowRecord row).entries = m.columnNames.zip row := by
  have hnames : ((m.columnNames.zip row).map Prod.fst).Sublist m.columnNames := by
    rw [List.zip_eq_zip_take_min, List.map_fst_zip (by simp)]
    exact List.take_sublist _ _
  exact Record.entries_ofPairs (h.distinct.sublist hnames)

include hi

theorem get?_rowRecord : (m.rowRecord row).get? (m.columnOf i) = row[k]? := by
  have hname : m.columnNames[k]? = some (m.columnOf i) := by
    rw [h.columnNames, h.written, List.getElem?_map, hi]
    rfl
  apply Option.ext
  intro v
  rw [Record.get?_eq_some_iff, entries_rowRecord h, List.mem_iff_getElem?]
  constructor
  · rintro ⟨j, hj⟩
    obtain ⟨hname', hv⟩ := List.getElem?_zip_eq_some.1 hj
    have hlt : k < m.columnNames.length := (List.getElem?_eq_some_iff.1 hname).1
    have hkj : k = j := (List.getElem?_inj hlt h.distinct).1 (hname.trans hname'.symm)
    rwa [hkj]
  · intro hv
    exact ⟨k, List.getElem?_zip_eq_some.2 ⟨hname, hv⟩⟩

theorem get_rowRecord : (m.rowRecord row).get (m.columnOf i) = row.getD k .null := by
  rw [Record.get, get?_rowRecord h hi row, List.getD_eq_getElem?_getD]

end Places

namespace Aligned

variable (h : m.Aligned)

include h

theorem ofRow_congr {row row' : Row}
    (hrows : ∀ k < m.schema.length, row.getD k .null = row'.getD k .null) :
    m.ofRow row = m.ofRow row' := by
  apply ofRecord_congr
  intro e he
  rw [h.read_eq] at he
  obtain ⟨i, hmem, rfl⟩ := List.mem_map.1 he
  obtain ⟨k, hk⟩ := List.mem_iff_getElem?.1 hmem
  have hlt : k < m.schema.length := by
    have hlength := (List.getElem?_eq_some_iff.1 hk).1
    rwa [← h.written, h.lengths.2.1, ← h.lengths.1] at hlength
  rw [get_rowRecord h hk row, get_rowRecord h hk row', hrows k hlt]

theorem length_values (x : Instance m) : x.values.length = m.schema.length := by
  rw [Instance.values, List.length_map, h.lengths.1, h.lengths.2.1]

theorem ofRow_values (x : Instance m) : m.ofRow x.values = .ok x := x.ofRecord_toRecord h

end Aligned

theorem getD_cut {α : Type} (as : List α) (a : α) {n k : Nat} (hk : k < n) :
    ((as.take n).rightpad n a).getD k a = as.getD k a := by
  rw [List.rightpad, List.getD_eq_getElem?_getD, List.getD_eq_getElem?_getD]
  by_cases hlt : k < as.length
  · have htake : k < (as.take n).length := by
      rw [List.length_take]
      omega
    rw [List.getElem?_append_left htake, List.getElem?_take_of_lt hk]
  · have htake : (as.take n).length = as.length := by
      rw [List.length_take]
      omega
    have hreplicate : k - as.length < n - as.length := by omega
    rw [List.getElem?_append_right (by omega), htake, List.getElem?_replicate_of_lt hreplicate,
      List.getElem?_eq_none (by omega)]
    rfl

open Declaration (Item)

/-- A row of any length is read like the row that is cut to the number of columns and filled up with
NULL. So an instance is read back from its own values, whatever follows them. -/
theorem rows_cut_and_filled {typeOf? : String → Option FieldType} {d : Item}
    (hm : d.model? typeOf? = some m) (hd : (d.shape.named.map Prod.fst).Nodup) :
    (∀ row : Row, m.ofRow row =
      m.ofRow ((row.take m.schema.length).rightpad m.schema.length .null)) ∧
    ∀ x : Instance m, m.ofRow x.values = .ok x ∧
      ∀ spare : Row, m.ofRow (x.values ++ spare) = .ok x := by
  have h : m.Aligned := aligned_of_model? hm hd
  constructor
  · intro row
    apply h.ofRow_congr
    intro k hk
    exact (getD_cut row .null hk).symm
  · intro x
    refine ⟨h.ofRow_values x, fun spare => ?_⟩
    rw [← h.ofRow_values x]
    apply h.ofRow_congr
    intro k hk
    have hlt : k < x.values.length := (h.length_values x).symm ▸ hk
    rw [List.getD_eq_getElem?_getD, List.getElem?_append_left hlt, List.getD_eq_getElem?_getD]

/-- A value too many is ignored although no field could read it, and two that are missing are NULL. -/
theorem rows_cut_and_filled_measured :
    measurement.model? measurementTypes = some measurementModel ∧
      (measurement.shape.named.map Prod.fst).Nodup ∧
      measurementModel.ofRow (measured.values ++ [.text "spare"]) = .ok measured ∧
      measurementModel.ofRow [.int 7, .float 0.5] =
        measurementModel.ofRow [.int 7, .float 0.5, .null, .null] := by
  have hd : (measurement.shape.named.map Prod.fst).Nodup := by decide +kernel
  obtain ⟨hrows, hvalues⟩ := rows_cut_and_filled measurement_model? hd
  exact ⟨measurement_model?, hd, (hvalues measured).2 _, hrows [.int 7, .float 0.5]⟩

end Model

end TableMapper
