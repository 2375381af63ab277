import TableMapper.Field
import TableMapper.Proofs.Calendar.OwnText
import TableMapper.Proofs.Value.Json

/-!
# Reading back the contents of fields

Every type reads its own values, and reads them also from what JSON makes of them.
-/

namespace TableMapper

namespace BaseType

theorem readInt32_of_readInt64 {v : Value} {n : Int32} (h : readInt64 v = .ok n.toInt64) :
    readInt32 v = .ok n := by
  have hn : n.toInt64.toInt = n.toInt := Int32.toInt_toInt64 n
  rw [readInt32, h]
  simp only [ok_bind, hn]
  rw [if_pos ⟨n.minValue_le_toInt, n.toInt_le⟩, Int32.ofInt_toInt]

theorem readInt32_toInt64 (n : Int32) : readInt32 (.int n.toInt64) = .ok n :=
  readInt32_of_readInt64 rfl

theorem isNull_toValue (t : BaseType) (a : t.Carrier) : (t.toValue a).isNull = false := by
  cases t <;> rfl

theorem ofValue_toValue (t : BaseType) (a : t.Carrier) : t.ofValue (t.toValue a) = .ok a := by
  cases t with
  | int32 => exact readInt32_toInt64 a
  | _ => rfl

theorem readTime_text {α : Type} {read : List Char → Except Calendar.ReadFault α} {cs : List Char}
    {a : α} (h : read cs = .ok a) : readTime read (String.ofList cs) = .ok a := by
  rw [readTime, String.toList_ofList, h]
  rfl

theorem ofValue_viaJson (t : BaseType) (a : t.Carrier) (ha : (t.toValue a).Portable) :
    t.ofValue (t.toValue a).viaJson = .ok a := by
  cases t with
  -- the reader is fixed before the goal is unfolded, which would open the reader itself
  | date =>
    have h := readTime_text (Calendar.readDate_text a)
    exact h
  | timestamp =>
    have h := readTime_text (Calendar.readTimestamp_text a)
    rw [Calendar.Timestamp.shown_eq_self.2 ha] at h
    exact h
  | instant =>
    have h := readTime_text (Calendar.readInstant_text ha.1.1 ha.1.2)
    rw [Calendar.Instant.shown_eq_self.2 ha.2] at h
    exact h
  | _ => exact ofValue_toValue _ a

end BaseType

theorem Value.isNull_viaJson (v : Value) : v.viaJson.isNull = v.isNull := by
  cases v <;> rfl

namespace FieldType

theorem ofValue_toValue (t : FieldType) (a : t.Carrier) : t.ofValue (t.toValue a) = .ok a := by
  obtain ⟨base, nullable⟩ := t
  cases nullable with
  | false => exact base.ofValue_toValue a
  | true =>
    cases a with
    | none => rfl
    | some a => simp [toValue, ofValue, base.isNull_toValue a, base.ofValue_toValue a]

theorem ofValue_viaJson (t : FieldType) (a : t.Carrier) (ha : (t.toValue a).Portable) :
    t.ofValue (t.toValue a).viaJson = .ok a := by
  obtain ⟨base, nullable⟩ := t
  cases nullable with
  | false => exact base.ofValue_viaJson a ha
  | true =>
    cases a with
    | none => rfl
    | some a =>
      have hnull : (base.toValue a).viaJson.isNull = false := by
        rw [Value.isNull_viaJson, base.isNull_toValue]
      simp [toValue, ofValue, hnull, base.ofValue_viaJson a ha]

end FieldType

end TableMapper
