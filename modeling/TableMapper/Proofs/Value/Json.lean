import TableMapper.Proofs.Calendar.Reading
import TableMapper.Proofs.Json.RoundTrip
import TableMapper.Value

/-!
# Values that JSON carries

Dates and times come back from JSON as texts, every other value as itself.
-/

namespace TableMapper.Value

/-- A double must be read back from its own text. A leap second must be the last of its minute, and
the year of an instant must have the four digits that its reader expects. -/
def Portable : Value → Prop
  | float x => Json.ReadsBack x
  | timestamp t => t.clock.LeapLast
  | instant i => (0 ≤ i.utc.date.year ∧ i.utc.date.year ≤ 9999) ∧ i.utc.clock.LeapLast
  | _ => True

/-- What is read where the value was written. -/
def viaJson : Value → Value
  | date d => text (String.ofList d.text)
  | timestamp t => text (String.ofList (t.text 'T'))
  | instant i => text (String.ofList (i.text 'T'))
  | v => v

/-- A finite double must be read back from its own text; any other is written as null. -/
def Legible : Value → Prop
  | float x => Json.isFinite x = true → Json.ReadsBack x
  | _ => True

/-- What is read where the value was written, whatever it is. -/
def decoded : Value → Value
  | float x => if Json.isFinite x then float x else null
  | v => v.viaJson

theorem Portable.legible {v : Value} (hv : v.Portable) : v.Legible := by
  cases v with
  | float x => exact fun _ => hv
  | _ => exact trivial

theorem Portable.decoded {v : Value} (hv : v.Portable) : v.decoded = v.viaJson := by
  cases v with
  | float x => exact if_pos hv.1
  | _ => rfl

theorem Legible.decoded {v : Value} (hv : v.Legible) : v.decoded.Legible := by
  cases v with
  | float x =>
    rw [Value.decoded]
    split
    · exact hv
    · trivial
  | _ => exact trivial

theorem exact_toJson {v : Value} (hv : v.Legible) : v.toJson.Exact := by
  cases v with
  | int n =>
    constructor
    · exact n.minValue_le_toInt
    · exact Int.lt_of_le_of_lt n.toInt_le (by decide)
  | float x =>
    by_cases hx : Json.isFinite x = true
    · rw [toJson, if_pos hx]
      exact hv hx
    · rw [toJson, if_neg hx]
      trivial
  | _ => exact trivial

theorem height_toJson (v : Value) : v.toJson.height = 0 := by
  cases v with
  | float x =>
    rw [toJson]
    split <;> rfl
  | _ => rfl

theorem int64?_toInt (n : Int64) : Decimal.int64? n.toInt = some n := by
  rw [Decimal.int64?, if_pos ⟨n.minValue_le_toInt, n.toInt_le⟩, Int64.ofInt_toInt]

theorem ofJson_toJson (column : String) (v : Value) : ofJson column v.toJson = .ok v.decoded := by
  cases v with
  | int n =>
    simp only [toJson, ofJson, ofNumber, Json.asInt64?, int64?_toInt]
    rfl
  | float x =>
    by_cases hx : Json.isFinite x = true
    · rw [toJson, decoded, if_pos hx, if_pos hx]
      rfl
    · rw [toJson, decoded, if_neg hx, if_neg hx]
      rfl
  | _ => rfl

end TableMapper.Value
