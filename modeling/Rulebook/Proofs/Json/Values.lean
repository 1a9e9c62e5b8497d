import Rulebook.Proofs.Json.Restoring
import Rulebook.Proofs.Json.Text
import Rulebook.Proofs.Numeric.ReadBack

/-! Numbers, vectors, values and references as JSON. Each is written as JSON allows
and restored when its floats are. -/
namespace Rulebook
open Json Numeric

namespace Json

theorem Writable.alternative {name : String} {content : Json} (writable : Writable content) :
    Writable (.ofAlternative name content) :=
  .object (by simpa using writable)

theorem writable_ofNat (value : Nat) : Writable (.ofNat value) :=
  .number _ (Style.wellFormed_digits value)

theorem writable_ofInt (value : Int) : Writable (.ofInt value) :=
  .number _ (Style.wellFormed_digits value.natAbs)

theorem writable_ofBinary {format : Format} (style : Style) (value : Binary format) :
    Writable (.ofBinary style value) := by
  rw [ofBinary]
  split
  · exact .number _ (style.wellFormed_magnitude value)
  · exact .null

theorem Writable.list {α : Type} {write : α → Json} {contents : List α}
    (each : ∀ content ∈ contents, Writable (write content)) :
    Writable (.array (contents.map write)) :=
  .array (by simpa using each)

end Json

theorem Numeric.Single.restored (value : Single) :
    Restored value.toJson.single? value [.float value] := by
  refine .float (fun _ _ => Number.float.inj) rfl fun read => ?_
  change value.isFinite = true
  by_contra infinite
  rw [Single.toJson, ofBinary, if_neg infinite] at read
  exact read rfl

theorem Numeric.Double.restored (value : Double) :
    Restored value.toJson.double? value [.double value] := by
  refine .float (fun _ _ => Number.double.inj) rfl fun read => ?_
  change value.isFinite = true
  by_contra infinite
  rw [Double.toJson, ofBinary, if_neg infinite] at read
  exact read rfl

namespace Number

/-- The floats in a number. -/
def floats : Number → List Number
  | int _ => []
  | float value => [float value]
  | double value => [double value]

theorem ofJson?_int (value : Int32) : ofJson? (int value).toJson = some (int value) := by
  change (Int32.toJson value).int32?.map int = _
  rw [int32?_toJson, Option.map_some]

theorem restored (number : Number) : Restored (ofJson? number.toJson) number number.floats := by
  cases number with
  | int value =>
    rw [ofJson?_int]
    exact .pure _
  | float value => exact value.restored.map
  | double value => exact value.restored.map

theorem writable (number : Number) : Writable number.toJson := by
  cases number with
  | int value => exact (writable_ofInt _).alternative
  | float value => exact (writable_ofBinary _ _).alternative
  | double value => exact (writable_ofBinary _ _).alternative

end Number

namespace Vector

/-- The floats in a vector. -/
def floats : Vector → List Number
  | int2 .. | int3 .. | int4 .. => []
  | float2 x y => [.float x, .float y]
  | float3 x y z => [.float x, .float y, .float z]
  | float4 x y z w => [.float x, .float y, .float z, .float w]

theorem ints_restored (values : List Int32) :
    Restored (list? int32? (.array (values.map Int32.toJson))) values [] := by
  have each : ∀ value ∈ values, Restored (int32? (Int32.toJson value)) value [] := by
    intro value _
    rw [int32?_toJson]
    exact .pure value
  have written := Restored.list each
  rwa [List.flatMap_eq_nil_iff.mpr fun _ _ => rfl] at written

theorem singles_restored (values : List Single) :
    Restored (list? single? (.array (values.map Single.toJson))) values
      (values.flatMap fun value => [.float value]) :=
  Restored.list fun value _ => value.restored

theorem restored (vector : Vector) : Restored (ofJson? vector.toJson) vector vector.floats := by
  cases vector with
  | int2 x y => exact (ints_restored [x, y]).andThen rfl
  | int3 x y z => exact (ints_restored [x, y, z]).andThen rfl
  | int4 x y z w => exact (ints_restored [x, y, z, w]).andThen rfl
  | float2 x y => exact (singles_restored [x, y]).andThen rfl
  | float3 x y z => exact (singles_restored [x, y, z]).andThen rfl
  | float4 x y z w => exact (singles_restored [x, y, z, w]).andThen rfl

theorem ints_writable (values : List Int32) : Writable (.array (values.map Int32.toJson)) :=
  .list fun _ _ => writable_ofInt _

theorem singles_writable (values : List Single) : Writable (.array (values.map Single.toJson)) :=
  .list fun _ _ => writable_ofBinary _ _

theorem writable (vector : Vector) : Writable vector.toJson := by
  cases vector with
  | int2 x y => exact (ints_writable [x, y]).alternative
  | int3 x y z => exact (ints_writable [x, y, z]).alternative
  | int4 x y z w => exact (ints_writable [x, y, z, w]).alternative
  | float2 x y => exact (singles_writable [x, y]).alternative
  | float3 x y z => exact (singles_writable [x, y, z]).alternative
  | float4 x y z w => exact (singles_writable [x, y, z, w]).alternative

end Vector

namespace Value

/-- The floats in a value. -/
def floats : Value → List Number
  | bool _ => []
  | number value => value.floats
  | vector value => value.floats

theorem restored (value : Value) : Restored (ofJson? value.toJson) value value.floats := by
  cases value with
  | bool value => exact .pure _
  | number value => exact value.restored.map
  | vector value => exact value.restored.map

theorem writable (value : Value) : Writable value.toJson := by
  cases value with
  | bool value => exact (Writable.boolean value).alternative
  | number value => exact value.writable.alternative
  | vector value => exact value.writable.alternative

end Value

@[simp]
theorem VariableId.ofJson?_toJson (id : VariableId) : ofJson? id.toJson = some id := by
  rw [ofJson?, toJson, uint32?_ofNat]
  rfl

namespace Reference
variable {α : Type}

/-- The floats in a literal; other references have none. -/
def floats (floatsOf : α → List Number) : Reference α → List Number
  | literal value => floatsOf value
  | _ => []

theorem restored {content? : Json → Option α} {write : α → Json} {floatsOf : α → List Number}
    (each : ∀ value, Restored (content? (write value)) value (floatsOf value))
    (reference : Reference α) :
    Restored (ofJson? content? (toJson write reference)) reference (reference.floats floatsOf) := by
  cases reference with
  | unbound => exact .pure _
  | literal value => exact (each value).map
  | bound id =>
    change Restored ((VariableId.ofJson? id.toJson).map bound) _ _
    rw [id.ofJson?_toJson]
    exact .pure _

theorem bool_restored (reference : Reference Bool) :
    boolOfJson? reference.boolToJson = some reference := by
  cases reference with
  | unbound => rfl
  | literal value => rfl
  | bound id =>
    change (VariableId.ofJson? id.toJson).map bound = _
    rw [id.ofJson?_toJson]
    rfl

theorem number_restored (reference : Reference Number) :
    Restored (numberOfJson? reference.numberToJson) reference (reference.floats Number.floats) :=
  reference.restored Number.restored

theorem vector_restored (reference : Reference Vector) :
    Restored (vectorOfJson? reference.vectorToJson) reference (reference.floats Vector.floats) :=
  reference.restored Vector.restored

theorem writable {write : α → Json} (each : ∀ value, Writable (write value))
    (reference : Reference α) : Writable (toJson write reference) := by
  cases reference with
  | unbound => exact .text _
  | literal value => exact (each value).alternative
  | bound id => exact (writable_ofNat _).alternative

@[simp]
theorem bool_writable (reference : Reference Bool) : Writable reference.boolToJson :=
  reference.writable Writable.boolean

@[simp]
theorem number_writable (reference : Reference Number) : Writable reference.numberToJson :=
  reference.writable Number.writable

@[simp]
theorem vector_writable (reference : Reference Vector) : Writable reference.vectorToJson :=
  reference.writable Vector.writable

end Reference

end Rulebook
