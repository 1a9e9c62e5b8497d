import Rulebook.Json.Schema
import Rulebook.Reference

/-! Values, variables and operands as JSON. -/
namespace Rulebook
open Numeric

def Int32.toJson (value : Int32) : Json :=
  .ofInt value.toInt

def Numeric.Single.toJson (value : Single) : Json :=
  .ofBinary Json.singleStyle value

def Numeric.Double.toJson (value : Double) : Json :=
  .ofBinary Json.doubleStyle value

namespace Number

def toJson : Number → Json
  | int value => .ofAlternative "Int" (Int32.toJson value)
  | float value => .ofAlternative "Float" (Single.toJson value)
  | double value => .ofAlternative "Double" (Double.toJson value)

def ofJson? (json : Json) : Option Number :=
  match json.alternative? with
  | some ("Int", some content) => content.int32?.map int
  | some ("Float", some content) => content.single?.map float
  | some ("Double", some content) => content.double?.map double
  | _ => none

end Number

namespace Vector

private def ofInts (values : List Int32) : Json :=
  .array (values.map Int32.toJson)

private def ofSingles (values : List Single) : Json :=
  .array (values.map Single.toJson)

def toJson : Vector → Json
  | int2 x y => .ofAlternative "Int2" (ofInts [x, y])
  | int3 x y z => .ofAlternative "Int3" (ofInts [x, y, z])
  | int4 x y z w => .ofAlternative "Int4" (ofInts [x, y, z, w])
  | float2 x y => .ofAlternative "Float2" (ofSingles [x, y])
  | float3 x y z => .ofAlternative "Float3" (ofSingles [x, y, z])
  | float4 x y z w => .ofAlternative "Float4" (ofSingles [x, y, z, w])

def ofJson? (json : Json) : Option Vector := do
  let (name, content) ← json.alternative?
  let content ← content
  match name with
  | "Int2" => match ← content.list? Json.int32? with
    | [x, y] => return int2 x y
    | _ => none
  | "Int3" => match ← content.list? Json.int32? with
    | [x, y, z] => return int3 x y z
    | _ => none
  | "Int4" => match ← content.list? Json.int32? with
    | [x, y, z, w] => return int4 x y z w
    | _ => none
  | "Float2" => match ← content.list? Json.single? with
    | [x, y] => return float2 x y
    | _ => none
  | "Float3" => match ← content.list? Json.single? with
    | [x, y, z] => return float3 x y z
    | _ => none
  | "Float4" => match ← content.list? Json.single? with
    | [x, y, z, w] => return float4 x y z w
    | _ => none
  | _ => none

end Vector

namespace Value

def toJson : Value → Json
  | bool value => .ofAlternative "Bool" (.boolean value)
  | number value => .ofAlternative "Number" value.toJson
  | vector value => .ofAlternative "Vector" value.toJson

def ofJson? (json : Json) : Option Value :=
  match json.alternative? with
  | some ("Bool", some content) => content.bool?.map bool
  | some ("Number", some content) => (Number.ofJson? content).map number
  | some ("Vector", some content) => (Vector.ofJson? content).map vector
  | _ => none

end Value

namespace Variable

def toJson (var : Variable) : Json :=
  .ofFields [("name", .ofString var.name), ("value", var.value.toJson)]

def ofJson? (json : Json) : Option Variable := do
  let fields ← json.fields? ["name", "value"]
  return ⟨← Json.required? fields "name" Json.string?,
    ← Json.required? fields "value" Value.ofJson?⟩

end Variable

namespace VariableId

def toJson (id : VariableId) : Json :=
  .ofNat id.index.toNat

def ofJson? (json : Json) : Option VariableId :=
  json.uint32?.map mk

end VariableId

namespace Reference

variable {α : Type}

def toJson (content : α → Json) : Reference α → Json
  | unbound => .ofString "Unbound"
  | literal value => .ofAlternative "Literal" (content value)
  | bound id => .ofAlternative "Bound" id.toJson

def ofJson? (content? : Json → Option α) (json : Json) : Option (Reference α) :=
  match json.alternative? with
  | some ("Unbound", none) | some ("Unbound", some .null) => some unbound
  | some ("Literal", some content) => (content? content).map literal
  | some ("Bound", some content) => (VariableId.ofJson? content).map bound
  | _ => none

def boolToJson : Reference Bool → Json := toJson Json.boolean

def numberToJson : Reference Number → Json := toJson Number.toJson

def vectorToJson : Reference Vector → Json := toJson Vector.toJson

def boolOfJson? : Json → Option (Reference Bool) := ofJson? Json.bool?

def numberOfJson? : Json → Option (Reference Number) := ofJson? Number.ofJson?

def vectorOfJson? : Json → Option (Reference Vector) := ofJson? Vector.ofJson?

end Reference

end Rulebook
