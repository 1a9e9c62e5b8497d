import Rulebook.Numeric.Style
import Rulebook.Numeric.Whole

/-! Vectors of two, three or four components, all integers or all floats. -/
namespace Rulebook
open Numeric

/-- The length of a vector and whether its components are integers. -/
structure VectorShape where
  length : Nat
  integer : Bool
deriving DecidableEq

namespace VectorShape

/-- The shape with the closest length that vectors have. -/
def clamped (length : Nat) (integer : Bool) : VectorShape :=
  ⟨max 2 (min length 4), integer⟩

def name (shape : VectorShape) : String :=
  "vector" ++ toString shape.length ++ if shape.integer then "int" else ""

/-- The longer length, with integers only if both shapes have them. -/
def merge (left right : VectorShape) : VectorShape :=
  clamped (max left.length right.length) (left.integer && right.integer)

end VectorShape

inductive Vector where
  | int2 (x y : Int32)
  | int3 (x y z : Int32)
  | int4 (x y z w : Int32)
  | float2 (x y : Single)
  | float3 (x y z : Single)
  | float4 (x y z w : Single)
deriving DecidableEq, BEq

namespace Vector

def shape : Vector → VectorShape
  | int2 .. => ⟨2, true⟩
  | int3 .. => ⟨3, true⟩
  | int4 .. => ⟨4, true⟩
  | float2 .. => ⟨2, false⟩
  | float3 .. => ⟨3, false⟩
  | float4 .. => ⟨4, false⟩

/-- The components widened to 64 bits. -/
def components : Vector → List Double
  | int2 x y => [x, y].map widenInt
  | int3 x y z => [x, y, z].map widenInt
  | int4 x y z w => [x, y, z, w].map widenInt
  | float2 x y => [x, y].map Binary.convert
  | float3 x y z => [x, y, z].map Binary.convert
  | float4 x y z w => [x, y, z, w].map Binary.convert
where
  widenInt (value : Int32) : Double := .ofInt value.toInt

/-- The component at an index, zero past the last one. -/
def component (vector : Vector) (index : Nat) : Double :=
  vector.components[index]?.getD (.zero false)

/-- The vector of a shape with given components. Integer components are cut off
toward zero and kept within 32 bits; a length that vectors do not have counts
as four. -/
def ofComponents (shape : VectorShape) (component : Nat → Double) : Vector :=
  let int := fun index => (component index).toInt32 truncQuotient
  let float := fun index => (component index).convert
  match shape.length, shape.integer with
  | 2, true => int2 (int 0) (int 1)
  | 3, true => int3 (int 0) (int 1) (int 2)
  | _, true => int4 (int 0) (int 1) (int 2) (int 3)
  | 2, false => float2 (float 0) (float 1)
  | 3, false => float3 (float 0) (float 1) (float 2)
  | _, false => float4 (float 0) (float 1) (float 2) (float 3)

def zero (shape : VectorShape) : Vector :=
  ofComponents shape fun _ => .zero false

/-- The first two components, as 32-bit floats. -/
def planar (vector : Vector) : Single × Single :=
  ((vector.component 0).convert, (vector.component 1).convert)

/-- Float components are shown as 64-bit numbers. -/
def display (vector : Vector) : String :=
  "(" ++ ", ".intercalate (vector.components.map Binary.text) ++ ")"

end Vector

end Rulebook
