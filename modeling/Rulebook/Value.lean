import Rulebook.Number
import Rulebook.Text.Quoted
import Rulebook.Vector

/-! Values of variables and their kinds. -/
namespace Rulebook
open Numeric Text

inductive Kind where
  | bool
  | number (kind : NumberKind)
  | vector (shape : VectorShape)
deriving DecidableEq

def Kind.name : Kind → String
  | bool => "bool"
  | number kind => kind.name
  | vector shape => shape.name

inductive Value where
  | bool (value : Bool)
  | number (value : Number)
  | vector (value : Vector)
deriving DecidableEq, BEq

/-- Inspection writes numbers so that floats can be told from integers, and very
large and very small ones with an exponent. -/
def inspectionStyle : Style where
  positional := some (-3, 16)
  wholePoint := true
  exponentPlus := false
  ties := .upward

/-- A truth value as it is written everywhere. -/
def boolText (value : Bool) : String :=
  if value then "true" else "false"

namespace Value

def kind : Value → Kind
  | bool _ => .bool
  | number value => .number value.kind
  | vector value => .vector value.shape

def bool? : Value → Option Bool
  | bool value => some value
  | _ => none

def number? : Value → Option Number
  | number value => some value
  | _ => none

def vector? : Value → Option Vector
  | vector value => some value
  | _ => none

def display : Value → String
  | bool value => boolText value
  | number value => value.display
  | vector value => value.display

end Value

/-- A constructor applied to an argument, as inspection shows it. -/
private def applied (constructor argument : String) : String :=
  constructor ++ "(" ++ argument ++ ")"

def Number.inspect : Number → String
  | int value => applied "Int" (toString value.toInt)
  | float value => applied "Float" (inspectionStyle.write value)
  | double value => applied "Double" (inspectionStyle.write value)

def Vector.inspect : Vector → String
  | int2 x y => ints "Int2" [x, y]
  | int3 x y z => ints "Int3" [x, y, z]
  | int4 x y z w => ints "Int4" [x, y, z, w]
  | float2 x y => floats "Float2" [x, y]
  | float3 x y z => floats "Float3" [x, y, z]
  | float4 x y z w => floats "Float4" [x, y, z, w]
where
  list (texts : List String) : String :=
    "[" ++ ", ".intercalate texts ++ "]"
  ints (constructor : String) (values : List Int32) : String :=
    applied constructor (list (values.map fun value => toString value.toInt))
  floats (constructor : String) (values : List Single) : String :=
    applied constructor (list (values.map inspectionStyle.write))

/-- The value with its constructors. -/
def Value.inspect : Value → String
  | bool value => applied "Bool" (boolText value)
  | number value => applied "Number" value.inspect
  | vector value => applied "Vector" value.inspect

end Rulebook
