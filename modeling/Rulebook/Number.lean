import Rulebook.Numeric.Style

/-! Scalar numbers of three precisions. Widening to 64 bits is exact. -/
namespace Rulebook
open Numeric

/-- The precisions of numbers, the least precise first. -/
inductive NumberKind where
  | int32
  | float32
  | float64
deriving DecidableEq

namespace NumberKind

def name : NumberKind → String
  | int32 => "int"
  | float32 => "float"
  | float64 => "double"

def isInteger : NumberKind → Bool
  | int32 => true
  | _ => false

/-- The higher of two precisions. -/
def merge : NumberKind → NumberKind → NumberKind
  | float64, _ | _, float64 => float64
  | float32, _ | _, float32 => float32
  | int32, int32 => int32

end NumberKind

inductive Number where
  | int (value : Int32)
  | float (value : Single)
  | double (value : Double)
deriving DecidableEq, BEq

namespace Number

def kind : Number → NumberKind
  | int _ => .int32
  | float _ => .float32
  | double _ => .float64

def zero : NumberKind → Number
  | .int32 => int 0
  | .float32 => float (.zero false)
  | .float64 => double (.zero false)

/-- The same number in 64 bits. -/
def widen : Number → Double
  | int value => .ofInt value.toInt
  | float value => value.convert
  | double value => value

def display : Number → String
  | int value => toString value.toInt
  | float value => value.text
  | double value => value.text

end Number

end Rulebook
