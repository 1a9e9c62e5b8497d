import Rulebook.Number
import Rulebook.Numeric.Arithmetic
import Rulebook.Numeric.Whole

/-! Arithmetic on numbers of mixed precision. Operands are widened to 64 bits,
the result is cut back to the higher of their precisions, and only then brought
to the precision of the target. -/
namespace Rulebook
open Numeric

/-- How a fraction becomes an integer: to the nearest one, a half away from
zero, or down, or up. -/
inductive Rounding where
  | nearest
  | floor
  | ceil
deriving DecidableEq, BEq

namespace Rounding

/-- All roundings. -/
def all : List Rounding := [nearest, floor, ceil]

def rule : Rounding → Int → Nat → Int
  | nearest => nearestQuotient
  | floor => floorQuotient
  | ceil => ceilQuotient

def toInt32 (rounding : Rounding) (number : Double) : Int32 :=
  Double.toInt32 rounding.rule number

end Rounding

/-- A number brought to a precision, integers by a rounding. -/
def narrow (number : Double) (kind : NumberKind) (rounding : Rounding) : Number :=
  match kind with
  | .int32 => .int (rounding.toInt32 number)
  | .float32 => .float number.convert
  | .float64 => .double number

/-- A number cut to what a precision can hold, integers toward zero. -/
def quantize (number : Double) (kind : NumberKind) : Double :=
  match kind with
  | .int32 => .ofInt (number.toInt32 truncQuotient).toInt
  | .float32 => (number.convert : Single).convert
  | .float64 => number

/-- Operators on numbers; `set` gives the first operand. -/
inductive Arithmetic where
  | set
  | add
  | subtract
  | multiply
  | divide
  | modulo
  | power
  | min
  | max
deriving DecidableEq, BEq

namespace Arithmetic

/-- All arithmetic operators. -/
def all : List Arithmetic :=
  [set, add, subtract, multiply, divide, modulo, power, min, max]

/-- The result in 64 bits. -/
def raw : Arithmetic → Double → Double → Double
  | set, left, _ => left
  | add, left, right => left + right
  | subtract, left, right => left - right
  | multiply, left, right => left * right
  | divide, left, right => left / right
  | modulo, left, right => left % right
  | power, left, right => left.pow right
  | min, left, right => Binary.min left right
  | max, left, right => Binary.max left right

def divides : Arithmetic → Bool
  | divide | modulo => true
  | _ => false

/-- The result at a precision; none when integers are divided by zero. -/
def apply (operator : Arithmetic) (left right : Double) (kind : NumberKind) : Option Double :=
  if kind.isInteger && operator.divides && right.isZero then none
  else some (quantize (operator.raw left right) kind)

end Arithmetic

end Rulebook
