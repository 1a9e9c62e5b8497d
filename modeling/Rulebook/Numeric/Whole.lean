import Rulebook.Numeric.Binary

/-! Whole numbers near a binary number. A rule tells which whole number stands for
a quotient; it is applied to the exact value of the number. -/
namespace Rulebook.Numeric

/-- The whole number at or below a quotient. -/
def floorQuotient (numerator : Int) (denominator : Nat) : Int :=
  numerator / (denominator : Int)

/-- The whole number at or above a quotient. -/
def ceilQuotient (numerator : Int) (denominator : Nat) : Int :=
  -(-numerator / (denominator : Int))

/-- The whole number between a quotient and zero. -/
def truncQuotient (numerator : Int) (denominator : Nat) : Int :=
  numerator.tdiv denominator

/-- The whole number nearest to a quotient, a half away from zero. -/
def nearestQuotient (numerator : Int) (denominator : Nat) : Int :=
  (2 * numerator + numerator.sign * denominator).tdiv (2 * denominator)

/-- The 32-bit integer closest to a whole number. -/
def clampInt32 (value : Int) : Int32 :=
  Int32.ofInt (max Int32.minValue.toInt (min value Int32.maxValue.toInt))

namespace Binary

variable {format : Format}

/-- A number made whole by a rule on its exact value, a count of quanta and the
number of quanta in one. A zero keeps the sign of the number. -/
def makeWhole (rule : Int → Nat → Int) (number : Binary format) : Binary format :=
  match number.read with
  | .nan => nan
  | .infinite _ => number
  | .finite negative quanta =>
    ofQuanta negative ((rule (signed negative quanta) format.unit).natAbs * format.unit) 1

end Binary

namespace Double

/-- A number made a 32-bit integer by a rule on its exact value. Numbers beyond
the integers give the nearest bound and a NaN gives zero. -/
def toInt32 (rule : Int → Nat → Int) (number : Double) : Int32 :=
  match number.read with
  | .nan => 0
  | .infinite negative => if negative then Int32.minValue else Int32.maxValue
  | .finite negative quanta =>
    clampInt32 (rule (Binary.signed negative quanta) Format.double.unit)

end Double

end Rulebook.Numeric
