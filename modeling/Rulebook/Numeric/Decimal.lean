import Rulebook.Numeric.Binary

/-! Decimals and the binary numbers nearest to them. -/
namespace Rulebook.Numeric

/-- The value of a digit of base ten. -/
def digitValue? (char : Char) : Option Nat :=
  if '0' ≤ char ∧ char ≤ '9' then some (char.toNat - '0'.toNat) else none

def isDigit (char : Char) : Bool :=
  (digitValue? char).isSome

/-- The number written by digits of base ten; other characters count as zero. -/
def digitsValue (digits : List Char) : Nat :=
  digits.foldl (fun value char => 10 * value + (digitValue? char).getD 0) 0

/-- A coefficient times a power of ten, with a sign of its own so that zero has
one too. -/
structure Decimal where
  negative : Bool
  coefficient : Nat
  exponent : Int
deriving DecidableEq

namespace Decimal

/-- The nearest number of a format. Exponents far outside the format are
settled first, so that no power of ten beyond them is formed. -/
def toBinary {format : Format} (decimal : Decimal) : Binary format :=
  let reach : Int := Nat.pow 2 format.exponentBits
  if decimal.coefficient = 0 then .zero decimal.negative
  else if decimal.exponent > reach then .infinity decimal.negative
  else if decimal.exponent + decimal.coefficient.log2 + 1 < -reach then .zero decimal.negative
  else if 0 ≤ decimal.exponent then
    let scale := Nat.pow 10 decimal.exponent.toNat
    .ofQuanta decimal.negative (decimal.coefficient * scale * format.unit) 1
  else
    let scale := Nat.pow 10 (-decimal.exponent).toNat
    .ofQuanta decimal.negative (decimal.coefficient * format.unit) scale

end Decimal

end Rulebook.Numeric
