import Rulebook.Numeric.Decimal

/-! The shortest decimal of a binary number: of those that read back as the same
number, one with the fewest digits, and of these the nearest to its exact value.
A decimal reads back when it lies between the half-way points to the
neighbouring ranks. -/
namespace Rulebook.Numeric

/-- Which of two equally near shortest decimals is taken. -/
inductive TieRule where
  | upward
  | even
deriving DecidableEq

namespace Format

/-- The half-way points between a rank and its neighbours, in halves of a
quantum. -/
def bounds (format : Format) (rank : Nat) : Nat × Nat :=
  (format.quanta (rank - 1) + format.quanta rank, format.quanta rank + format.quanta (rank + 1))

/-- The multiple of a power of ten that reads back as a rank, the nearer one if
both neighbours on the grid do. A half-way point reads as the even rank. -/
def hit? (format : Format) (ties : TieRule) (rank : Nat) (exponent : Int) : Option Nat :=
  let scale := Nat.pow 10 (-exponent).toNat
  let step := 2 * format.unit * Nat.pow 10 exponent.toNat
  let value := 2 * format.quanta rank * scale
  let low := (format.bounds rank).1 * scale
  let high := (format.bounds rank).2 * scale
  let inside := fun point =>
    decide (low < point ∧ point < high) ||
      decide (rank % 2 = 0 ∧ (point = low ∨ point = high))
  let below := value / step
  let above := below + 1
  match inside (below * step), inside (above * step) with
  | false, false => none
  | true, false => some below
  | false, true => some above
  | true, true =>
    match compare (value - below * step) (above * step - value) with
    | .lt => some below
    | .gt => some above
    | .eq =>
      match ties with
      | .upward => some above
      | .even => some (if below % 2 = 0 then below else above)

/-- The exact value of a rank as a coefficient and a power of ten. -/
def exactDecimal (format : Format) (rank : Nat) : Nat × Int :=
  (format.quanta rank * Nat.pow 5 format.unit.log2, -(format.unit.log2 : Int))

/-- Tries a number of ever finer powers of ten; the first with a hit gives the
fewest digits. The exact value stands in where none of them has one. -/
def search (format : Format) (ties : TieRule) (rank : Nat) : Nat → Int → Nat × Int
  | 0, _ => format.exactDecimal rank
  | tries + 1, exponent =>
    match format.hit? ties rank exponent with
    | some coefficient => (coefficient, exponent)
    | none => search format ties rank tries (exponent - 1)

/-- The coefficient and the power of ten of the shortest decimal of a positive
finite rank. The search begins above the number, and a format has fewer decimal
digits than binary ones. -/
def shortest (format : Format) (ties : TieRule) (rank : Nat) : Nat × Int :=
  let magnitude : Int := (format.quanta rank).log2 - format.unit.log2 + 1
  format.search ties rank (format.fractionBits + 4) (magnitude * 30103 / 100000 + 1)

end Format

end Rulebook.Numeric
