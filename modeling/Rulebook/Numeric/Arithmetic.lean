import Rulebook.Numeric.Binary

/-! Arithmetic of binary numbers: the exact result, rounded once to the nearest
number, a half to the even rank. Where there is no result the answer is a NaN. -/
namespace Rulebook.Numeric

namespace Binary

variable {format : Format}

/-- The sum; an exact zero is negative only when both terms are. -/
def add (left right : Binary format) : Binary format :=
  match left.read, right.read with
  | .nan, _ | _, .nan => nan
  | .infinite a, .infinite b => if a = b then infinity a else nan
  | .infinite a, .finite _ _ => infinity a
  | .finite _ _, .infinite b => infinity b
  | .finite a m, .finite b n =>
    let sum := signed a m + signed b n
    if sum = 0 then zero (a && b) else ofQuanta (decide (sum < 0)) sum.natAbs 1

def sub (left right : Binary format) : Binary format :=
  left.add right.neg

def mul (left right : Binary format) : Binary format :=
  match left.read, right.read with
  | .nan, _ | _, .nan => nan
  | .infinite a, .infinite b => infinity (a != b)
  | .infinite a, .finite b n => if n = 0 then nan else infinity (a != b)
  | .finite a m, .infinite b => if m = 0 then nan else infinity (a != b)
  | .finite a m, .finite b n => ofQuanta (a != b) (m * n) format.unit

def div (left right : Binary format) : Binary format :=
  match left.read, right.read with
  | .nan, _ | _, .nan => nan
  | .infinite _, .infinite _ => nan
  | .infinite a, .finite b _ => infinity (a != b)
  | .finite a _, .infinite b => zero (a != b)
  | .finite a m, .finite b n =>
    if n = 0 then (if m = 0 then nan else infinity (a != b))
    else ofQuanta (a != b) (m * format.unit) n

/-- The exact remainder of a division that truncates; it has the sign of the
dividend. -/
def rem (left right : Binary format) : Binary format :=
  match left.read, right.read with
  | .nan, _ | _, .nan => nan
  | .infinite _, _ => nan
  | .finite _ _, .infinite _ => left
  | .finite a m, .finite _ n => if n = 0 then nan else ofQuanta a (m % n) 1

/-- The whole part of a square root. -/
def wholeRoot (square : Nat) : Nat :=
  if square = 0 then 0
  else
    let root := 2 * wholeRoot (square / 4)
    if (root + 1) * (root + 1) ≤ square then root + 1 else root
termination_by square
decreasing_by omega

/-- The square root. A root that is no whole count of quanta lies strictly
between two of them, and half-way stands for all such places: the result has
far more quanta than the format has digits, so no rounding boundary is there. -/
def sqrt (number : Binary format) : Binary format :=
  match number.read with
  | .nan => nan
  | .infinite negative => if negative then nan else number
  | .finite negative quanta =>
    if quanta = 0 then number
    else if negative then nan
    else
      let square := quanta * format.unit
      let root := wholeRoot square
      ofQuanta false (2 * root + if root * root = square then 0 else 1) 2

/-- The smaller number, a NaN giving way to the other operand. -/
def min (left right : Binary format) : Binary format :=
  if left.isNaN then right
  else if right.below left then right
  else left

/-- The larger number, a NaN giving way to the other operand. -/
def max (left right : Binary format) : Binary format :=
  if left.isNaN then right
  else if left.below right then right
  else left

instance : Neg (Binary format) := ⟨neg⟩
instance : Add (Binary format) := ⟨add⟩
instance : Sub (Binary format) := ⟨sub⟩
instance : Mul (Binary format) := ⟨mul⟩
instance : Div (Binary format) := ⟨div⟩
instance : Mod (Binary format) := ⟨rem⟩

end Binary

namespace Double

/-- Powers are those of the machine's arithmetic. -/
def pow (base exponent : Double) : Double :=
  .ofBits (Float.pow (Float.ofBits (UInt64.ofNat base.toBits))
    (Float.ofBits (UInt64.ofNat exponent.toBits))).toBits.toNat

/-- The double nearest to the ratio of a circle to its diameter. -/
def pi : Double := .ofBits 0x400921FB54442D18

end Double

end Rulebook.Numeric
