import Rulebook.Numeric.Numeral
import Rulebook.Numeric.Shortest

/-! Texts of binary numbers. A number is written as its shortest decimal; where
the point stands and when an exponent is written is a matter of style. -/
namespace Rulebook.Numeric

/-- How a number is laid out. -/
structure Style where
  /-- The positions of the point, counted from the first digit, at which no
  exponent is written; `none` for all of them. -/
  positional : Option (Int × Int)
  /-- Whether a whole number ends with a point and a zero. -/
  wholePoint : Bool
  /-- Whether a positive exponent has a sign. -/
  exponentPlus : Bool
  ties : TieRule

namespace Style

/-- The digits of a whole number in base ten. -/
def digits (value : Nat) : List Char :=
  Nat.toDigits 10 value

def zeros (count : Nat) : List Char :=
  List.replicate count '0'

/-- Whether a number with its point at a position is written without an
exponent. -/
def isPositional (style : Style) (point : Int) : Bool :=
  match style.positional with
  | none => true
  | some (first, last) => decide (first ≤ point ∧ point ≤ last)

/-- The mark that ends a whole number. -/
def wholeMark (style : Style) : List Char :=
  if style.wholePoint then ['.', '0'] else []

/-- The sign of an exponent. -/
def exponentSign (style : Style) (exponent : Int) : List Char :=
  if exponent < 0 then ['-'] else if style.exponentPlus then ['+'] else []

/-- An exponent with its mark. -/
def exponentText (style : Style) (exponent : Int) : List Char :=
  'e' :: (style.exponentSign exponent ++ digits exponent.natAbs)

/-- A coefficient times a power of ten. -/
def layOut (style : Style) (coefficient : Nat) (exponent : Int) : Numeral :=
  let written := digits coefficient
  let point : Int := written.length + exponent
  if style.isPositional point then
    if 0 ≤ exponent then ⟨written ++ zeros exponent.toNat, style.wholeMark, []⟩
    else if 0 < point then
      ⟨written.take point.toNat, '.' :: written.drop point.toNat, []⟩
    else ⟨['0'], '.' :: (zeros (-point).toNat ++ written), []⟩
  else
    match written with
    | [] | [_] => ⟨written, [], style.exponentText (point - 1)⟩
    | first :: rest => ⟨[first], '.' :: rest, style.exponentText (point - 1)⟩

/-- The magnitude of a finite number. -/
def magnitude (style : Style) {format : Format} (number : Binary format) : Numeral :=
  if number.rank = 0 then ⟨['0'], style.wholeMark, []⟩
  else
    let (coefficient, exponent) := format.shortest style.ties number.rank
    style.layOut coefficient exponent

/-- The text of any number. -/
def write (style : Style) {format : Format} (number : Binary format) : String :=
  if number.isNaN then "NaN"
  else
    (if number.negative then "-" else "") ++
      if number.isFinite then String.ofList (style.magnitude number).text else "inf"

end Style

/-- Messages write numbers without an exponent and whole numbers without a
point. -/
def messageStyle : Style where
  positional := none
  wholePoint := false
  exponentPlus := false
  ties := .upward

/-- The text of a number in messages. -/
def Binary.text {format : Format} (number : Binary format) : String :=
  messageStyle.write number

end Rulebook.Numeric
