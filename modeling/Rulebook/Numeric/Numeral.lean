import Rulebook.Numeric.Decimal

/-! Written numbers: digits, perhaps a fraction, perhaps an exponent. Scanning
takes the longest such text, so a point or an exponent mark without a digit
after it is left unread. -/
namespace Rulebook.Numeric

/-- The parts of a written number; fraction and exponent keep their marks and
are empty when absent. -/
structure Numeral where
  whole : List Char
  fraction : List Char
  exponent : List Char
deriving DecidableEq

namespace Numeral

/-- A point and the digits after it, if there are any. -/
def scanFraction (input : List Char) : List Char :=
  match input with
  | '.' :: rest =>
    match rest.takeWhile isDigit with
    | [] => []
    | digits => '.' :: digits
  | _ => []

theorem scanFraction_isPrefix (input : List Char) : scanFraction input <+: input := by
  unfold scanFraction
  split
  · split
    · exact List.nil_prefix
    · exact List.cons_prefix_cons.mpr ⟨rfl, List.takeWhile_prefix _⟩
  · exact List.nil_prefix

/-- The digits of an exponent behind its mark and sign, if there are any. -/
def scanExponentDigits (marks rest : List Char) : List Char :=
  match rest.takeWhile isDigit with
  | [] => []
  | digits => marks ++ digits

private theorem scanExponentDigits_isPrefix (marks rest : List Char) :
    scanExponentDigits marks rest <+: marks ++ rest := by
  unfold scanExponentDigits
  split
  · exact List.nil_prefix
  · exact (List.prefix_append_right_inj marks).mpr (List.takeWhile_prefix _)

/-- An exponent mark, a sign if there is one, and the digits after them. -/
def scanExponent (input : List Char) : List Char :=
  match input with
  | mark :: rest =>
    if mark = 'e' ∨ mark = 'E' then
      match rest with
      | '+' :: digits => scanExponentDigits [mark, '+'] digits
      | '-' :: digits => scanExponentDigits [mark, '-'] digits
      | digits => scanExponentDigits [mark] digits
    else []
  | [] => []

theorem scanExponent_isPrefix (input : List Char) : scanExponent input <+: input := by
  unfold scanExponent
  split
  · split
    · split <;> exact scanExponentDigits_isPrefix _ _
    · exact List.nil_prefix
  · exact List.nil_prefix

/-- The longest number at the start of a text; `whole` is empty when there is
none. -/
def scan (input : List Char) : Numeral :=
  let whole := input.takeWhile isDigit
  let afterWhole := input.drop whole.length
  let fraction := scanFraction afterWhole
  ⟨whole, fraction, scanExponent (afterWhole.drop fraction.length)⟩

def text (numeral : Numeral) : List Char :=
  numeral.whole ++ numeral.fraction ++ numeral.exponent

private theorem append_isPrefix {first second input : List Char} (start : first <+: input)
    (next : second <+: input.drop first.length) : first ++ second <+: input := by
  obtain ⟨rest, rfl⟩ := start
  rw [List.drop_left] at next
  exact (List.prefix_append_right_inj first).mpr next

theorem text_scan_isPrefix (input : List Char) : (scan input).text <+: input := by
  have fraction := append_isPrefix (List.takeWhile_prefix isDigit (l := input))
    (scanFraction_isPrefix _)
  apply append_isPrefix fraction
  rw [List.length_append, ← List.drop_drop]
  exact scanExponent_isPrefix _

/-- Whether neither a fraction nor an exponent is written. -/
def isWhole (numeral : Numeral) : Bool :=
  numeral.fraction.isEmpty && numeral.exponent.isEmpty

def exponentValue (numeral : Numeral) : Int :=
  match numeral.exponent.drop 1 with
  | '-' :: digits => -(digitsValue digits : Int)
  | '+' :: digits => digitsValue digits
  | digits => digitsValue digits

/-- The decimal a numeral writes, under a given sign. -/
def toDecimal (numeral : Numeral) (negative : Bool) : Decimal where
  negative := negative
  coefficient := digitsValue (numeral.whole ++ numeral.fraction.drop 1)
  exponent := numeral.exponentValue - (numeral.fraction.length - 1 : Nat)

end Numeral

end Rulebook.Numeric
