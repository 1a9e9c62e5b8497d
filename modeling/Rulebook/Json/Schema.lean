import Rulebook.Json.Basic
import Rulebook.Numeric.Arithmetic
import Rulebook.Numeric.Style

/-! Reading of typed data from JSON values. A structure may be an object, whose
unknown fields are passed over, or a list of its fields in their order. An
alternative is an object whose one key names it, or, when there is nothing more
to say, that name alone. -/
namespace Rulebook
open Numeric

namespace Json

def bool? : Json → Option Bool
  | boolean value => some value
  | _ => none

def string? : Json → Option String
  | .text value => value
  | _ => none

/-- A whole number. Zero with a sign is not one, because it is no integer. -/
def int? : Json → Option Int
  | .number negative numeral =>
    let value := digitsValue numeral.whole
    if numeral.isWhole && !(negative && value == 0) then
      some (if negative then -(value : Int) else value)
    else none
  | _ => none

/-- A whole number within bounds. -/
def boundedInt? (low high : Int) (json : Json) : Option Int :=
  json.int?.filter fun value => decide (low ≤ value ∧ value ≤ high)

def int32? (json : Json) : Option Int32 :=
  (json.boundedInt? Int32.minValue.toInt Int32.maxValue.toInt).map Int32.ofInt

def uint32? (json : Json) : Option UInt32 :=
  (json.boundedInt? 0 (UInt32.size - 1)).map fun value => UInt32.ofNat value.toNat

def uint64? (json : Json) : Option UInt64 :=
  (json.boundedInt? 0 (UInt64.size - 1)).map fun value => UInt64.ofNat value.toNat

/-- A significand with one more digit behind it, if 64 bits hold it. -/
def longer? (significand : Nat) (digit : Char) : Option Nat :=
  let longer := 10 * significand + (digitValue? digit).getD 0
  if longer < UInt64.size then some longer else none

/-- Takes in the digits before a point. From the first that does not fit, digits only count
as powers of ten. -/
def takeWhole (significand : Nat) : List Char → Nat × Int
  | [] => (significand, 0)
  | digit :: rest =>
    match longer? significand digit with
    | some longer => takeWhole longer rest
    | none => (significand, rest.length + 1)

/-- Takes in the digits behind a point. From the first that does not fit, digits do not
count. -/
def takeFraction (significand : Nat) (exponent : Int) : List Char → Nat × Int
  | [] => (significand, exponent)
  | digit :: rest =>
    match longer? significand digit with
    | some longer => takeFraction longer (exponent - 1) rest
    | none => (significand, exponent)

/-- The decimal that is left of a written number when its significand is cut to 64 bits. -/
def cutDecimal (negative : Bool) (numeral : Numeral) : Decimal :=
  let (significand, power) := takeWhole 0 numeral.whole
  let (significand, power) := takeFraction significand power (numeral.fraction.drop 1)
  ⟨negative, significand, power + numeral.exponentValue⟩

/-- A power of ten as a double. -/
def powerOfTen (exponent : Nat) : Double :=
  (Decimal.mk false 1 exponent).toBinary

/-- The largest exponent of a power of ten that is a double. -/
def maxPower : Nat := 308

/-- Divides by a power of ten, by the largest one first as often as needed. -/
def scaleDown (value : Double) (exponent : Nat) : Nat → Double
  | 0 => value / powerOfTen exponent
  | blocks + 1 =>
    if value.isZero then value
    else scaleDown (value / powerOfTen maxPower) (exponent - maxPower) blocks

/-- The significand of a decimal and the power of ten are rounded before they are put
together, and so is what comes of it: the result can be off by a little. -/
def scaled? (decimal : Decimal) : Option Double :=
  let significand : Double := .ofInt decimal.coefficient
  match decimal.exponent with
  | .ofNat exponent =>
    if exponent ≤ maxPower then
      let product := significand * powerOfTen exponent
      if product.isFinite then some product else none
    else if significand.isZero then some significand
    else none
  | .negSucc exponent => some (scaleDown significand (exponent + 1) (exponent / maxPower))

/-- A number as a double; one too large for it is refused. -/
def double? : Json → Option Double
  | .number negative numeral =>
    (scaled? (cutDecimal negative numeral)).map fun value => if negative then -value else value
  | _ => none

/-- A number as a single. Integers of 64 bits are rounded once; any other number
is read as a double first, and one too large for a single becomes infinite. -/
def single? (json : Json) : Option Single :=
  match json.boundedInt? Int64.minValue.toInt (UInt64.size - 1) with
  | some value => some (.ofInt value)
  | none => json.double?.map Binary.convert

def list? {α : Type} (item? : Json → Option α) : Json → Option (List α)
  | .array items => items.mapM item?
  | _ => none

/-- A value that `null` leaves out. -/
def optional? {α : Type} (content? : Json → Option α) : Json → Option (Option α)
  | .null => some none
  | json => (content? json).map some

/-- The fields of an object that belong to a structure, if no key is broken and
none of these fields comes twice. -/
def knownFields? (names : List String) :
    List (JsonText × Json) → Option (List (String × Json))
  | [] => some []
  | (none, _) :: _ => none
  | (some key, value) :: rest =>
    match knownFields? names rest with
    | none => none
    | some known =>
      if key ∈ names then
        if (known.lookup key).isSome then none else some ((key, value) :: known)
      else some known

/-- The fields of a structure by name, as far as they are there. -/
def fields? (names : List String) : Json → Option (List (String × Json))
  | .object fields => knownFields? names fields
  | .array items => if items.length ≤ names.length then some (names.zip items) else none
  | _ => none

/-- A field that must be there. -/
def required? {α : Type} (fields : List (String × Json)) (name : String)
    (content? : Json → Option α) : Option α :=
  match fields.lookup name with
  | some json => content? json
  | none => none

/-- A field that may be missing and then has a fixed value. -/
def defaulted? {α : Type} (fields : List (String × Json)) (name : String)
    (fallback : α) (content? : Json → Option α) : Option α :=
  match fields.lookup name with
  | some json => content? json
  | none => some fallback

/-- The name of an alternative and what it carries; `none` for a name alone. -/
def alternative? : Json → Option (String × Option Json)
  | .text (some name) => some (name, none)
  | .object [(some name, content)] => some (name, some content)
  | _ => none

/-- One of some choices that carry nothing, by name. -/
def choice? {α : Type} (choices : List α) (name : α → String) (json : Json) : Option α :=
  match json.alternative? with
  | some (key, none) | some (key, some .null) =>
    choices.find? fun candidate => decide (name candidate = key)
  | _ => none

/-- An alternative that carries something. -/
def ofAlternative (name : String) (content : Json) : Json :=
  ofFields [(name, content)]

/-- A finite number, written in a style; other numbers are left out. -/
def ofBinary {format : Format} (style : Style) (value : Binary format) : Json :=
  if value.isFinite then .number value.negative (style.magnitude value) else .null

/-- How doubles are written in JSON. -/
def doubleStyle : Style where
  positional := some (-4, 16)
  wholePoint := true
  exponentPlus := true
  ties := .even

/-- How singles are written in JSON. -/
def singleStyle : Style where
  positional := some (-5, 13)
  wholePoint := true
  exponentPlus := true
  ties := .even

end Json

end Rulebook
