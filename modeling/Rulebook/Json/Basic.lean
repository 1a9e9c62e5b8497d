import Rulebook.Numeric.Numeral

/-! JSON values. Numbers keep the text they are written with, so that whole
numbers can be told from others and no digit is lost. -/
namespace Rulebook
open Numeric

/-- The content of a JSON string; `none` when its escapes leave half of a
surrogate pair, which stands for no text. -/
abbrev JsonText := Option String

inductive Json where
  | null
  | boolean (value : Bool)
  | number (negative : Bool) (numeral : Numeral)
  | text (value : JsonText)
  | array (items : List Json)
  | object (fields : List (JsonText × Json))

namespace Json

def ofString (value : String) : Json :=
  .text (some value)

/-- An object whose keys are all texts. -/
def ofFields (fields : List (String × Json)) : Json :=
  .object (fields.map fun (key, value) => (some key, value))

def ofNat (value : Nat) : Json :=
  .number false ⟨Nat.toDigits 10 value, [], []⟩

def ofInt (value : Int) : Json :=
  .number (decide (value < 0)) ⟨Nat.toDigits 10 value.natAbs, [], []⟩

end Json

end Rulebook
