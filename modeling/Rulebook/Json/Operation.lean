import Rulebook.Condition
import Rulebook.Json.Value
import Rulebook.Operation

/-! Conditions and operations as JSON. Operands that are missing are unbound, and
a missing rounding is to the nearest integer. -/
namespace Rulebook

namespace Equality

def name : Equality → String
  | equal => "Equal"
  | notEqual => "NotEqual"

def ofJson? : Json → Option Equality := Json.choice? all name

end Equality

namespace Comparison

def name : Comparison → String
  | equal => "Equal"
  | notEqual => "NotEqual"
  | greater => "Greater"
  | greaterOrEqual => "GreaterOrEqual"
  | less => "Less"
  | lessOrEqual => "LessOrEqual"

def ofJson? : Json → Option Comparison := Json.choice? all name

end Comparison

namespace Connective

def name : Connective → String
  | set => "Set"
  | not => "Not"
  | and => "And"
  | or => "Or"
  | xor => "Xor"

def ofJson? : Json → Option Connective := Json.choice? all name

end Connective

namespace Arithmetic

def name : Arithmetic → String
  | set => "Set"
  | add => "Add"
  | subtract => "Subtract"
  | multiply => "Multiply"
  | divide => "Divide"
  | modulo => "Modulo"
  | power => "Power"
  | min => "Min"
  | max => "Max"

def ofJson? : Json → Option Arithmetic := Json.choice? all name

end Arithmetic

namespace Rounding

def name : Rounding → String
  | nearest => "RoundToInt"
  | floor => "FloorToInt"
  | ceil => "CeilToInt"

def ofJson? : Json → Option Rounding := Json.choice? all name

end Rounding

namespace ScriptedCondition

def toJson (question : ScriptedCondition) : Json :=
  .ofFields [
    ("expression", .ofString question.expression),
    ("number_a", question.numberA.numberToJson),
    ("number_b", question.numberB.numberToJson),
    ("bool_a", question.boolA.boolToJson),
    ("bool_b", question.boolB.boolToJson)]

def ofJson? (json : Json) : Option ScriptedCondition := do
  let fields ← json.fields? ["expression", "number_a", "number_b", "bool_a", "bool_b"]
  return ⟨← Json.required? fields "expression" Json.string?,
    ← Json.defaulted? fields "number_a" .unbound Reference.numberOfJson?,
    ← Json.defaulted? fields "number_b" .unbound Reference.numberOfJson?,
    ← Json.defaulted? fields "bool_a" .unbound Reference.boolOfJson?,
    ← Json.defaulted? fields "bool_b" .unbound Reference.boolOfJson?⟩

end ScriptedCondition

namespace Condition

def toJson : Condition → Json
  | bool a equality b =>
    .ofAlternative "Bool" (.ofFields [("a", a.boolToJson),
      ("equality", .ofString equality.name), ("b", b.boolToJson)])
  | number a comparison b =>
    .ofAlternative "Number" (.ofFields [("a", a.numberToJson),
      ("comparison", .ofString comparison.name), ("b", b.numberToJson)])
  | vector a equality b =>
    .ofAlternative "Vector" (.ofFields [("a", a.vectorToJson),
      ("equality", .ofString equality.name), ("b", b.vectorToJson)])
  | .scripted question => .ofAlternative "Scripted" question.toJson

def ofJson? (json : Json) : Option Condition := do
  let (name, content) ← json.alternative?
  let content ← content
  match name with
  | "Bool" =>
    let fields ← content.fields? ["a", "equality", "b"]
    return bool (← Json.required? fields "a" Reference.boolOfJson?)
      (← Json.required? fields "equality" Equality.ofJson?)
      (← Json.required? fields "b" Reference.boolOfJson?)
  | "Number" =>
    let fields ← content.fields? ["a", "comparison", "b"]
    return number (← Json.required? fields "a" Reference.numberOfJson?)
      (← Json.required? fields "comparison" Comparison.ofJson?)
      (← Json.required? fields "b" Reference.numberOfJson?)
  | "Vector" =>
    let fields ← content.fields? ["a", "equality", "b"]
    return vector (← Json.required? fields "a" Reference.vectorOfJson?)
      (← Json.required? fields "equality" Equality.ofJson?)
      (← Json.required? fields "b" Reference.vectorOfJson?)
  | "Scripted" => return .scripted (← ScriptedCondition.ofJson? content)
  | _ => none

end Condition

namespace Formula

/-- The name of the alternative of operations a formula makes. -/
def jsonName : Formula → String
  | bool .. => "Bool"
  | number .. => "Number"
  | scripted .. => "ScriptedNumber"
  | vector .. => "Vector"

/-- The fields of an operation between its target and its raise flag. -/
def jsonFields : Formula → List (String × Json)
  | bool operator a b =>
    [("operator", .ofString operator.name), ("a", a.boolToJson), ("b", b.boolToJson)]
  | number operator a b rounding =>
    [("operator", .ofString operator.name), ("a", a.numberToJson), ("b", b.numberToJson),
      ("rounding", .ofString rounding.name)]
  | scripted expression b c rounding =>
    [("expression", .ofString expression), ("number_b", b.numberToJson),
      ("number_c", c.numberToJson), ("rounding", .ofString rounding.name)]
  | vector operator a b rounding =>
    [("operator", .ofString operator.name), ("a", a.vectorToJson), ("b", b.vectorToJson),
      ("rounding", .ofString rounding.name)]

end Formula

namespace Operation

def toJson (operation : Operation) : Json :=
  .ofAlternative operation.formula.jsonName
    (.ofFields (("target", operation.target.toJson) :: operation.formula.jsonFields ++
      [("raise_event", operation.raiseFlag.boolToJson)]))

def ofFields? (fields : List (String × Json)) (formula : Formula) : Option Operation := do
  return ⟨← Json.required? fields "target" VariableId.ofJson?, formula,
    ← Json.defaulted? fields "raise_event" .unbound Reference.boolOfJson?⟩

def ofJson? (json : Json) : Option Operation := do
  let (name, content) ← json.alternative?
  let content ← content
  match name with
  | "Bool" =>
    let fields ← content.fields? ["target", "operator", "a", "b", "raise_event"]
    ofFields? fields (.bool (← Json.required? fields "operator" Connective.ofJson?)
      (← Json.required? fields "a" Reference.boolOfJson?)
      (← Json.required? fields "b" Reference.boolOfJson?))
  | "Number" =>
    let fields ← content.fields? ["target", "operator", "a", "b", "rounding", "raise_event"]
    ofFields? fields (.number (← Json.required? fields "operator" Arithmetic.ofJson?)
      (← Json.required? fields "a" Reference.numberOfJson?)
      (← Json.required? fields "b" Reference.numberOfJson?)
      (← Json.defaulted? fields "rounding" .nearest Rounding.ofJson?))
  | "ScriptedNumber" =>
    let fields ← content.fields?
      ["target", "expression", "number_b", "number_c", "rounding", "raise_event"]
    ofFields? fields (.scripted (← Json.required? fields "expression" Json.string?)
      (← Json.defaulted? fields "number_b" .unbound Reference.numberOfJson?)
      (← Json.defaulted? fields "number_c" .unbound Reference.numberOfJson?)
      (← Json.defaulted? fields "rounding" .nearest Rounding.ofJson?))
  | "Vector" =>
    let fields ← content.fields? ["target", "operator", "a", "b", "rounding", "raise_event"]
    ofFields? fields (.vector (← Json.required? fields "operator" Arithmetic.ofJson?)
      (← Json.required? fields "a" Reference.vectorOfJson?)
      (← Json.required? fields "b" Reference.vectorOfJson?)
      (← Json.defaulted? fields "rounding" .nearest Rounding.ofJson?))
  | _ => none

end Operation

end Rulebook
