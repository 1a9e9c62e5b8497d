import Rulebook.Json.Operation
import Rulebook.Json.Reader
import Rulebook.Json.Writer
import Rulebook.RuleSet

/-! Rule sets as JSON texts. Every field is written, in the order of its
structure; when a set is read, fields that have a usual value may be missing. -/
namespace Rulebook
open Script

namespace VariableDefinition

def toJson (definition : VariableDefinition) : Json :=
  .ofFields [("name", .ofString definition.name), ("value", definition.value.toJson)]

def ofJson? (json : Json) : Option VariableDefinition := do
  let fields ← json.fields? ["name", "value"]
  return ⟨← Json.required? fields "name" Json.string?,
    ← Json.required? fields "value" Value.ofJson?⟩

end VariableDefinition

namespace Rule

def gateToJson : Gate → Json
  | none => .null
  | some conditions => .array (conditions.map Condition.toJson)

def toJson (rule : Rule) : Json :=
  .ofFields [
    ("name", .ofString rule.name),
    ("gate", gateToJson rule.gate),
    ("operations", .array (rule.operations.map fun operations =>
      .array (operations.map Operation.toJson)))]

def ofJson? (json : Json) : Option Rule := do
  let fields ← json.fields? ["name", "gate", "operations"]
  return ⟨← Json.required? fields "name" Json.string?,
    ← Json.defaulted? fields "gate" none (Json.optional? (Json.list? Condition.ofJson?)),
    ← Json.defaulted? fields "operations" [] (Json.list? (Json.list? Operation.ofJson?))⟩

end Rule

def limitsToJson (limits : Limits) : Json :=
  .ofFields [
    ("max_length", .ofNat limits.maxLength.toNat),
    ("max_depth", .ofNat limits.maxDepth.toNat),
    ("max_steps", .ofNat limits.maxSteps.toNat)]

def limitsOfJson? (json : Json) : Option Limits := do
  let fields ← json.fields? ["max_length", "max_depth", "max_steps"]
  return ⟨← Json.defaulted? fields "max_length" Limits.default.maxLength Json.uint64?,
    ← Json.defaulted? fields "max_depth" Limits.default.maxDepth Json.uint32?,
    ← Json.defaulted? fields "max_steps" Limits.default.maxSteps Json.uint32?⟩

namespace RuleSet

def toJson (ruleSet : RuleSet) : Json :=
  .ofFields [
    ("version", .ofNat ruleSet.version.toNat),
    ("script", limitsToJson ruleSet.script),
    ("variables", .array (ruleSet.definitions.map VariableDefinition.toJson)),
    ("rules", .array (ruleSet.rules.map Rule.toJson))]

def ofJson? (json : Json) : Option RuleSet := do
  let fields ← json.fields? ["version", "script", "variables", "rules"]
  return ⟨← Json.required? fields "version" Json.uint32?,
    ← Json.defaulted? fields "script" Limits.default limitsOfJson?,
    ← Json.defaulted? fields "variables" [] (Json.list? VariableDefinition.ofJson?),
    ← Json.defaulted? fields "rules" [] (Json.list? Rule.ofJson?)⟩

/-- The text of a rule set, with every member on a line of its own. -/
def toText (ruleSet : RuleSet) : String :=
  ruleSet.toJson.pretty

/-- The rule set that a text writes, in the newest version. -/
def ofText (text : String) : Except RuleSetError Upgrade :=
  match (Json.read? text).bind ofJson? with
  | none => .error .json
  | some ruleSet => ruleSet.upgrade

end RuleSet

end Rulebook
