import Rulebook.Script.Error
import Rulebook.Variable

/-! Why a rule cannot be checked or carried out, and the texts that say so. -/
namespace Rulebook
open Script

/-- What a use of a variable asks of its kind. -/
inductive Requirement where
  | exactly (kind : Kind)
  | anyNumber
  | anyVector
deriving DecidableEq

def Requirement.text : Requirement → String
  | exactly kind => kind.name
  | anyNumber => "number"
  | anyVector => "vector"

inductive RuleError where
  | kindMismatch (name : String) (expected : Requirement) (found : Kind)
  | unknownVariable (id : VariableId)
  | duplicateVariable (name : String)
  | divisionByZero (target : String)
  | nonNumericResult (expression : String) (found : TypeTag)
  | script (expression : String) (source : EvalError)
deriving DecidableEq

def RuleError.message : RuleError → String
  | kindMismatch name expected found =>
    let wanted := expected.text
    let actual := found.name
    s!"variable '{name}' is {actual}, expected {wanted}"
  | unknownVariable id =>
    let shown := id.display
    s!"unknown variable: {shown}"
  | duplicateVariable name => s!"duplicate variable name: '{name}'"
  | divisionByZero target => s!"integer division by zero while computing '{target}'"
  | nonNumericResult expression found =>
    let returned := found.name
    s!"expression '{expression}' did not return a number (returned {returned})"
  | script expression source =>
    let reason := source.message
    s!"expression '{expression}' failed: {reason}"

/-- The error of a variable whose kind is not the one asked for. -/
def Variable.mismatch (var : Variable) (expected : Requirement) : RuleError :=
  .kindMismatch var.name expected var.kind

/-- The variable with another value of the same kind. -/
def Variable.assign (var : Variable) (value : Value) : Except RuleError Variable :=
  if var.kind = value.kind then .ok { var with value := value }
  else .error (var.mismatch (.exactly value.kind))

end Rulebook
