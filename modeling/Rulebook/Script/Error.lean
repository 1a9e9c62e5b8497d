import Rulebook.Script.Expr

/-! Why an expression has no value, and the texts that say so. -/
namespace Rulebook.Script

/-- The number of arguments a function takes. -/
inductive Arity where
  | exactly (count : Nat)
  | atLeast (count : Nat)
deriving DecidableEq

def Arity.text : Arity → String
  | .exactly count => toString count
  | .atLeast count => "at least " ++ toString count

/-- The uses of a value that ask for a type. -/
inductive Purpose where
  | operator (op : BinaryOp)
  | negation
  | comparison
  | concatenation
  | mathFunction
  | clamp
deriving DecidableEq

def Purpose.text : Purpose → String
  | .operator op => "'" ++ op.spelling ++ "'"
  | .negation => "negation"
  | .comparison => "comparison"
  | .concatenation => "concatenation"
  | .mathFunction => "a math function"
  | .clamp => "clamp"

inductive EvalError where
  | invalidToken (position : Nat)
  | unexpectedToken (position : Nat) (found expected : String)
  | unexpectedEnd (expected : String)
  | unknownName (name : String)
  | unknownFunction (function : String)
  | arity (function : String) (expected : Arity) (found : Nat)
  | typeMismatch (purpose : Purpose) (found : TypeTag)
  | tooLong (length limit : Nat)
  | tooDeep (limit : Nat)
  | stepLimit (limit : Nat)
deriving DecidableEq

def EvalError.message : EvalError → String
  | .invalidToken position => s!"invalid token at byte {position}"
  | .unexpectedToken position found expected =>
    s!"unexpected '{found}' at byte {position}, expected {expected}"
  | .unexpectedEnd expected => s!"unexpected end of expression, expected {expected}"
  | .unknownName name => s!"unknown name '{name}'"
  | .unknownFunction function => s!"unknown function '{function}'"
  | .arity function expected found =>
    let count := expected.text
    s!"function '{function}' takes {count} argument(s), got {found}"
  | .typeMismatch purpose found =>
    let use := purpose.text
    let type := found.name
    s!"cannot apply {use} to a {type} value"
  | .tooLong length limit => s!"expression is {length} bytes, limit is {limit}"
  | .tooDeep limit => s!"expression nests deeper than {limit} levels"
  | .stepLimit limit => s!"evaluation exceeded {limit} steps"

end Rulebook.Script
