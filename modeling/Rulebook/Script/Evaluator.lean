import Rulebook.Script.Expr.Evaluation
import Rulebook.Script.Expr.Parser
import Rulebook.Script.Token.Lexer

/-! Evaluators of expressions, and the one that reads and evaluates them within
limits. -/
namespace Rulebook.Script

/-- Bounds on the work that an expression may cause. -/
structure Limits where
  /-- The greatest number of bytes. -/
  maxLength : UInt64
  /-- The greatest number of open brackets and of levels of the tree. -/
  maxDepth : UInt32
  /-- The greatest number of nodes evaluated. -/
  maxSteps : UInt32
deriving DecidableEq

def Limits.default : Limits where
  maxLength := 4096
  maxDepth := 64
  maxSteps := 10000

/-- Whatever gives expressions their values. -/
structure Evaluator where
  evaluate : String → Bindings → Except EvalError Datum
  /-- Whether an expression is well formed, as far as can be told without its
  bindings. -/
  validate : String → Except EvalError Unit

/-- The tree of an expression, if text and tree are within limits. -/
def compile (limits : Limits) (expression : String) : Except EvalError Expr :=
  if expression.utf8ByteSize ≤ limits.maxLength.toNat then do
    parse (← tokenize expression) limits.maxDepth.toNat
  else .error (.tooLong expression.utf8ByteSize limits.maxLength.toNat)

/-- The value of an expression within limits. -/
def evaluate (limits : Limits) (expression : String) (bindings : Bindings) :
    Except EvalError Datum := do
  let expr ← compile limits expression
  let (value, _) ← (expr.evaluate bindings limits.maxSteps.toNat).run 0
  return value

/-- The evaluator that keeps to the given limits. -/
def engine (limits : Limits) : Evaluator where
  evaluate := evaluate limits
  validate expression := (compile limits expression).map fun _ => ()

end Rulebook.Script
