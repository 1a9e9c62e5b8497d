import Rulebook.Script.Evaluator
import Rulebook.Store

/-! What happens while rules are at work, apart from the writes: evaluators are
consulted, observers are told, and records are logged. -/
namespace Rulebook
open Script

inductive LogLevel where
  | debug
  | info
  | warn
deriving DecidableEq

def LogLevel.name : LogLevel → String
  | debug => "DEBUG"
  | info => "INFO"
  | warn => "WARN"

/-- The parts of the library that log. -/
inductive LogTopic where
  | conditions
  | operations
  | batch
  | config
deriving DecidableEq

def LogTopic.name : LogTopic → String
  | conditions => "conditions"
  | operations => "operations"
  | batch => "batch"
  | config => "config"

inductive LogRecord where
  | notBoolean (expression : String) (returned : TypeTag)
  | operationExecuted (target : Variable) (raised : Bool)
  | gateClosed
  | operationFailed (list index : Nat) (family : String) (error : RuleError)
  | batchComplete (executed raised failed : Nat)
  | runningRule (rule : String)
  | upgraded (previous current operations : Nat)
deriving DecidableEq

namespace LogRecord

def level : LogRecord → LogLevel
  | notBoolean .. | operationFailed .. => .warn
  | operationExecuted .. | gateClosed | batchComplete .. | runningRule _ => .debug
  | upgraded .. => .info

def topic : LogRecord → LogTopic
  | notBoolean .. => .conditions
  | operationExecuted .. => .operations
  | gateClosed | operationFailed .. | batchComplete .. => .batch
  | runningRule _ | upgraded .. => .config

def message : LogRecord → String
  | notBoolean .. => "expression did not return a boolean; using its truthiness"
  | operationExecuted .. => "operation executed"
  | gateClosed => "gate closed; nothing executed"
  | operationFailed .. => "operation failed"
  | batchComplete .. => "batch complete"
  | runningRule _ => "running rule"
  | upgraded .. => "upgraded rule set"

/-- The named details of a record, apart from its message. -/
def details : LogRecord → List (String × String)
  | notBoolean expression returned =>
    [("expression", expression), ("returned", returned.name)]
  | operationExecuted target raised =>
    [("variable", target.display), ("raised", boolText raised)]
  | gateClosed => []
  | operationFailed list index family error =>
    [("list", toString list), ("index", toString index), ("family", family),
      ("error", error.message)]
  | batchComplete executed raised failed =>
    [("executed", toString executed), ("raised", toString raised), ("failed", toString failed)]
  | runningRule rule => [("rule", rule)]
  | upgraded previous current operations =>
    [("from", toString previous), ("to", toString current), ("operations", toString operations)]

end LogRecord

inductive Event where
  | consulted (expression : String) (bindings : Bindings)
  | notified (notice : Notice)
  | logged (record : LogRecord)
deriving DecidableEq

end Rulebook
