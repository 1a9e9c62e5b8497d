import Rulebook.Condition
import Rulebook.Operation

/-! Batches: lists of operations behind a gate. An operation that fails is
reported and the next one goes ahead. -/
namespace Rulebook
open Script

/-- An operation that failed, by its list and its place there. -/
structure Failure where
  list : Nat
  index : Nat
  error : RuleError
deriving DecidableEq

/-- What became of a batch. -/
structure Report where
  admitted : Bool
  executed : Nat
  raised : Nat
  failures : List Failure
deriving DecidableEq

namespace Report

/-- The report of a batch that has not done anything. -/
def initial (admitted : Bool) : Report :=
  ⟨admitted, 0, 0, []⟩

def isClean (report : Report) : Bool :=
  report.admitted && report.failures.isEmpty

/-- Counts an operation that was carried out. -/
def addExecution (report : Report) (execution : Execution) : Report :=
  { report with
    executed := report.executed + 1
    raised := report.raised + if execution.raised then 1 else 0 }

def addFailure (report : Report) (failure : Failure) : Report :=
  { report with failures := report.failures ++ [failure] }

end Report

namespace Batch

/-- Carries out one operation at a place of a batch. -/
def runOne (evaluator : Evaluator) (list index : Nat) (operation : Operation) (report : Report) :
    Action Report := do
  match ← Action.attempt (operation.execute evaluator) with
  | .ok execution => return report.addExecution execution
  | .error error =>
    Action.log (.operationFailed list index operation.formula.family error)
    return report.addFailure ⟨list, index, error⟩

/-- Carries out the operations of one list from an index on. -/
def runList (evaluator : Evaluator) (list : Nat) : Nat → List Operation → Report → Action Report
  | _, [], report => return report
  | index, operation :: rest, report => do
    let report ← runOne evaluator list index operation report
    runList evaluator list (index + 1) rest report

/-- Carries out lists from a list number on. -/
def runLists (evaluator : Evaluator) : Nat → List (List Operation) → Report → Action Report
  | _, [], report => return report
  | list, operations :: rest, report => do
    let report ← runList evaluator list 0 operations report
    runLists evaluator (list + 1) rest report

/-- Asks the gate and, if it opens, carries out every operation once. -/
def run (gate : Gate) (lists : List (List Operation)) (evaluator : Evaluator) : Action Report := do
  if ← gate.passes evaluator then
    let report ← runLists evaluator 0 lists (.initial true)
    Action.log (.batchComplete report.executed report.raised report.failures.length)
    return report
  else
    Action.log .gateClosed
    return .initial false

end Batch

end Rulebook
