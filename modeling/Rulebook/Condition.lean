import Rulebook.Action
import Rulebook.Reference

/-! Questions to the store, and gates, which ask several in turn. -/
namespace Rulebook
open Numeric Script

/-- Tests of the order of two numbers. Every one but `notEqual` fails on a NaN. -/
inductive Comparison where
  | equal
  | notEqual
  | greater
  | greaterOrEqual
  | less
  | lessOrEqual
deriving DecidableEq

namespace Comparison

/-- All comparisons. -/
def all : List Comparison := [equal, notEqual, greater, greaterOrEqual, less, lessOrEqual]

def test (comparison : Comparison) (left right : Double) : Bool :=
  match comparison, left.order right with
  | equal, order => decide (order = some .eq)
  | notEqual, order => decide (order ≠ some .eq)
  | greater, order => decide (order = some .gt)
  | greaterOrEqual, order => decide (order = some .gt ∨ order = some .eq)
  | less, order => decide (order = some .lt)
  | lessOrEqual, order => decide (order = some .lt ∨ order = some .eq)

end Comparison

/-- Tests of equality. -/
inductive Equality where
  | equal
  | notEqual
deriving DecidableEq

namespace Equality

/-- All equality tests. -/
def all : List Equality := [equal, notEqual]

def test {α : Type} [BEq α] : Equality → α → α → Bool
  | equal, left, right => left == right
  | notEqual, left, right => left != right

end Equality

/-- A question put to an evaluator, with the operands it may mention. -/
structure ScriptedCondition where
  expression : String
  numberA : Reference Number
  numberB : Reference Number
  boolA : Reference Bool
  boolB : Reference Bool
deriving DecidableEq, BEq

namespace ScriptedCondition

/-- A question without operands. -/
def ofExpression (expression : String) : ScriptedCondition :=
  ⟨expression, .unbound, .unbound, .unbound, .unbound⟩

/-- The values that the expression sees. -/
def bindings (scripted : ScriptedCondition) (store : Store) : Except RuleError Bindings := do
  let numberA ← scripted.numberA.resolveWide store
  let numberB ← scripted.numberB.resolveWide store
  let boolA ← scripted.boolA.resolve store
  let boolB ← scripted.boolB.resolve store
  return .ofList [("nA", .number numberA), ("nB", .number numberB), ("bA", .boolean boolA),
    ("bB", .boolean boolB)]

/-- Answers by the truth of the value, which is reported when it is no
boolean. -/
def evaluate (scripted : ScriptedCondition) (evaluator : Evaluator) : Action Bool := do
  let bindings ← Action.read scripted.bindings
  let value ← Action.consult evaluator scripted.expression bindings
  match value with
  | .boolean answer => return answer
  | other =>
    Action.log (.notBoolean scripted.expression other.typeTag)
    return other.truthy

end ScriptedCondition

inductive Condition where
  | bool (a : Reference Bool) (equality : Equality) (b : Reference Bool)
  | number (a : Reference Number) (comparison : Comparison) (b : Reference Number)
  | vector (a : Reference Vector) (equality : Equality) (b : Reference Vector)
  | scripted (question : ScriptedCondition)
deriving DecidableEq, BEq

namespace Condition

/-- Four components; those a vector lacks are zero. -/
def paddedComponents (vector : Vector) : List Double :=
  [0, 1, 2, 3].map vector.component

def evaluate (evaluator : Evaluator) : Condition → Action Bool
  | bool a equality b => Action.read fun store => do
    return equality.test (← a.resolve store) (← b.resolve store)
  | number a comparison b => Action.read fun store => do
    return comparison.test (← a.resolveWide store) (← b.resolveWide store)
  | vector a equality b => Action.read fun store => do
    return equality.test (paddedComponents (← a.resolve store))
      (paddedComponents (← b.resolve store))
  | .scripted question => question.evaluate evaluator

/-- Checks the operands against the store and the expression by itself. -/
def validate (evaluator : Evaluator) (store : Store) : Condition → Except RuleError Unit
  | bool a _ b => do
    let _ ← a.resolve store
    let _ ← b.resolve store
  | number a _ b => do
    let _ ← a.resolve store
    let _ ← b.resolve store
  | vector a _ b => do
    let _ ← a.resolve store
    let _ ← b.resolve store
  | .scripted question => do
    let _ ← question.bindings store
    (evaluator.validate question.expression).mapError (.script question.expression)

end Condition

/-- Conditions that must all hold; without a gate nothing is asked. -/
abbrev Gate := Option (List Condition)

/-- Asks conditions in turn until one does not hold. -/
def Condition.allHold (evaluator : Evaluator) : List Condition → Action Bool
  | [] => return true
  | condition :: rest => do
    if ← condition.evaluate evaluator then allHold evaluator rest
    else return false

def Gate.passes (evaluator : Evaluator) : Gate → Action Bool
  | none => return true
  | some conditions => Condition.allHold evaluator conditions

end Rulebook
