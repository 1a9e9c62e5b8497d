import Rulebook.Action
import Rulebook.Arithmetic
import Rulebook.Reference

/-! Operations work out a value for a target variable, write it, and tell the
target's observers if their raise flag says so. Everything that can fail comes
before the write. -/
namespace Rulebook
open Numeric Script

/-- Operators on truth values; `set` and `not` look at the first only. -/
inductive Connective where
  | set
  | not
  | and
  | or
  | xor
deriving DecidableEq, BEq

namespace Connective

/-- All connectives. -/
def all : List Connective := [set, not, and, or, xor]

def apply : Connective → Bool → Bool → Bool
  | set, a, _ => a
  | not, a, _ => !a
  | and, a, b => a && b
  | or, a, b => a || b
  | xor, a, b => a != b

end Connective

/-- How the value of a target is worked out. -/
inductive Formula where
  | bool (operator : Connective) (a b : Reference Bool)
  | number (operator : Arithmetic) (a b : Reference Number) (rounding : Rounding)
  | scripted (expression : String) (b c : Reference Number) (rounding : Rounding)
  | vector (operator : Arithmetic) (a b : Reference Vector) (rounding : Rounding)
deriving DecidableEq, BEq

namespace Formula

/-- The name of the family a formula belongs to. -/
def family : Formula → String
  | bool .. => "bool"
  | number .. => "number"
  | scripted .. => "scripted number"
  | vector .. => "vector"

def expression? : Formula → Option String
  | scripted expression .. => some expression
  | _ => none

end Formula

structure Operation where
  target : VariableId
  formula : Formula
  raiseFlag : Reference Bool
deriving DecidableEq, BEq

/-- The name and the precision of a target that has to be a number. -/
def Store.numberTarget (store : Store) (id : VariableId) :
    Except RuleError (String × NumberKind) := do
  let var ← store.get id
  match var.kind with
  | .number kind => return (var.name, kind)
  | _ => throw (var.mismatch .anyNumber)

/-- The name and the shape of a target that has to be a vector. -/
def Store.vectorTarget (store : Store) (id : VariableId) :
    Except RuleError (String × VectorShape) := do
  let var ← store.get id
  match var.kind with
  | .vector shape => return (var.name, shape)
  | _ => throw (var.mismatch .anyVector)

/-- Checks that a target is a truth value. -/
def Store.boolTarget (store : Store) (id : VariableId) : Except RuleError Unit := do
  let var ← store.get id
  if var.kind = .bool then return ()
  else throw (var.mismatch (.exactly .bool))

/-- The components of a vector formula, all of those of the longer operand. None
when an integer is divided by zero in any of them. -/
def vectorComponents (operator : Arithmetic) (a b : Vector) : Option (List Double) :=
  let merged := a.shape.merge b.shape
  let precision := if merged.integer then NumberKind.int32 else NumberKind.float32
  (List.range merged.length).mapM fun index =>
    operator.apply (a.component index) (b.component index) precision

/-- The vector of a shape with given components. Missing ones are zero, surplus
ones are dropped, and integers are rounded. -/
def fit (components : List Double) (shape : VectorShape) (rounding : Rounding) : Vector :=
  .ofComponents shape fun index =>
    let component := components[index]?.getD (.zero false)
    if index < shape.length then
      if shape.integer then .ofInt (rounding.toInt32 component).toInt else component
    else .zero false

/-- The values that the expression of a scripted formula sees: those of the
target and of two operands. -/
def scriptedBindings (store : Store) (target : VariableId) (b c : Reference Number) :
    Except RuleError Bindings := do
  let current ← (Reference.bound target).resolveWide store
  let b ← b.resolveWide store
  let c ← c.resolveWide store
  return .ofList [("nA", .number current), ("nB", .number b), ("nC", .number c)]

namespace Formula

/-- The value for a target; it is not written. -/
def compute (evaluator : Evaluator) (target : VariableId) : Formula → Action Value
  | bool operator a b => Action.read fun store => do
    store.boolTarget target
    return .bool (operator.apply (← a.resolve store) (← b.resolve store))
  | number operator a b rounding => Action.read fun store => do
    let (name, kind) ← store.numberTarget target
    let a ← a.resolve store
    let b ← b.resolve store
    match operator.apply a.widen b.widen (a.kind.merge b.kind) with
    | some result => return .number (narrow result kind rounding)
    | none => throw (.divisionByZero name)
  | scripted expression b c rounding => do
    let (_, kind) ← Action.read (·.numberTarget target)
    let bindings ← Action.read (scriptedBindings · target b c)
    let value ← Action.consult evaluator expression bindings
    match value with
    | .number result => return .number (narrow result kind rounding)
    | other => Action.read fun _ => .error (.nonNumericResult expression other.typeTag)
  | vector operator a b rounding => Action.read fun store => do
    let (name, shape) ← store.vectorTarget target
    let a ← a.resolve store
    let b ← b.resolve store
    match vectorComponents operator a b with
    | some components => return .vector (fit components shape rounding)
    | none => throw (.divisionByZero name)

/-- Checks target and operands against the store and the expression by itself. -/
def validate (evaluator : Evaluator) (store : Store) (target : VariableId) :
    Formula → Except RuleError Unit
  | bool _ a b => do
    store.boolTarget target
    let _ ← a.resolve store
    let _ ← b.resolve store
  | number _ a b _ => do
    let _ ← store.numberTarget target
    let _ ← a.resolve store
    let _ ← b.resolve store
  | scripted expression b c _ => do
    let _ ← store.numberTarget target
    let _ ← scriptedBindings store target b c
    (evaluator.validate expression).mapError (.script expression)
  | vector _ a b _ => do
    let _ ← store.vectorTarget target
    let _ ← a.resolve store
    let _ ← b.resolve store

end Formula

/-- What an operation did: the variable it wrote and whether it was raised. -/
structure Execution where
  target : VariableId
  raised : Bool
deriving DecidableEq

namespace Operation

/-- The value for the target; it is not written. -/
def compute (operation : Operation) (evaluator : Evaluator) : Action Value :=
  operation.formula.compute evaluator operation.target

/-- Checks an operation without carrying it out. -/
def validate (operation : Operation) (evaluator : Evaluator) (store : Store) :
    Except RuleError Unit := do
  operation.formula.validate evaluator store operation.target
  let _ ← operation.raiseFlag.resolve store

/-- Writes a value and, if asked, tells the observers, who see it written. -/
def commit (target : VariableId) (value : Value) (raised : Bool) : Action Execution := do
  Action.write target value
  if raised then Action.raise target
  let written ← Action.read (·.get target)
  Action.log (.operationExecuted written raised)
  return ⟨target, raised⟩

/-- Carries an operation out. The raise flag counts as it stands before the
write, even where it is the target itself. -/
def execute (operation : Operation) (evaluator : Evaluator) : Action Execution := do
  let value ← operation.compute evaluator
  let raised ← Action.read operation.raiseFlag.resolve
  commit operation.target value raised

end Operation

end Rulebook
