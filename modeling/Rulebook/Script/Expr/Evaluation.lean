import Rulebook.Script.Function

/-! Evaluation of expression trees. Every node entered costs one step, counted
before anything else is done with it; `and` and `or` enter their right operand
only when the left one leaves the answer open. -/
namespace Rulebook.Script
open Rulebook.Numeric

/-- The number that a name stands for unless it is bound. -/
def constant? (name : String) : Option Datum :=
  match name with
  | "math.pi" => some (.number Double.pi)
  | "math.huge" => some (.number (.infinity false))
  | _ => none

def lookUp (bindings : Bindings) (name : String) : Except EvalError Datum :=
  match bindings.get? name with
  | some value => .ok value
  | none =>
    match constant? name with
    | some value => .ok value
    | none => .error (.unknownName name)

/-- The order of two values: numbers compare with numbers and texts with texts.
There is none where a NaN is involved. -/
def compareData : Datum → Datum → Except EvalError (Option Ordering)
  | .number left, .number right => .ok (left.order right)
  | .text left, .text right => .ok (some (compare left right))
  | .number _, other | .text _, other => .error (.typeMismatch .comparison other.typeTag)
  | other, _ => .error (.typeMismatch .comparison other.typeTag)

/-- What a value adds to a text. -/
def concatenable : Datum → Except EvalError String
  | .text value => .ok value
  | .number value => .ok value.text
  | other => .error (.typeMismatch .concatenation other.typeTag)

namespace UnaryOp

def apply (op : UnaryOp) (operand : Datum) : Except EvalError Datum :=
  match op with
  | negate => (operand.asNumber .negation).map fun value => .number (-value)
  | not => .ok (.boolean !operand.truthy)

end UnaryOp

namespace BinaryOp

/-- The remainder of a division rounded down, which would have the sign of the divisor if
the quotient were not rounded. -/
def flooredModulo (left right : Double) : Double :=
  left - (left / right).makeWhole floorQuotient * right

/-- Arithmetic on two numbers. -/
def arithmetic (op : BinaryOp) (rule : Double → Double → Double) (left right : Datum) :
    Except EvalError Datum := do
  let left ← left.asNumber (.operator op)
  let right ← right.asNumber (.operator op)
  return .number (rule left right)

/-- A test of the order of two values. -/
def ordering (test : Ordering → Bool) (left right : Datum) : Except EvalError Datum :=
  (compareData left right).map fun order => .boolean (order.any test)

/-- Applies an operator to two values; `and` and `or` give one of them. -/
def apply (op : BinaryOp) (left right : Datum) : Except EvalError Datum :=
  match op with
  | or => .ok (if left.truthy then left else right)
  | and => .ok (if left.truthy then right else left)
  | equal => .ok (.boolean (left.equals right))
  | notEqual => .ok (.boolean !left.equals right)
  | less => ordering (· == .lt) left right
  | lessEqual => ordering (· != .gt) left right
  | greater => ordering (· == .gt) left right
  | greaterEqual => ordering (· != .lt) left right
  | concat => do
    let left ← concatenable left
    let right ← concatenable right
    return .text (left ++ right)
  | add => arithmetic op Binary.add left right
  | subtract => arithmetic op Binary.sub left right
  | multiply => arithmetic op Binary.mul left right
  | divide => arithmetic op Binary.div left right
  | modulo => arithmetic op flooredModulo left right
  | power => arithmetic op Double.pow left right

/-- Whether the left operand alone gives the answer. -/
def settledBy (op : BinaryOp) (left : Datum) : Bool :=
  match op with
  | or => left.truthy
  | and => !left.truthy
  | _ => false

end BinaryOp

/-- A computation that counts steps. -/
abbrev Metered := StateT Nat (Except EvalError)

namespace Metered

/-- Takes a step; fails when that is one more than allowed. -/
def step (limit : Nat) : Metered Unit := fun used =>
  if used < limit then .ok ((), used + 1) else .error (.stepLimit limit)

end Metered

namespace Expr

mutual

/-- The value of an expression under bindings and a limit on steps. -/
def evaluate (bindings : Bindings) (limit : Nat) : Expr → Metered Datum
  | .literal value => do
    Metered.step limit
    return value
  | .name mentioned => do
    Metered.step limit
    lookUp bindings mentioned
  | .unary op operand => do
    Metered.step limit
    op.apply (← evaluate bindings limit operand)
  | .binary op left right => do
    Metered.step limit
    let first ← evaluate bindings limit left
    if op.settledBy first then return first
    op.apply first (← evaluate bindings limit right)
  | .call function arguments => do
    Metered.step limit
    callFunction function (← evaluateAll bindings limit arguments)

/-- The values of expressions from left to right. -/
def evaluateAll (bindings : Bindings) (limit : Nat) : List Expr → Metered (List Datum)
  | [] => return []
  | expr :: rest => do
    let first ← evaluate bindings limit expr
    return first :: (← evaluateAll bindings limit rest)

end

end Expr

end Rulebook.Script
