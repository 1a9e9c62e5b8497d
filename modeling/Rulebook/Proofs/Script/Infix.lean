import Rulebook.Proofs.Script.ParserExactness
import Rulebook.Script.Evaluator

/-! The shortest expressions that compute something: an operator between two names.
Wherever limits let them through, they are worth what the operator makes of the
values of the names. -/
namespace Rulebook.Script
open Rulebook.Numeric

namespace Metered

/-- A step that is allowed is counted. -/
theorem step_bind_of_lt {limit used : Nat} (room : used < limit) (next : Unit → Metered α) :
    (step limit >>= next) used = next () (used + 1) := by
  change (step limit used >>= fun between => next between.1 between.2) = _
  rw [step, if_pos room]
  rfl

/-- A computation goes on with a value that was found. -/
theorem bind_of_ok {computation : Metered α} {used after : Nat} {value : α}
    (ran : computation used = .ok (value, after)) (next : α → Metered β) :
    (computation >>= next) used = next value after := by
  change (computation used >>= fun between => next between.1 between.2) = _
  rw [ran]
  rfl

/-- What needs no step leaves their number as it was. -/
theorem lift_apply (result : Except EvalError α) (used : Nat) :
    (liftM result : Metered α) used = result.map fun value => (value, used) := by
  cases result <;> rfl

end Metered

theorem lookUp_of_bound {bindings : Bindings} {name : String} {value : Datum}
    (bound : bindings.get? name = some value) : lookUp bindings name = .ok value := by
  simp only [lookUp, bound]

namespace Expr

theorem evaluate_name {bindings : Bindings} {name : String} {value : Datum}
    (bound : bindings.get? name = some value) {limit used : Nat} (room : used < limit) :
    (Expr.name name).evaluate bindings limit used = .ok (value, used + 1) := by
  rw [evaluate, Metered.step_bind_of_lt room, Metered.lift_apply, lookUp_of_bound bound]
  rfl

/-- Operands that are names take a step each, after one for the operator. -/
theorem evaluate_infix {op : BinaryOp} (eager : ∀ value, op.settledBy value = false)
    {bindings : Bindings} {first second : String} {left right : Datum}
    (boundFirst : bindings.get? first = some left)
    (boundSecond : bindings.get? second = some right) {limit : Nat} (room : 3 ≤ limit) :
    (Expr.binary op (.name first) (.name second)).evaluate bindings limit 0 =
      (op.apply left right).map fun value => (value, 3) := by
  have evaluatedFirst : (Expr.name first).evaluate bindings limit 1 = .ok (left, 2) :=
    evaluate_name boundFirst (by omega)
  have evaluatedSecond : (Expr.name second).evaluate bindings limit 2 = .ok (right, 3) :=
    evaluate_name boundSecond (by omega)
  rw [evaluate, Metered.step_bind_of_lt (by omega), Metered.bind_of_ok evaluatedFirst, eager left,
    if_neg Bool.false_ne_true, Metered.bind_of_ok evaluatedSecond, Metered.lift_apply]

end Expr

/-- An operator between two names, as an expression. -/
def infixText (first : String) (op : BinaryOp) (second : String) : String :=
  first ++ " " ++ op.spelling ++ " " ++ second

/-- The tokens of an operator between two names. -/
def infixTokens (first : String) (op : BinaryOp) (second : String) : List Located :=
  let start := first.utf8ByteSize + 1
  let stop := start + op.spelling.utf8ByteSize
  [⟨.name first, 0, first.utf8ByteSize⟩, ⟨.symbol op.symbol, start, stop⟩,
    ⟨.name second, stop + 1, stop + 1 + second.utf8ByteSize⟩]

theorem parse_infixTokens (first : String) (op : BinaryOp) (second : String) {maxDepth : Nat}
    (deep : 2 ≤ maxDepth) :
    parse (infixTokens first op second) maxDepth =
      .ok (.binary op (.name first) (.name second)) := by
  refine (parse_eq_ok_iff ..).mpr ⟨?_, ?_, ?_⟩
  · cases op <;> rfl
  · cases op <;> rfl
  · exact (Expr.depth_le_iff ..).mpr deep

/-- Limits that let an operator between two names through. -/
structure Limits.Admit (limits : Limits) (text : String) : Prop where
  length : text.utf8ByteSize ≤ limits.maxLength.toNat
  depth : 2 ≤ limits.maxDepth.toNat
  steps : 3 ≤ limits.maxSteps.toNat

theorem Limits.admit_of_le {limits : Limits} {length : UInt64} (long : length ≤ limits.maxLength)
    (depth : 2 ≤ limits.maxDepth) (steps : 3 ≤ limits.maxSteps) {text : String}
    (short : text.utf8ByteSize ≤ length.toNat) : limits.Admit text where
  length := Nat.le_trans short (UInt64.le_iff_toNat_le.mp long)
  depth := UInt32.le_iff_toNat_le.mp depth
  steps := UInt32.le_iff_toNat_le.mp steps

/-- A text that is not too long is the tree that its tokens are read as. -/
theorem compile_of_parse {limits : Limits} {text : String} {tokens : List Located} {expr : Expr}
    (short : text.utf8ByteSize ≤ limits.maxLength.toNat) (tokenized : tokenize text = .ok tokens)
    (parsed : parse tokens limits.maxDepth.toNat = .ok expr) : compile limits text = .ok expr := by
  rw [compile, if_pos short, tokenized]
  exact parsed

/-- The engine answers with the value of the tree; the steps it took do not show. -/
theorem engine_of_compile {limits : Limits} {text : String} {expr : Expr} {bindings : Bindings}
    {result : Except EvalError Datum} {steps : Nat} (compiled : compile limits text = .ok expr)
    (evaluated : expr.evaluate bindings limits.maxSteps.toNat 0 =
      result.map fun value => (value, steps)) :
    (engine limits).evaluate text bindings = result := by
  change evaluate limits text bindings = _
  rw [evaluate, compiled]
  change (expr.evaluate bindings limits.maxSteps.toNat 0 >>= fun ended => pure ended.1) = _
  rw [evaluated]
  cases result <;> rfl

/-- The engine applies the operator to what the names are bound to. -/
theorem engine_infix {limits : Limits} {first second : String} {op : BinaryOp}
    {bindings : Bindings} {left right : Datum}
    (admitted : limits.Admit (infixText first op second))
    (tokenized : tokenize (infixText first op second) = .ok (infixTokens first op second))
    (eager : ∀ value, op.settledBy value = false)
    (boundFirst : bindings.get? first = some left)
    (boundSecond : bindings.get? second = some right) :
    (engine limits).evaluate (infixText first op second) bindings = op.apply left right :=
  engine_of_compile
    (compile_of_parse admitted.length tokenized
      (parse_infixTokens first op second admitted.depth))
    (Expr.evaluate_infix eager boundFirst boundSecond admitted.steps)

end Rulebook.Script
