import Mathlib.Control.Monad.Basic
import Rulebook.Condition
import Rulebook.Proofs.ActionEffects
import Rulebook.Proofs.Script.Infix

/-! A comparison can be asked for as a condition of its own or be written as an
expression. Either way the answer is the same, and so is the error where there is
none: operands are looked up in the same order, and expressions order numbers, NaNs
included, as conditions do. -/
namespace Rulebook
open Numeric Script

/-- What a scripted condition answers: the truth of its expression's value. -/
theorem ScriptedCondition.result_evaluate (question : ScriptedCondition) (evaluator : Evaluator)
    (store : Store) :
    (question.evaluate evaluator store).result = do
      let bindings ← question.bindings store
      let value ← (evaluator.evaluate question.expression bindings).mapError
        (.script question.expression)
      return value.truthy := by
  rw [evaluate, (Action.quiet_read _).result_bind]
  refine congrArg (question.bindings store >>= ·) (funext fun bindings => ?_)
  rw [(Action.quiet_consult ..).result_bind]
  refine congrArg (_ >>= ·) (funext fun value => ?_)
  cases value <;> rfl

/-- A question about two operands fails with the first that is missing, and is
answered by a test of them when both are there. -/
theorem ScriptedCondition.result_of_operands {question : ScriptedCondition}
    {evaluator : Evaluator} {store : Store} {first second : Except RuleError α}
    {pair : α → α → Bindings} {test : α → α → Bool}
    (bound : question.bindings store = do return pair (← first) (← second))
    (answered : ∀ left right, evaluator.evaluate question.expression (pair left right) =
      .ok (.boolean (test left right))) :
    (question.evaluate evaluator store).result = do return test (← first) (← second) := by
  rw [result_evaluate, bound]
  cases first with
  | error error => rfl
  | ok left =>
    cases second with
    | error error => rfl
    | ok right =>
      change (evaluator.evaluate question.expression (pair left right)).mapError _ >>= _ = _
      rw [answered]
      rfl

/-- The operator that an expression writes for a comparison. -/
def Comparison.operator : Comparison → BinaryOp
  | equal => .equal
  | notEqual => .notEqual
  | greater => .greater
  | greaterOrEqual => .greaterEqual
  | less => .less
  | lessOrEqual => .lessEqual

/-- The operator that an expression writes for a test of equality. -/
def Equality.operator : Equality → BinaryOp
  | equal => .equal
  | notEqual => .notEqual

namespace ScriptedCondition

/-- A comparison of two numbers, written as an expression. -/
def comparing (a : Reference Number) (comparison : Comparison) (b : Reference Number) :
    ScriptedCondition :=
  { ofExpression (infixText "nA" comparison.operator "nB") with numberA := a, numberB := b }

/-- A test of two truth values, written as an expression. -/
def equating (a : Reference Bool) (equality : Equality) (b : Reference Bool) :
    ScriptedCondition :=
  { ofExpression (infixText "bA" equality.operator "bB") with boolA := a, boolB := b }

theorem bindings_comparing (a : Reference Number) (comparison : Comparison)
    (b : Reference Number) (store : Store) :
    (comparing a comparison b).bindings store = do
      let left ← a.resolveWide store
      let right ← b.resolveWide store
      return .ofList [("nA", .number left), ("nB", .number right), ("bA", .boolean false),
        ("bB", .boolean false)] := rfl

theorem bindings_equating (a : Reference Bool) (equality : Equality) (b : Reference Bool)
    (store : Store) :
    (equating a equality b).bindings store = do
      let left ← a.resolve store
      let right ← b.resolve store
      return .ofList [("nA", .number (Number.int 0).widen), ("nB", .number (Number.int 0).widen),
        ("bA", .boolean left), ("bB", .boolean right)] := rfl

end ScriptedCondition

/-- Expressions compare numbers as conditions do. -/
theorem Comparison.apply_operator (comparison : Comparison) (left right : Double) :
    comparison.operator.apply (.number left) (.number right) =
      .ok (.boolean (comparison.test left right)) := by
  have ordered (test : Ordering → Bool) :
      BinaryOp.ordering test (.number left) (.number right) =
        .ok (.boolean ((left.order right).any test)) := rfl
  cases comparison with
  | equal => rfl
  | notEqual => exact congrArg (Except.ok ∘ Datum.boolean) (decide_not ..).symm
  | greater | greaterOrEqual | less | lessOrEqual =>
    simp only [operator, BinaryOp.apply, ordered, test]
    rcases left.order right with _ | _ | _ | _ <;> rfl

theorem Equality.apply_operator (equality : Equality) (left right : Bool) :
    equality.operator.apply (.boolean left) (.boolean right) =
      .ok (.boolean (equality.test left right)) := by
  cases equality <;> rfl

theorem Comparison.tokenize_infix (comparison : Comparison) :
    tokenize (infixText "nA" comparison.operator "nB") =
      .ok (infixTokens "nA" comparison.operator "nB") := by
  cases comparison <;> decide +kernel

example : infixText "nA" Comparison.notEqual.operator "nB" = "nA ~= nB" := by rfl

theorem Equality.tokenize_infix (equality : Equality) :
    tokenize (infixText "bA" equality.operator "bB") =
      .ok (infixTokens "bA" equality.operator "bB") := by
  cases equality <;> decide +kernel

/-- A comparison of numbers is answered like its expression. -/
theorem Condition.result_comparing {limits : Limits} {comparison : Comparison}
    (admitted : limits.Admit (infixText "nA" comparison.operator "nB"))
    (a b : Reference Number) (store : Store) :
    ((Condition.scripted (.comparing a comparison b)).evaluate (engine limits) store).result =
      ((Condition.number a comparison b).evaluate (engine limits) store).result := by
  have eager (value : Datum) : comparison.operator.settledBy value = false := by
    cases comparison <;> rfl
  refine ScriptedCondition.result_of_operands (ScriptedCondition.bindings_comparing ..) ?_
  intro left right
  rw [← comparison.apply_operator]
  exact engine_infix admitted comparison.tokenize_infix eager rfl rfl

/-- A test of truth values is answered like its expression. -/
theorem Condition.result_equating {limits : Limits} {equality : Equality}
    (admitted : limits.Admit (infixText "bA" equality.operator "bB"))
    (a b : Reference Bool) (store : Store) :
    ((Condition.scripted (.equating a equality b)).evaluate (engine limits) store).result =
      ((Condition.bool a equality b).evaluate (engine limits) store).result := by
  have eager (value : Datum) : equality.operator.settledBy value = false := by
    cases equality <;> rfl
  refine ScriptedCondition.result_of_operands (ScriptedCondition.bindings_equating ..) ?_
  intro left right
  rw [← equality.apply_operator]
  exact engine_infix admitted equality.tokenize_infix eager rfl rfl

/-- Two numbers are compared, and two truth values tested for equality, with the same
result by a condition of its own as by an expression, under all limits that let the
expression through. -/
theorem scripted_comparison_agrees {limits : Limits} (length : 8 ≤ limits.maxLength)
    (depth : 2 ≤ limits.maxDepth) (steps : 3 ≤ limits.maxSteps) (store : Store) :
    (∀ (a : Reference Number) (comparison : Comparison) (b : Reference Number),
      ((Condition.scripted (.comparing a comparison b)).evaluate (engine limits) store).result =
        ((Condition.number a comparison b).evaluate (engine limits) store).result) ∧
    ∀ (a : Reference Bool) (equality : Equality) (b : Reference Bool),
      ((Condition.scripted (.equating a equality b)).evaluate (engine limits) store).result =
        ((Condition.bool a equality b).evaluate (engine limits) store).result := by
  constructor
  · intro a comparison b
    apply Condition.result_comparing
    apply Limits.admit_of_le length depth steps
    cases comparison <;> decide
  · intro a equality b
    apply Condition.result_equating
    apply Limits.admit_of_le length depth steps
    cases equality <;> decide

/-- Under the narrowest of such limits a NaN in a variable differs from itself. -/
theorem scripted_comparison_agrees_nan :
    let limits : Limits := ⟨8, 2, 3⟩
    let heat : Variable := ⟨"heat", .number (.double .nan)⟩
    let store : Store := Store.empty.adding heat
    let a : Reference Number := .bound ⟨0⟩
    (8 ≤ limits.maxLength ∧ 2 ≤ limits.maxDepth ∧ 3 ≤ limits.maxSteps) ∧
      ((Condition.number a .notEqual a).evaluate (engine limits) store).result = .ok true ∧
      ((Condition.scripted (.comparing a .notEqual a)).evaluate (engine limits) store).result =
        .ok true := by
  intro limits heat store a
  have enough : 8 ≤ limits.maxLength ∧ 2 ≤ limits.maxDepth ∧ 3 ≤ limits.maxSteps := by decide
  obtain ⟨length, depth, steps⟩ := enough
  have differs : ((Condition.number a .notEqual a).evaluate (engine limits) store).result =
      .ok true := rfl
  have agrees := (scripted_comparison_agrees length depth steps store).1 a .notEqual a
  exact ⟨⟨length, depth, steps⟩, differs, agrees.trans differs⟩

end Rulebook
