import Rulebook.Operation
import Rulebook.Proofs.ActionEffects
import Rulebook.Proofs.Script.Calls
import Rulebook.Proofs.ValidationStability

/-! Arithmetic can be done by an operation of its own or be written as an expression.
Where an operand is a double both make the same of every store. Elsewhere they may not:
expressions know nothing but doubles, while plain arithmetic cuts its results to the
precision of its operands and does not divide integers by zero. -/
namespace Rulebook
open Numeric Script

/-- The expression that an operator is written as, on `nB` and `nC`. There is none for
the remainder: in expressions it has the sign of the divisor. -/
def Arithmetic.expression? : Arithmetic → Option String
  | set => some "nB"
  | add => some "nB + nC"
  | subtract => some "nB - nC"
  | multiply => some "nB * nC"
  | divide => some "nB / nC"
  | power => some "nB ^ nC"
  | min => some "min(nB, nC)"
  | max => some "max(nB, nC)"
  | modulo => none

theorem tokenize_operands (op : BinaryOp) :
    tokenize (infixText "nB" op "nC") = .ok (infixTokens "nB" op "nC") := by
  cases op <;> decide +kernel

/-- The engine finds an expression worth what its operator gives. -/
theorem Arithmetic.engine_expression {operator : Arithmetic} {text : String}
    (spelled : operator.expression? = some text) {limits : Limits} (admitted : limits.Admit text)
    {bindings : Bindings} {left right : Double}
    (boundB : bindings.get? "nB" = some (.number left))
    (boundC : bindings.get? "nC" = some (.number right)) :
    (engine limits).evaluate text bindings = .ok (.number (operator.raw left right)) := by
  have called (function : String)
      (tokenized : tokenize (callText function "nB" "nC") = .ok (callTokens function "nB" "nC"))
      (admitted : limits.Admit (callText function "nB" "nC")) :=
    engine_call admitted tokenized boundB boundC
  have written (op : BinaryOp) (eager : ∀ value, op.settledBy value = false)
      (admitted : limits.Admit (infixText "nB" op "nC")) :=
    engine_infix admitted (tokenize_operands op) eager boundB boundC
  cases operator <;> cases spelled
  case set => exact engine_name admitted (by decide +kernel) boundB
  case add => exact written .add (fun _ => rfl) admitted
  case subtract => exact written .subtract (fun _ => rfl) admitted
  case multiply => exact written .multiply (fun _ => rfl) admitted
  case divide => exact written .divide (fun _ => rfl) admitted
  case power => exact written .power (fun _ => rfl) admitted
  case min => exact called "min" (by decide +kernel) admitted
  case max => exact called "max" (by decide +kernel) admitted

theorem NumberKind.merge_of_float64 {left right : NumberKind}
    (double : left = .float64 ∨ right = .float64) : left.merge right = .float64 := by
  obtain rfl | rfl := double
  · rfl
  · cases left <;> rfl

/-- Doubles are not cut back, and are divided by zero. -/
theorem Arithmetic.apply_float64 (operator : Arithmetic) (left right : Double) :
    operator.apply left right .float64 = some (operator.raw left right) := rfl

/-- A target that is a number has a value to start from. -/
theorem Store.exists_current {store : Store} {target : VariableId} {name : String}
    {kind : NumberKind} (targeted : store.numberTarget target = .ok (name, kind)) :
    ∃ current, (Reference.bound target).resolveWide store = .ok current := by
  obtain ⟨var, found, -, sameKind⟩ := (numberTarget_eq_ok_iff ..).mp targeted
  obtain ⟨label, value⟩ := var
  cases value with
  | number current =>
    refine ⟨current.widen, ?_⟩
    simp only [Reference.resolveWide, Reference.resolve, found]
    rfl
  | bool value | vector value => cases sameKind

/-- A value worked out from operands in 64 bits and brought to the precision of the
target. -/
def computeWide (rule : Double → Double → Double) (target : VariableId) (b c : Reference Number)
    (rounding : Rounding) (store : Store) : Except RuleError Value := do
  let (_, kind) ← store.numberTarget target
  let left ← b.resolveWide store
  let right ← c.resolveWide store
  return .number (narrow (rule left right) kind rounding)

/-- The names that an expression finds bound, to the value of the target and to those of
two operands. -/
def operandBindings (current left right : Double) : Bindings :=
  .ofList [("nA", .number current), ("nB", .number left), ("nC", .number right)]

namespace Formula

/-- A scripted formula comes to what its expression is worth. The target is looked up
twice, but its value is there the second time if its precision was the first time. -/
theorem result_scripted {evaluator : Evaluator} {expression : String}
    {rule : Double → Double → Double}
    (answered : ∀ current left right,
      evaluator.evaluate expression (operandBindings current left right) =
        .ok (.number (rule left right)))
    (target : VariableId) (b c : Reference Number) (rounding : Rounding) (store : Store) :
    ((scripted expression b c rounding).compute evaluator target store).result =
      computeWide rule target b c rounding store := by
  rw [compute, (Action.quiet_read _).result_bind, computeWide]
  change (store.numberTarget target >>= _) = _
  cases targeted : store.numberTarget target with
  | error error => rfl
  | ok found =>
    obtain ⟨name, kind⟩ := found
    obtain ⟨current, started⟩ := Store.exists_current targeted
    change ((Action.read (scriptedBindings · target b c) >>= _) store).result = _
    rw [(Action.quiet_read _).result_bind]
    change (scriptedBindings store target b c >>= _) = _
    rw [scriptedBindings, started]
    cases b.resolveWide store with
    | error error => rfl
    | ok left =>
      cases c.resolveWide store with
      | error error => rfl
      | ok right =>
        let ask := Action.consult evaluator expression (operandBindings current left right)
        have consulted : (ask store).result = .ok (.number (rule left right)) :=
          congrArg (Except.mapError _) (answered current left right)
        change ((ask >>= _) store).result = _
        rw [Action.bind_of_ok consulted]
        rfl

/-- A plain formula of doubles neither cuts its result back nor fails to divide. -/
theorem result_number_of_float64 {b c : Reference Number} {store : Store}
    (double : ∀ left right, b.resolve store = .ok left → c.resolve store = .ok right →
      left.kind = .float64 ∨ right.kind = .float64)
    (operator : Arithmetic) (target : VariableId) (rounding : Rounding) (evaluator : Evaluator) :
    ((number operator b c rounding).compute evaluator target store).result =
      computeWide operator.raw target b c rounding store := by
  simp only [compute, Action.read, computeWide, Reference.resolveWide]
  cases store.numberTarget target with
  | error error => rfl
  | ok found =>
    cases resolvedB : b.resolve store with
    | error error => rfl
    | ok left =>
      cases resolvedC : c.resolve store with
      | error error => rfl
      | ok right =>
        have merged := NumberKind.merge_of_float64 (double left right resolvedB resolvedC)
        simp only [bind, Except.bind, merged, Arithmetic.apply_float64]
        rfl

end Formula

theorem Arithmetic.admit_expression {operator : Arithmetic} {text : String}
    (spelled : operator.expression? = some text) : Limits.default.Admit text := by
  have short : text.utf8ByteSize ≤ 11 := by
    cases operator <;> cases spelled <;> decide
  exact Limits.admit_of_le (show (11 : UInt64) ≤ Limits.default.maxLength by decide) (by decide)
    (by decide) short

/-- Whenever one of two operands is a double, an operation whose expression writes an
operator does to the store, and tells observers, what an operation with that operator
does. Where something is missing both fail in the same way. -/
theorem scripted_arithmetic_agrees {operator : Arithmetic} {text : String}
    (spelled : operator.expression? = some text) {store : Store} {b c : Reference Number}
    (double : ∀ left right, b.resolve store = .ok left → c.resolve store = .ok right →
      left.kind = .float64 ∨ right.kind = .float64)
    (target : VariableId) (rounding : Rounding) (raiseFlag : Reference Bool)
    (evaluator : Evaluator) :
    let plain : Operation := ⟨target, .number operator b c rounding, raiseFlag⟩
    let scripted : Operation := ⟨target, .scripted text b c rounding, raiseFlag⟩
    let ranPlain := plain.execute evaluator store
    let ranScripted := scripted.execute (engine .default) store
    ranScripted.result = ranPlain.result ∧ ranScripted.store = ranPlain.store ∧
      ranScripted.notices = ranPlain.notices := by
  intro plain scripted ranPlain ranScripted
  have answered (current left right : Double) :
      (engine .default).evaluate text (operandBindings current left right) =
        .ok (.number (operator.raw left right)) :=
    Arithmetic.engine_expression spelled (Arithmetic.admit_expression spelled) rfl rfl
  have same : (scripted.compute (engine .default) store).result =
      (plain.compute evaluator store).result := by
    calc (scripted.compute (engine .default) store).result
      _ = computeWide operator.raw target b c rounding store :=
        Formula.result_scripted answered target b c rounding store
      _ = (plain.compute evaluator store).result :=
        (Formula.result_number_of_float64 double operator target rounding evaluator).symm
  exact (Formula.quiet_compute ..).bind_congr (Formula.quiet_compute ..) same _

/-- Half of an odd score, rounded up. -/
theorem scripted_arithmetic_agrees_score :
    let score : VariableId := ⟨0⟩
    let store := (Store.empty.adding ⟨"score", .number (.int 7)⟩).observing score "board"
    let b : Reference Number := .bound score
    let c : Reference Number := .literal (.double (.ofInt 2))
    let halve : Operation := ⟨score, .scripted "nB / nC" b c .ceil, .literal true⟩
    let halved := halve.execute (engine .default) store
    (Arithmetic.divide.expression? = some "nB / nC" ∧
      ∀ left right, b.resolve store = .ok left → c.resolve store = .ok right →
        left.kind = .float64 ∨ right.kind = .float64) ∧
      halved.result = .ok ⟨score, true⟩ ∧
      halved.store.declared = #[⟨"score", .number (.int 4)⟩] ∧
      halved.notices = [⟨"board", ⟨"score", .number (.int 4)⟩⟩] := by
  intro score store b c halve halved
  have spelled : Arithmetic.divide.expression? = some "nB / nC" := rfl
  have double : ∀ left right, b.resolve store = .ok left → c.resolve store = .ok right →
      left.kind = .float64 ∨ right.kind = .float64 := by
    rintro left right - ⟨⟩
    exact .inr rfl
  let plain : Operation := ⟨score, .number .divide b c .ceil, .literal true⟩
  let rounded : Variable := ⟨"score", .number (.int 4)⟩
  have half : narrow (Arithmetic.divide.raw (Number.int 7).widen (.ofInt 2)) .int32 .ceil =
      .int 4 := by decide +kernel
  have computed : (plain.compute (engine .default) store).result = .ok (.number (.int 4)) :=
    congrArg (Except.ok ∘ Value.number) half
  let after : Store := { store with declared := #[rounded] }
  have wrote : store.set score (.number (.int 4)) = .ok after := rfl
  have told : after.announcement score rounded = [⟨"board", rounded⟩] := by
    rw [Store.announcement, Store.subscriptions_to]
    cbv
  have seen : after.get score = .ok rounded := rfl
  have committed := Operation.commit_of_written wrote seen true
  rw [told] at committed
  have ran : plain.execute (engine .default) store = ⟨.ok ⟨score, true⟩, after,
      [.notified ⟨"board", rounded⟩, .logged (.operationExecuted rounded true)]⟩ := by
    rw [Operation.execute, Action.bind_of_ok computed]
    change (⟨(Operation.commit score (.number (.int 4)) true store).result, _,
      [] ++ ([] ++ (Operation.commit score (.number (.int 4)) true store).events)⟩ : Outcome _) = _
    rw [committed]
    rfl
  have agrees : halved.result = (plain.execute (engine .default) store).result ∧
      halved.store = (plain.execute (engine .default) store).store ∧
      halved.notices = (plain.execute (engine .default) store).notices :=
    scripted_arithmetic_agrees spelled double score .ceil (.literal true) (engine .default)
  rw [ran] at agrees
  obtain ⟨result, left, notices⟩ := agrees
  exact ⟨⟨spelled, double⟩, result, congrArg Store.declared left, notices⟩

/-- Remainders are left out: that of a negative number is negative in plain arithmetic. -/
example : Arithmetic.modulo.raw (.ofInt (-7)) (.ofInt 3) = .ofInt (-1) ∧
    BinaryOp.flooredModulo (.ofInt (-7)) (.ofInt 3) = .ofInt 2 := by decide +kernel

end Rulebook
