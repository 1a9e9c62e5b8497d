import Mathlib.Control.Monad.Basic
import Rulebook.Proofs.InitialStore
import Rulebook.Proofs.Script.EvaluationErrors
import Rulebook.Proofs.ValidationStability

/-! What validation promises. A condition or an operation that is valid in a store
finds its variables there, of the right kinds, and an expression whose text is
in order; only the evaluation of the expression can still go wrong, or an
integer be divided by zero, or an expression give something other than a number.
Since valid things stay valid, this holds of a rule at any time after its rule
set has been validated. -/
namespace Rulebook
open Numeric Script

/-- An evaluator that never finds fault with the text of an expression which it
has called well formed. -/
def Script.Evaluator.Trustworthy (evaluator : Evaluator) : Prop :=
  ∀ expression bindings, evaluator.validate expression = .ok () →
    FailsDynamically (evaluator.evaluate expression bindings)

theorem Script.trustworthy_engine (limits : Limits) : (engine limits).Trustworthy :=
  fun _ bindings valid => failsDynamically_engine valid bindings

namespace RuleError

/-- The errors that a valid condition can still end with. -/
def OfCondition : RuleError → Prop
  | .script _ source => source.Dynamic
  | .kindMismatch .. | .unknownVariable _ | .duplicateVariable _ | .divisionByZero _
  | .nonNumericResult .. => False

/-- The errors that a valid operation can still end with. -/
def OfOperation : RuleError → Prop
  | .script _ source => source.Dynamic
  | .divisionByZero _ | .nonNumericResult .. => True
  | .kindMismatch .. | .unknownVariable _ | .duplicateVariable _ => False

end RuleError

/-- Two operands that have been checked do not get in the way of what follows. -/
private theorem failsOnly_operands [Operand α] {allowed : RuleError → Prop} {store : Store}
    {a b : Reference α} {next : α → α → Except RuleError β}
    (valid : (do let _ ← a.resolve store; let _ ← b.resolve store : Except RuleError Unit) = .ok ())
    (rest : ∀ first second, FailsOnly allowed (next first second)) :
    FailsOnly allowed (do next (← a.resolve store) (← b.resolve store)) := by
  obtain ⟨_, resolvedA, following⟩ := bind_eq_ok_iff.mp valid
  obtain ⟨_, resolvedB, -⟩ := bind_eq_ok_iff.mp following
  exact failsOnly_bind (failsOnly_of_eq_ok resolvedA) fun first _ =>
    failsOnly_bind (failsOnly_of_eq_ok resolvedB) fun second _ => rest first second

section Valid
variable {evaluator : Evaluator} (trusted : evaluator.Trustworthy) {store : Store}
include trusted

private theorem failsOnly_consult {allowed : RuleError → Prop} {expression : String}
    (script : ∀ source : EvalError, source.Dynamic → allowed (.script expression source))
    (valid : (evaluator.validate expression).mapError (RuleError.script expression) = .ok ())
    (bindings : Bindings) :
    FailsOnly allowed (Action.consult evaluator expression bindings store).result :=
  failsOnly_mapError (trusted expression bindings (mapError_eq_ok_iff.mp valid)) script

/-- A valid condition is answered, unless the evaluation of its expression fails. -/
theorem Condition.failsOnly_evaluate {condition : Condition}
    (valid : condition.validate evaluator store = .ok ()) :
    FailsOnly RuleError.OfCondition (condition.evaluate evaluator store).result := by
  cases condition with
  | bool a equality b => exact failsOnly_operands valid fun _ _ => failsOnly_ok _
  | number a comparison b =>
    obtain ⟨first, resolvedA, rest⟩ := bind_eq_ok_iff.mp valid
    obtain ⟨second, resolvedB, -⟩ := bind_eq_ok_iff.mp rest
    exact failsOnly_bind (failsOnly_map (failsOnly_of_eq_ok resolvedA)) fun _ _ =>
      failsOnly_bind (failsOnly_map (failsOnly_of_eq_ok resolvedB)) fun _ _ => failsOnly_ok _
  | vector a equality b => exact failsOnly_operands valid fun _ _ => failsOnly_ok _
  | scripted question =>
    obtain ⟨bindings, bound, wellFormed⟩ := bind_eq_ok_iff.mp valid
    refine Action.failsOnly_bind (failsOnly_of_eq_ok bound) fun bindings _ => ?_
    refine Action.failsOnly_bind (failsOnly_consult trusted (fun _ => id) wellFormed bindings)
      fun value _ => ?_
    cases value <;> exact failsOnly_ok _

theorem Condition.failsOnly_allHold {conditions : List Condition}
    (valid : ∀ condition ∈ conditions, condition.validate evaluator store = .ok ()) :
    FailsOnly RuleError.OfCondition (allHold evaluator conditions store).result := by
  induction conditions with
  | nil => exact failsOnly_ok true
  | cons condition rest ih =>
    obtain ⟨head, others⟩ := List.forall_mem_cons.mp valid
    refine Action.failsOnly_bind (failsOnly_evaluate trusted head) fun holds _ => ?_
    -- asking has not changed the store, so the others are still valid in it
    rw [(condition.quiet_evaluate evaluator).store store]
    cases holds with
    | false => exact failsOnly_ok false
    | true => exact ih others

/-- A valid formula gives a value, unless an integer is divided by zero or its
expression does not give a number. -/
theorem Formula.failsOnly_compute {target : VariableId} {formula : Formula}
    (valid : formula.validate evaluator store target = .ok ()) :
    FailsOnly RuleError.OfOperation (formula.compute evaluator target store).result := by
  cases formula with
  | bool operator a b =>
    obtain ⟨_, targeted, operands⟩ := bind_eq_ok_iff.mp valid
    exact failsOnly_bind (failsOnly_of_eq_ok targeted) fun _ _ =>
      failsOnly_operands operands fun _ _ => failsOnly_ok _
  | number operator a b rounding =>
    obtain ⟨_, targeted, operands⟩ := bind_eq_ok_iff.mp valid
    refine failsOnly_bind (failsOnly_of_eq_ok targeted) fun _ _ =>
      failsOnly_operands operands fun _ _ => ?_
    split
    · exact failsOnly_ok _
    · exact failsOnly_error trivial
  | scripted expression b c rounding =>
    obtain ⟨_, targeted, rest⟩ := bind_eq_ok_iff.mp valid
    obtain ⟨bindings, bound, wellFormed⟩ := bind_eq_ok_iff.mp rest
    refine Action.failsOnly_bind (failsOnly_of_eq_ok targeted) fun _ _ =>
      Action.failsOnly_bind (failsOnly_of_eq_ok bound) fun bindings _ =>
        Action.failsOnly_bind (failsOnly_consult trusted (fun _ => id) wellFormed bindings)
          fun value _ => ?_
    cases value with
    | number result => exact failsOnly_ok _
    | nil | boolean _ | text _ => exact failsOnly_error trivial
  | vector operator a b rounding =>
    obtain ⟨_, targeted, operands⟩ := bind_eq_ok_iff.mp valid
    refine failsOnly_bind (failsOnly_of_eq_ok targeted) fun _ _ =>
      failsOnly_operands operands fun _ _ => ?_
    split
    · exact failsOnly_ok _
    · exact failsOnly_error trivial

end Valid

/-! What is computed for a target is of the target's kind, so writing it is
never refused. -/

theorem kind_narrow (number : Double) (kind : NumberKind) (rounding : Rounding) :
    (narrow number kind rounding).kind = kind := by
  cases kind <;> rfl

/-- A shape that some vector has is kept when a vector is made of it. -/
theorem shape_ofComponents (vector : Vector) (component : Nat → Double) :
    (Vector.ofComponents vector.shape component).shape = vector.shape := by
  cases vector <;> rfl

/-- A value is computed only for a variable of its kind. -/
theorem Formula.kind_compute {formula : Formula} {evaluator : Evaluator} {target : VariableId}
    {store : Store} {value : Value}
    (computed : (formula.compute evaluator target store).result = .ok value) :
    ∃ var, store.get target = .ok var ∧ var.kind = value.kind := by
  cases formula with
  | bool operator a b =>
    obtain ⟨_, targeted, rest⟩ := bind_eq_ok_iff.mp computed
    obtain ⟨_, _, rest⟩ := bind_eq_ok_iff.mp rest
    obtain ⟨_, _, rest⟩ := bind_eq_ok_iff.mp rest
    cases rest
    exact (Store.boolTarget_eq_ok_iff ..).mp targeted
  | number operator a b rounding =>
    obtain ⟨⟨name, kind⟩, targeted, rest⟩ := bind_eq_ok_iff.mp computed
    obtain ⟨var, found, -, sameKind⟩ := (Store.numberTarget_eq_ok_iff ..).mp targeted
    obtain ⟨_, _, rest⟩ := bind_eq_ok_iff.mp rest
    obtain ⟨_, _, rest⟩ := bind_eq_ok_iff.mp rest
    refine ⟨var, found, ?_⟩
    split at rest
    · cases rest
      rw [sameKind, Value.kind, kind_narrow]
    · cases rest
  | scripted expression b c rounding =>
    obtain ⟨⟨name, kind⟩, targeted, rest⟩ := Action.bind_eq_ok computed
    obtain ⟨var, found, -, sameKind⟩ := (Store.numberTarget_eq_ok_iff ..).mp targeted
    obtain ⟨_, _, rest⟩ := Action.bind_eq_ok rest
    obtain ⟨given, _, rest⟩ := Action.bind_eq_ok rest
    refine ⟨var, found, ?_⟩
    cases given with
    | number result =>
      cases rest
      rw [sameKind, Value.kind, kind_narrow]
    | nil | boolean _ | text _ => cases rest
  | vector operator a b rounding =>
    obtain ⟨⟨name, shape⟩, targeted, rest⟩ := bind_eq_ok_iff.mp computed
    obtain ⟨⟨varName, held⟩, found, -, sameKind⟩ := (Store.vectorTarget_eq_ok_iff ..).mp targeted
    obtain ⟨_, _, rest⟩ := bind_eq_ok_iff.mp rest
    obtain ⟨_, _, rest⟩ := bind_eq_ok_iff.mp rest
    refine ⟨_, found, ?_⟩
    split at rest
    · cases rest
      cases held with
      | vector old =>
        cases sameKind
        exact congrArg Kind.vector (shape_ofComponents old _).symm
      | bool _ | number _ => cases sameKind
    · cases rest

section Run
variable {evaluator : Evaluator} (trusted : evaluator.Trustworthy) {store : Store}
include trusted

/-- A valid operation fails only where its value is computed. -/
theorem Operation.failsOnly_execute {operation : Operation}
    (valid : operation.validate evaluator store = .ok ()) :
    FailsOnly RuleError.OfOperation (operation.execute evaluator store).result := by
  obtain ⟨_, computable, rest⟩ := bind_eq_ok_iff.mp valid
  obtain ⟨_, resolved, -⟩ := bind_eq_ok_iff.mp rest
  rcases operation.execute_cases evaluator store with
    ⟨error, fails, ended⟩ | ⟨_, _, _, _, -, -, -, -, ended⟩
  · rw [ended]
    refine failsOnly_error ?_
    cases fails with
    | compute failed => exact Formula.failsOnly_compute trusted computable error failed
    | raiseFlag failed =>
      rw [resolved] at failed
      cases failed
    | write computed refused =>
      obtain ⟨var, found, sameKind⟩ := Formula.kind_compute computed
      have written := (Store.set_eq_ok_iff ..).mpr ⟨var, found, sameKind, rfl⟩
      rw [refused] at written
      cases written
  · rw [ended]
    exact failsOnly_ok _

/-- The failures of a batch of valid operations. What the earlier operations did
to the store does not make the later ones invalid. -/
theorem Batch.failures_steps {placed : List Placed}
    (valid : ∀ each ∈ placed, each.operation.validate evaluator store = .ok ()) :
    ∀ failure ∈ (Report.ofSteps (steps evaluator store placed)).failures,
      failure.error.OfOperation := by
  induction placed generalizing store with
  | nil => nofun
  | cons head rest ih =>
    obtain ⟨headValid, restValid⟩ := List.forall_mem_cons.mp valid
    have later : ∀ each ∈ rest, each.operation.validate evaluator
        (head.operation.execute evaluator store).store = .ok () := by
      intro each member
      have grows := Store.extends_execute head.operation evaluator store
      obtain ⟨_, still⟩ :=
        each.operation.persists_validate grows evaluator () (restValid each member)
      exact still
    intro failure member
    obtain ⟨step, stepMember, failed⟩ := List.mem_filterMap.mp member
    rcases List.mem_cons.mp stepMember with rfl | stepMember
    · have fails := head.operation.failsOnly_execute trusted headValid
      unfold Step.failure? at failed
      split at failed
      · cases failed
      · rename_i error ended
        cases failed
        exact fails error ended
    · exact ih later failure (List.mem_filterMap.mpr ⟨step, stepMember, failed⟩)

end Run

namespace Rule

theorem validate_eq_ok_iff (rule : Rule) (evaluator : Evaluator) (store : Store) :
    rule.validate evaluator store = .ok () ↔
      (∀ condition ∈ rule.conditions, condition.validate evaluator store = .ok ()) ∧
      ∀ operation ∈ rule.operations.flatten, operation.validate evaluator store = .ok () := by
  unfold validate
  rw [bind_eq_ok_iff, ← forM_eq_ok_iff, ← forM_eq_ok_iff]
  exact ⟨fun ⟨_, conditions, operations⟩ => ⟨conditions, operations⟩,
    fun ⟨conditions, operations⟩ => ⟨_, conditions, operations⟩⟩

/-- Asking for a rule and carrying it out run into nothing that validation looks
for. -/
structure Safe (rule : Rule) (evaluator : Evaluator) (store : Store) : Prop where
  asked : FailsOnly RuleError.OfCondition (rule.isAvailable evaluator store).result
  ran : FailsOnly RuleError.OfCondition (rule.run evaluator store).result
  failures : ∀ report, (rule.run evaluator store).result = .ok report →
    ∀ failure ∈ report.failures, failure.error.OfOperation

section Valid
variable {rule : Rule} {evaluator : Evaluator} {store : Store} (trusted : evaluator.Trustworthy)
  (valid : rule.validate evaluator store = .ok ())
include trusted valid

theorem failsOnly_isAvailable :
    FailsOnly RuleError.OfCondition (rule.isAvailable evaluator store).result := by
  obtain ⟨conditions, -⟩ := (rule.validate_eq_ok_iff ..).mp valid
  unfold isAvailable
  unfold Rule.conditions at conditions
  cases gate : rule.gate with
  | none => exact failsOnly_ok true
  | some list =>
    rw [gate] at conditions
    exact Condition.failsOnly_allHold trusted conditions

/-- A rule as a whole fails only where its gate does. -/
theorem failsOnly_run :
    FailsOnly RuleError.OfCondition (rule.run evaluator store).result := by
  intro error failed
  have admitted := rule.run_admitted evaluator store
  cases answer : (rule.isAvailable evaluator store).result with
  | error reason =>
    rw [answer] at admitted
    obtain rfl : reason = error := Except.error.inj (admitted.symm.trans failed)
    exact failsOnly_isAvailable trusted valid reason answer
  | ok available =>
    rw [answer] at admitted
    obtain ⟨report, ended, -⟩ := admitted
    cases ended.symm.trans failed

theorem failures_run {report : Report} (ended : (rule.run evaluator store).result = .ok report) :
    ∀ failure ∈ report.failures, failure.error.OfOperation := by
  obtain ⟨-, operations⟩ := (rule.validate_eq_ok_iff ..).mp valid
  rw [(rule.run_eq_batch evaluator store).1] at ended
  cases answer : (rule.gate.passes evaluator store).result with
  | error reason =>
    cases (Batch.idle_of_gate_error rule.operations answer).ended.symm.trans ended
  | ok opens =>
    cases opens with
    | false =>
      cases (Batch.idle_of_gate_closed rule.operations answer).ended.symm.trans ended
      nofun
    | true =>
      cases (Batch.admitted_of_gate_open rule.operations answer).ended.symm.trans ended
      refine Batch.failures_steps trusted fun placed member => operations _ ?_
      rw [← Batch.operations_placedLists 0]
      exact List.mem_map_of_mem member

theorem safe_of_valid : rule.Safe evaluator store :=
  ⟨failsOnly_isAvailable trusted valid, failsOnly_run trusted valid,
    fun _ => failures_run trusted valid⟩

end Valid

end Rule

namespace RuleSet

theorem valid_of_validateRules {evaluator : Evaluator} {store : Store} {seen : List String}
    {rules : List Rule} (valid : validateRules evaluator store seen rules = .ok ()) :
    ∀ rule ∈ rules, rule.validate evaluator store = .ok () := by
  induction rules generalizing seen with
  | nil => nofun
  | cons head rest ih =>
    unfold validateRules at valid
    split at valid
    · cases valid
    · split at valid
      · cases valid
      · rename_i checked
        exact List.forall_mem_cons.mpr ⟨checked, ih valid⟩

/-- Whatever has happened to the variables of a validated rule set, its rules
fail only where an expression cannot be evaluated, an integer is divided by zero
or an expression gives something other than a number. -/
theorem validate_sound (ruleSet : RuleSet)
    (valid : ruleSet.validate ruleSet.evaluator = .ok ()) :
    ∃ initial, ruleSet.buildStore = .ok initial ∧
      ∀ calls, ∀ rule ∈ ruleSet.rules, rule.Safe ruleSet.evaluator (initial.after calls) := by
  obtain ⟨initial, built, checked⟩ := bind_eq_ok_iff.mp valid
  refine ⟨initial, built, ?_⟩
  intro calls rule member
  have ruleValid := valid_of_validateRules checked rule member
  have grows := initial.extends_after calls
  obtain ⟨_, still⟩ := rule.persists_validate grows ruleSet.evaluator () ruleValid
  exact Rule.safe_of_valid (trustworthy_engine ruleSet.script) still

/-- A shop that sells potions for three pieces of gold. -/
def potionShop : RuleSet :=
  let gold : VariableId := ⟨0⟩
  let potions : VariableId := ⟨1⟩
  let affordable := { ScriptedCondition.ofExpression "nA >= 3" with numberA := .bound gold }
  let pay : Operation := ⟨gold, .scripted "nA - 3" .unbound .unbound .nearest, .literal true⟩
  let take : Operation :=
    ⟨potions, .number .add (.bound potions) (.literal (.int 1)) .nearest, .unbound⟩
  ((empty.withVariable "gold" (.number (.int 10))).withVariable "potions" (.number (.int 0))
    |>.withRule (((Rule.named "buy").withGate [.scripted affordable]).withOperations [pay, take]))

theorem validate_sound_potionShop :
    potionShop.validate potionShop.evaluator = .ok () ∧
      ∃ initial, potionShop.buildStore = .ok initial ∧
        ∀ calls, ∀ rule ∈ potionShop.rules,
          rule.Safe potionShop.evaluator (initial.after calls) := by
  have built : potionShop.buildStore = .ok potionShop.variableStore :=
    buildStore_of_nodup (by decide)
  have checked : validateRules potionShop.evaluator potionShop.variableStore [] potionShop.rules =
      .ok () := by decide +kernel
  have valid : potionShop.validate potionShop.evaluator = .ok () := by
    rw [validate, built]
    exact checked
  exact ⟨valid, potionShop.validate_sound valid⟩

end RuleSet

end Rulebook
