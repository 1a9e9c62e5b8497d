import Rulebook.Proofs.Declarations
import Rulebook.Proofs.ValidationStability

/-! What validation turns down could not have run. Names and kinds of the variables
decide what validation finds; where they are the same, a condition that was turned down
fails when it is asked, with the error that validation reported, and an operation that
was turned down fails when it is carried out and leaves no trace. -/
namespace Rulebook
open Numeric Script

/-- Two computations both end with a value, whichever it is, or both with the same
error. -/
inductive EndAlike : Except ε α → Except ε β → Prop where
  | ok (value : α) (other : β) : EndAlike (.ok value) (.ok other)
  | error (error : ε) : EndAlike (.error error) (.error error)

namespace EndAlike

theorem refl (result : Except ε α) : EndAlike result result := by
  cases result with
  | error reason => exact .error reason
  | ok value => exact .ok value value

theorem symm {one : Except ε α} {other : Except ε β} (alike : EndAlike one other) :
    EndAlike other one := by
  cases alike with
  | ok value found => exact .ok found value
  | error reason => exact .error reason

theorem map {one : Except ε α} {other : Except ε β} (alike : EndAlike one other)
    (change : β → γ) : EndAlike one (other.map change) := by
  cases alike with
  | ok value found => exact .ok _ _
  | error reason => exact .error reason

theorem bind {one : Except ε α} {other : Except ε β} {next : α → Except ε γ}
    {following : β → Except ε δ} (first : EndAlike one other)
    (rest : ∀ value found, EndAlike (next value) (following found)) :
    EndAlike (one >>= next) (other >>= following) := by
  cases first with
  | ok value found => exact rest value found
  | error reason => exact .error reason

/-- Every error of one is the error of the other. -/
theorem eq_error {one : Except ε α} {other : Except ε β} (alike : EndAlike one other) {reason : ε}
    (failed : one = .error reason) : other = .error reason := by
  subst failed
  cases alike
  rfl

end EndAlike

/-- Every error of a check is the error of the run. -/
def Anticipates (check : Except ε α) (run : Except ε β) : Prop :=
  ∀ reason, check = .error reason → run = .error reason

namespace Anticipates

theorem of_ok (value : α) (run : Except ε β) : Anticipates (.ok value) run := nofun

theorem bind {check : Except ε α} {run : Except ε β} {next : α → Except ε γ}
    {following : β → Except ε δ} (first : EndAlike check run)
    (rest : ∀ value found, Anticipates (next value) (following found)) :
    Anticipates (check >>= next) (run >>= following) := by
  cases first with
  | ok value found => exact rest value found
  | error reason => exact fun _ failed => by cases failed; rfl

/-- What follows a run does not repair it. -/
theorem andThen {check : Except ε α} {run : Except ε β} (anticipates : Anticipates check run)
    (following : β → Except ε γ) : Anticipates check (run >>= following) := by
  intro reason failed
  rw [anticipates reason failed]
  rfl

theorem mapError {check : Except ε α} {run : Except ε β} (anticipates : Anticipates check run)
    (wrap : ε → δ) : Anticipates (check.mapError wrap) (run.mapError wrap) := by
  intro reason failed
  cases check with
  | error error =>
    cases failed
    rw [anticipates error rfl]
    rfl
  | ok value => cases failed

end Anticipates

/-- An evaluator that has no value for an expression whose text it calls malformed, only
the same error. -/
def Script.Evaluator.Strict (evaluator : Evaluator) : Prop :=
  ∀ expression bindings,
    Anticipates (evaluator.validate expression) (evaluator.evaluate expression bindings)

theorem Script.strict_engine (limits : Limits) : (engine limits).Strict := by
  intro expression bindings reason failed
  change (compile limits expression).map (fun _ => ()) = .error reason at failed
  change evaluate limits expression bindings = .error reason
  rw [evaluate]
  cases compiled : compile limits expression with
  | error error =>
    rw [compiled] at failed
    cases failed
    rfl
  | ok expr =>
    rw [compiled] at failed
    cases failed

section SameSignatures
variable {before after : Store} (same : after.signatures = before.signatures)
include same

/-- Either both stores have a variable of an id, with one name and one kind, or neither
has. -/
theorem Store.get_cases_of_signatures (id : VariableId) :
    (∃ var now, before.get id = .ok var ∧ after.get id = .ok now ∧ now.name = var.name ∧
      now.kind = var.kind) ∨
    (before.get id = .error (.unknownVariable id) ∧
      after.get id = .error (.unknownVariable id)) := by
  have sameAt := congrArg (·[id.index.toNat]?) same
  simp only [signatures, List.getElem?_map, Array.getElem?_toList] at sameAt
  unfold get
  cases held : before.declared[id.index.toNat]? with
  | none =>
    have missing : after.declared[id.index.toNat]? = none := by simpa [held] using sameAt
    exact .inr ⟨rfl, by rw [missing]⟩
  | some var =>
    obtain ⟨now, heldNow, agree⟩ : ∃ now, after.declared[id.index.toNat]? = some now ∧
        now.signature = var.signature := by simpa [held] using sameAt
    obtain ⟨sameName, sameKind⟩ := Prod.ext_iff.mp agree
    exact .inl ⟨var, now, rfl, by rw [heldNow], sameName, sameKind⟩

/-- Whether an operand can be looked up depends on the kind of the variable alone. -/
theorem Reference.endAlike_resolve [Operand α] [LawfulOperand α] (reference : Reference α) :
    EndAlike (reference.resolve before) (reference.resolve after) := by
  cases reference with
  | unbound => exact .refl _
  | literal value => exact .refl _
  | bound id =>
    simp only [resolve]
    obtain ⟨var, now, found, foundNow, sameName, sameKind⟩ | ⟨missing, missingNow⟩ :=
      Store.get_cases_of_signatures same id
    · rw [found, foundNow]
      cases held : (Operand.ofValue? var.value : Option α) with
      | some operand =>
        obtain ⟨other, heldNow⟩ := LawfulOperand.ofValue_of_kind sameKind held
        simp only [heldNow, held]
        exact .ok operand other
      | none =>
        have heldNow : (Operand.ofValue? now.value : Option α) = none := by
          by_contra present
          obtain ⟨operand, isOperand⟩ := Option.ne_none_iff_exists'.mp present
          obtain ⟨other, also⟩ := LawfulOperand.ofValue_of_kind sameKind.symm isOperand
          rw [held] at also
          cases also
        simp only [heldNow, held, Variable.mismatch, sameName, sameKind]
        exact .error _
    · rw [missing, missingNow]
      exact .error _

theorem Reference.endAlike_resolveWide (reference : Reference Number) :
    EndAlike (reference.resolveWide before) (reference.resolveWide after) :=
  ((reference.endAlike_resolve same).map Number.widen).symm.map Number.widen |>.symm

namespace Store

theorem boolTarget_of_signatures (id : VariableId) :
    before.boolTarget id = after.boolTarget id := by
  obtain ⟨var, now, found, foundNow, sameName, sameKind⟩ | ⟨missing, missingNow⟩ :=
    get_cases_of_signatures same id
  · simp only [boolTarget, found, foundNow, bind, Except.bind, Variable.mismatch, sameName,
      sameKind]
  · simp only [boolTarget, missing, missingNow]

theorem numberTarget_of_signatures (id : VariableId) :
    before.numberTarget id = after.numberTarget id := by
  obtain ⟨var, now, found, foundNow, sameName, sameKind⟩ | ⟨missing, missingNow⟩ :=
    get_cases_of_signatures same id
  · simp only [numberTarget, found, foundNow, bind, Except.bind, Variable.mismatch, sameName,
      sameKind]
  · simp only [numberTarget, missing, missingNow]

theorem vectorTarget_of_signatures (id : VariableId) :
    before.vectorTarget id = after.vectorTarget id := by
  obtain ⟨var, now, found, foundNow, sameName, sameKind⟩ | ⟨missing, missingNow⟩ :=
    get_cases_of_signatures same id
  · simp only [vectorTarget, found, foundNow, bind, Except.bind, Variable.mismatch, sameName,
      sameKind]
  · simp only [vectorTarget, missing, missingNow]

end Store

theorem ScriptedCondition.endAlike_bindings (question : ScriptedCondition) :
    EndAlike (question.bindings before) (question.bindings after) :=
  (question.numberA.endAlike_resolveWide same).bind fun _ _ =>
    (question.numberB.endAlike_resolveWide same).bind fun _ _ =>
      (question.boolA.endAlike_resolve same).bind fun _ _ =>
        (question.boolB.endAlike_resolve same).bind fun _ _ => .ok _ _

theorem endAlike_scriptedBindings (target : VariableId) (b c : Reference Number) :
    EndAlike (scriptedBindings before target b c) (scriptedBindings after target b c) :=
  ((Reference.bound target).endAlike_resolveWide same).bind fun _ _ =>
    (b.endAlike_resolveWide same).bind fun _ _ =>
      (c.endAlike_resolveWide same).bind fun _ _ => .ok _ _

/-- Operands are looked up in the same order by the check and by the run. -/
private theorem anticipates_operands [Operand α] [LawfulOperand α] (a b : Reference α)
    (next : α → α → Except RuleError β) :
    Anticipates (do let _ ← a.resolve before; let _ ← b.resolve before : Except RuleError Unit)
      (do next (← a.resolve after) (← b.resolve after)) :=
  .bind (a.endAlike_resolve same) fun _ _ =>
    .bind (b.endAlike_resolve same) fun _ _ => .of_ok _ _

section Evaluator
variable {evaluator : Evaluator} (strict : evaluator.Strict)
include strict

omit same in
private theorem anticipates_consult (expression : String) (bindings : Bindings)
    (next : Datum → Action β) (store : Store) :
    Anticipates ((evaluator.validate expression).mapError (RuleError.script expression))
      ((Action.consult evaluator expression bindings >>= next) store).result := by
  rw [(Action.quiet_consult ..).result_bind]
  exact ((strict expression bindings).mapError (RuleError.script expression)).andThen _

/-- A condition that is turned down fails when it is asked, for the reason given. -/
theorem Condition.anticipates_validate (condition : Condition) :
    Anticipates (condition.validate evaluator before)
      (condition.evaluate evaluator after).result := by
  cases condition with
  | bool a equality b => exact anticipates_operands same a b _
  | number a comparison b =>
    exact .bind ((a.endAlike_resolve same).map Number.widen) fun _ _ =>
      .bind ((b.endAlike_resolve same).map Number.widen) fun _ _ => .of_ok _ _
  | vector a equality b => exact anticipates_operands same a b _
  | scripted question =>
    change Anticipates _ ((Action.read question.bindings >>= _) after).result
    rw [(Action.quiet_read _).result_bind]
    exact .bind (question.endAlike_bindings same) fun _ _ => anticipates_consult strict _ _ _ _

/-- Where a formula is turned down no value is worked out, for the reason given. -/
theorem Formula.anticipates_validate (target : VariableId) (formula : Formula) :
    Anticipates (formula.validate evaluator before target)
      (formula.compute evaluator target after).result := by
  cases formula with
  | bool operator a b =>
    exact .bind (Store.boolTarget_of_signatures same target ▸ .refl _) fun _ _ =>
      anticipates_operands same a b _
  | number operator a b rounding =>
    exact .bind (Store.numberTarget_of_signatures same target ▸ .refl _) fun _ _ =>
      anticipates_operands same a b _
  | scripted expression b c rounding =>
    change Anticipates _ ((Action.read (·.numberTarget target) >>= _) after).result
    rw [(Action.quiet_read _).result_bind]
    refine .bind (Store.numberTarget_of_signatures same target ▸ .refl _) fun _ _ => ?_
    rw [(Action.quiet_read _).result_bind]
    exact .bind (endAlike_scriptedBindings same target b c) fun _ _ =>
      anticipates_consult strict _ _ _ _
  | vector operator a b rounding =>
    exact .bind (Store.vectorTarget_of_signatures same target ▸ .refl _) fun _ _ =>
      anticipates_operands same a b _

/-- An operation that is turned down fails and leaves the store as it is. Its raise flag
is looked up last, so it may be something else that goes wrong, but then that does so
before the value is known. -/
theorem Operation.fails_of_rejected {operation : Operation} {reason : RuleError}
    (rejected : operation.validate evaluator before = .error reason) :
    (operation.execute evaluator after).store = after ∧
      ∃ found, (operation.execute evaluator after).result = .error found ∧
        (found = reason ∨ (operation.compute evaluator after).result = .error found) := by
  have quiet := (operation.formula.quiet_compute evaluator operation.target).store after
  change (operation.compute evaluator after).store = after at quiet
  have computing := operation.formula.anticipates_validate same strict operation.target
  cases computed : (operation.compute evaluator after).result with
  | error found =>
    rw [execute, Action.bind_of_error computed]
    exact ⟨quiet, found, rfl, .inr rfl⟩
  | ok value =>
    -- the formula was not what was turned down, so the raise flag was
    obtain failed | ⟨_, -, rest⟩ := bind_eq_error_iff.mp rejected
    · cases (computing reason failed).symm.trans computed
    obtain flag | ⟨_, -, ended⟩ := bind_eq_error_iff.mp rest
    · have flagNow : (Action.read operation.raiseFlag.resolve after).result = .error reason :=
        (operation.raiseFlag.endAlike_resolve same).eq_error flag
      rw [execute, Action.bind_of_ok computed, quiet, Action.bind_of_error flagNow]
      exact ⟨rfl, reason, rfl, .inl rfl⟩
    · cases ended

end Evaluator

end SameSignatures

/-- Validation turns down nothing that could have run. Whatever values the variables have,
as long as their names and kinds are those that validation saw, a condition it turned down
fails with the same error, and an operation it turned down fails and changes nothing. Only
where the value of an operation cannot be worked out may its error be another one. -/
theorem rejected_cannot_run (limits : Limits) {before after : Store}
    (same : after.signatures = before.signatures) :
    (∀ (condition : Condition) (reason : RuleError),
      condition.validate (engine limits) before = .error reason →
        (condition.evaluate (engine limits) after).result = .error reason) ∧
    (∀ (operation : Operation) (reason : RuleError),
      operation.validate (engine limits) before = .error reason →
        (operation.execute (engine limits) after).store = after ∧
          ∃ found, (operation.execute (engine limits) after).result = .error found ∧
            (found = reason ∨
              (operation.compute (engine limits) after).result = .error found)) := by
  have strict := strict_engine limits
  constructor
  · intro condition
    exact condition.anticipates_validate same strict
  · intro operation reason rejected
    exact operation.fails_of_rejected same strict rejected

/-- A gate with a box for coins and a barrier. -/
def tollgate (coins : Int32) (lowered : Bool) : Store :=
  (Store.empty.adding ⟨"coins", .number (.int coins)⟩).adding ⟨"lowered", .bool lowered⟩

/-- The raise flag is linked to a number, which validation finds; when the box is empty,
the division fails before the flag is looked at. -/
theorem rejected_cannot_run_tollgate :
    let paid : Condition := .number (.bound ⟨1⟩) .greater .unbound
    let share : Operation := ⟨⟨0⟩, .number .divide (.literal (.int 6)) (.bound ⟨0⟩) .nearest,
      .bound ⟨0⟩⟩
    let notNumber := RuleError.kindMismatch "lowered" .anyNumber .bool
    let notBool := RuleError.kindMismatch "coins" (.exactly .bool) (.number .int32)
    (tollgate 0 false).signatures = (tollgate 3 true).signatures ∧
      paid.validate (engine .default) (tollgate 3 true) = .error notNumber ∧
      (paid.evaluate (engine .default) (tollgate 0 false)).result = .error notNumber ∧
      share.validate (engine .default) (tollgate 3 true) = .error notBool ∧
      (share.execute (engine .default) (tollgate 0 false)).store = tollgate 0 false ∧
      (share.execute (engine .default) (tollgate 0 false)).result =
        .error (.divisionByZero "coins") := by
  intro paid share notNumber notBool
  have same : (tollgate 0 false).signatures = (tollgate 3 true).signatures := by decide
  have paidRejected : paid.validate (engine .default) (tollgate 3 true) = .error notNumber := by
    decide +kernel
  have shareRejected : share.validate (engine .default) (tollgate 3 true) = .error notBool := by
    decide +kernel
  have cannotRun := rejected_cannot_run .default same
  exact ⟨same, paidRejected, cannotRun.1 paid notNumber paidRejected, shareRejected,
    (cannotRun.2 share notBool shareRejected).1, by decide +kernel⟩

end Rulebook
