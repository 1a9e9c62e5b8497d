import Mathlib.Data.List.Forall2
import Rulebook.Proofs.ActionEffects
import Rulebook.Proofs.StoreHistory

/-! References count for what they resolve to. Where an operand or a raise flag is
exchanged for a reference with the same value in a store, conditions are answered and
operations carried out there as before. Operands that are not linked to anything resolve
alike in every store, so constants may take their place throughout a rule set. -/
namespace Rulebook
open Numeric Script

/-- Which reference may stand where another one stood, for each type of operands. -/
abbrev Replacement : Type 1 :=
  ∀ (α : Type) [Operand α], Reference α → Reference α → Prop

namespace Reference

/-- A reference is kept, or gives way to the constant that it resolves to in a store. -/
inductive Resolved (store : Store) (α : Type) [Operand α] : Reference α → Reference α → Prop where
  | kept (reference : Reference α) : Resolved store α reference reference
  | constant {reference : Reference α} {value : α}
      (resolved : reference.resolve store = .ok value) :
    Resolved store α reference (.literal value)

/-- A reference is kept, or, if it is not linked to anything, gives way to the constant of
its type that stands for that: `false`, the integer zero, or two integer zeros. -/
inductive Filled (α : Type) [Operand α] : Reference α → Reference α → Prop where
  | kept (reference : Reference α) : Filled α reference reference
  | absent : Filled α .unbound (.literal Operand.absent)

example : ((Operand.absent : Bool), (Operand.absent : Number), (Operand.absent : Vector)) =
    (false, .int 0, .int2 0 0) := rfl

end Reference

/-- Whatever is replaced, the value in the store stays the same. -/
def Replacement.KeepsValues (replaces : Replacement) (store : Store) : Prop :=
  ∀ (α : Type) [Operand α] (before after : Reference α), replaces α before after →
    after.resolve store = before.resolve store

theorem Reference.resolved_keepsValues (store : Store) :
    Replacement.KeepsValues (Resolved store) store := by
  intro α _ before after replaced
  cases replaced with
  | kept => rfl
  | constant resolved => exact resolved.symm

theorem Reference.filled_keepsValues (store : Store) :
    Replacement.KeepsValues Filled store := by
  intro α _ before after replaced
  cases replaced with
  | kept => rfl
  | absent => rfl

section Replaced
variable (replaces : Replacement)

/-- A condition with some of its operands replaced. -/
inductive Condition.Replaced : Condition → Condition → Prop where
  | bool {a b a' b' : Reference Bool} (equality : Equality)
      (first : replaces Bool a a') (second : replaces Bool b b') :
    Replaced (.bool a equality b) (.bool a' equality b')
  | number {a b a' b' : Reference Number} (comparison : Comparison)
      (first : replaces Number a a') (second : replaces Number b b') :
    Replaced (.number a comparison b) (.number a' comparison b')
  | vector {a b a' b' : Reference Vector} (equality : Equality)
      (first : replaces Vector a a') (second : replaces Vector b b') :
    Replaced (.vector a equality b) (.vector a' equality b')
  | scripted {numberA numberB numberA' numberB' : Reference Number}
      {boolA boolB boolA' boolB' : Reference Bool} (expression : String)
      (firstNumber : replaces Number numberA numberA')
      (secondNumber : replaces Number numberB numberB')
      (firstBool : replaces Bool boolA boolA') (secondBool : replaces Bool boolB boolB') :
    Replaced (.scripted ⟨expression, numberA, numberB, boolA, boolB⟩)
      (.scripted ⟨expression, numberA', numberB', boolA', boolB'⟩)

/-- A formula with some of its operands replaced. -/
inductive Formula.Replaced : Formula → Formula → Prop where
  | bool {a b a' b' : Reference Bool} (operator : Connective)
      (first : replaces Bool a a') (second : replaces Bool b b') :
    Replaced (.bool operator a b) (.bool operator a' b')
  | number {a b a' b' : Reference Number} (operator : Arithmetic) (rounding : Rounding)
      (first : replaces Number a a') (second : replaces Number b b') :
    Replaced (.number operator a b rounding) (.number operator a' b' rounding)
  | scripted {b c b' c' : Reference Number} (expression : String) (rounding : Rounding)
      (second : replaces Number b b') (third : replaces Number c c') :
    Replaced (.scripted expression b c rounding) (.scripted expression b' c' rounding)
  | vector {a b a' b' : Reference Vector} (operator : Arithmetic) (rounding : Rounding)
      (first : replaces Vector a a') (second : replaces Vector b b') :
    Replaced (.vector operator a b rounding) (.vector operator a' b' rounding)

/-- An operation with some of its operands, or its raise flag, replaced. -/
structure Operation.Replaced (before after : Operation) : Prop where
  target : after.target = before.target
  formula : before.formula.Replaced replaces after.formula
  raiseFlag : replaces Bool before.raiseFlag after.raiseFlag

/-- Lists of operations with some references replaced. -/
abbrev ListsReplaced : List (List Operation) → List (List Operation) → Prop :=
  List.Forall₂ (List.Forall₂ (Operation.Replaced replaces))

abbrev Gate.Replaced : Gate → Gate → Prop :=
  Option.Rel (List.Forall₂ (Condition.Replaced replaces))

structure Rule.Replaced (before after : Rule) : Prop where
  name : after.name = before.name
  gate : Gate.Replaced replaces before.gate after.gate
  operations : ListsReplaced replaces before.operations after.operations

structure RuleSet.Replaced (before after : RuleSet) : Prop where
  version : after.version = before.version
  script : after.script = before.script
  definitions : after.definitions = before.definitions
  rules : List.Forall₂ (Rule.Replaced replaces) before.rules after.rules

/-- A call with some of the references in it replaced. -/
inductive Call.Replaced : Call → Call → Prop where
  | kept (call : Call) : Replaced call call
  | execute {before after : Operation} (evaluator : Evaluator)
      (operation : before.Replaced replaces after) :
    Replaced (.execute before evaluator) (.execute after evaluator)
  | batch {before after : Gate} {lists lists' : List (List Operation)} (evaluator : Evaluator)
      (gate : before.Replaced replaces after) (operations : ListsReplaced replaces lists lists') :
    Replaced (.batch before lists evaluator) (.batch after lists' evaluator)
  | run {before after : Rule} (evaluator : Evaluator) (rule : before.Replaced replaces after) :
    Replaced (.run before evaluator) (.run after evaluator)

end Replaced

theorem Reference.resolveWide_of_resolve {before after : Reference Number} {store : Store}
    (same : after.resolve store = before.resolve store) :
    after.resolveWide store = before.resolveWide store := by
  simp only [resolveWide, same]

section SameValues
variable {replaces : Replacement} {store : Store} (keeps : replaces.KeepsValues store)
include keeps

theorem scriptedBindings_of_replaced (target : VariableId) {b c b' c' : Reference Number}
    (second : replaces Number b b') (third : replaces Number c c') :
    scriptedBindings store target b' c' = scriptedBindings store target b c := by
  simp only [scriptedBindings, Reference.resolveWide_of_resolve (keeps _ _ _ second),
    Reference.resolveWide_of_resolve (keeps _ _ _ third)]

theorem ScriptedCondition.bindings_of_replaced (expression : String)
    {numberA numberB numberA' numberB' : Reference Number}
    {boolA boolB boolA' boolB' : Reference Bool} (firstNumber : replaces Number numberA numberA')
    (secondNumber : replaces Number numberB numberB')
    (firstBool : replaces Bool boolA boolA') (secondBool : replaces Bool boolB boolB') :
    bindings ⟨expression, numberA', numberB', boolA', boolB'⟩ store =
      bindings ⟨expression, numberA, numberB, boolA, boolB⟩ store := by
  simp only [bindings, Reference.resolveWide_of_resolve (keeps _ _ _ firstNumber),
    Reference.resolveWide_of_resolve (keeps _ _ _ secondNumber), keeps _ _ _ firstBool,
    keeps _ _ _ secondBool]

namespace Condition.Replaced
variable {before after : Condition} (replaced : before.Replaced replaces after)
  (evaluator : Evaluator)
include replaced

theorem evaluate_eq : after.evaluate evaluator store = before.evaluate evaluator store := by
  cases replaced with
  | bool equality first second =>
    simp only [evaluate, Action.read, keeps _ _ _ first, keeps _ _ _ second]
  | number comparison first second =>
    have sameFirst := Reference.resolveWide_of_resolve (keeps _ _ _ first)
    have sameSecond := Reference.resolveWide_of_resolve (keeps _ _ _ second)
    simp only [evaluate, Action.read, sameFirst, sameSecond]
  | vector equality first second =>
    simp only [evaluate, Action.read, keeps _ _ _ first, keeps _ _ _ second]
  | scripted expression firstNumber secondNumber firstBool secondBool =>
    have same := ScriptedCondition.bindings_of_replaced keeps expression firstNumber secondNumber
      firstBool secondBool
    refine Action.bind_congr_at ?_ fun _ _ => rfl
    simp only [Action.read, same]

theorem validate_eq : after.validate evaluator store = before.validate evaluator store := by
  cases replaced with
  | bool equality first second =>
    simp only [validate, keeps _ _ _ first, keeps _ _ _ second]
  | number comparison first second =>
    simp only [validate, keeps _ _ _ first, keeps _ _ _ second]
  | vector equality first second =>
    simp only [validate, keeps _ _ _ first, keeps _ _ _ second]
  | scripted expression firstNumber secondNumber firstBool secondBool =>
    have same := ScriptedCondition.bindings_of_replaced keeps expression firstNumber secondNumber
      firstBool secondBool
    simp only [validate, same]

end Condition.Replaced

namespace Formula.Replaced
variable {before after : Formula} (replaced : before.Replaced replaces after)
  (evaluator : Evaluator) (target : VariableId)
include replaced

theorem compute_eq :
    after.compute evaluator target store = before.compute evaluator target store := by
  cases replaced with
  | bool operator first second =>
    simp only [compute, Action.read, keeps _ _ _ first, keeps _ _ _ second]
  | number operator rounding first second =>
    simp only [compute, Action.read, keeps _ _ _ first, keeps _ _ _ second]
  | scripted expression rounding second third =>
    refine Action.bind_congr_at rfl fun _ _ => Action.bind_congr_at ?_ fun _ _ => rfl
    change Action.read (scriptedBindings · target _ _) store =
      Action.read (scriptedBindings · target _ _) store
    simp only [Action.read, scriptedBindings_of_replaced keeps target second third]
  | vector operator rounding first second =>
    simp only [compute, Action.read, keeps _ _ _ first, keeps _ _ _ second]

theorem validate_eq :
    after.validate evaluator store target = before.validate evaluator store target := by
  cases replaced with
  | bool operator first second => simp only [validate, keeps _ _ _ first, keeps _ _ _ second]
  | number operator rounding first second =>
    simp only [validate, keeps _ _ _ first, keeps _ _ _ second]
  | scripted expression rounding second third =>
    simp only [validate, scriptedBindings_of_replaced keeps target second third]
  | vector operator rounding first second =>
    simp only [validate, keeps _ _ _ first, keeps _ _ _ second]

end Formula.Replaced

namespace Operation.Replaced
variable {before after : Operation} (replaced : before.Replaced replaces after)
  (evaluator : Evaluator)
include replaced

theorem compute_eq : after.compute evaluator store = before.compute evaluator store := by
  simp only [compute, replaced.target,
    replaced.formula.compute_eq keeps evaluator before.target]

/-- The raise flag is looked up in the store that the formula was worked out in, so a
reference to the target itself may be replaced like any other. -/
theorem execute_eq : after.execute evaluator store = before.execute evaluator store := by
  refine Action.bind_congr_at (replaced.compute_eq keeps evaluator) fun _ _ => ?_
  rw [show (before.compute evaluator store).store = store from
    (before.formula.quiet_compute evaluator before.target).store store, replaced.target]
  refine Action.bind_congr_at ?_ fun _ _ => rfl
  simp only [Action.read, keeps _ _ _ replaced.raiseFlag]

theorem validate_eq : after.validate evaluator store = before.validate evaluator store := by
  simp only [validate, replaced.target, keeps _ _ _ replaced.raiseFlag,
    replaced.formula.validate_eq keeps evaluator before.target]

end Operation.Replaced

end SameValues

theorem Formula.Replaced.family_eq {replaces : Replacement} {before after : Formula}
    (replaced : before.Replaced replaces after) : after.family = before.family := by
  cases replaced <;> rfl

theorem Gate.conditions_of_replaced {replaces : Replacement} {before after : Gate}
    (replaced : before.Replaced replaces after) :
    List.Forall₂ (Condition.Replaced replaces) (before.getD []) (after.getD []) := by
  cases replaced with
  | none => exact .nil
  | some conditions => exact conditions

theorem forM_eq_of_forall₂ {related : α → β → Prop} {check : α → Except ε Unit}
    {other : β → Except ε Unit} (same : ∀ item twin, related item twin → other twin = check item)
    {items : List α} {twins : List β} (pairs : List.Forall₂ related items twins) :
    twins.forM other = items.forM check := by
  induction pairs with
  | nil => rfl
  | @cons item twin items twins head tail ih =>
    change (other twin >>= fun _ => twins.forM other) = (check item >>= fun _ => items.forM check)
    rw [same item twin head, ih]

section Everywhere
variable {replaces : Replacement} (keeps : ∀ store, replaces.KeepsValues store)
  (evaluator : Evaluator)
include keeps

theorem Condition.allHold_of_replaced {before after : List Condition}
    (replaced : List.Forall₂ (Condition.Replaced replaces) before after) :
    allHold evaluator after = allHold evaluator before := by
  induction replaced with
  | nil => rfl
  | cons head tail ih =>
    have same := funext fun store => head.evaluate_eq (keeps store) evaluator
    simp only [allHold, same, ih]

theorem Gate.passes_of_replaced {before after : Gate} (replaced : before.Replaced replaces after) :
    after.passes evaluator = before.passes evaluator := by
  cases replaced with
  | none => rfl
  | some conditions => exact Condition.allHold_of_replaced keeps evaluator conditions

namespace Batch

theorem runOne_of_replaced {before after : Operation} (replaced : before.Replaced replaces after)
    (list index : Nat) (report : Report) :
    runOne evaluator list index after report = runOne evaluator list index before report := by
  have same := funext fun store => replaced.execute_eq (keeps store) evaluator
  simp only [runOne, same, replaced.formula.family_eq]

theorem runList_of_replaced {before after : List Operation}
    (replaced : List.Forall₂ (Operation.Replaced replaces) before after) (list index : Nat)
    (report : Report) :
    runList evaluator list index after report = runList evaluator list index before report := by
  induction replaced generalizing index report with
  | nil => rfl
  | cons head tail ih => simp only [runList, runOne_of_replaced keeps evaluator head, ih]

theorem runLists_of_replaced {before after : List (List Operation)}
    (replaced : ListsReplaced replaces before after) (list : Nat) (report : Report) :
    runLists evaluator list after report = runLists evaluator list before report := by
  induction replaced generalizing list report with
  | nil => rfl
  | cons head tail ih => simp only [runLists, runList_of_replaced keeps evaluator head, ih]

theorem run_of_replaced {gate gate' : Gate} {lists lists' : List (List Operation)}
    (gates : gate.Replaced replaces gate') (operations : ListsReplaced replaces lists lists') :
    run gate' lists' evaluator = run gate lists evaluator := by
  simp only [run, Gate.passes_of_replaced keeps evaluator gates,
    runLists_of_replaced keeps evaluator operations]

end Batch

namespace Rule.Replaced
variable {before after : Rule} (replaced : before.Replaced replaces after)
include replaced

theorem isAvailable_eq : after.isAvailable evaluator = before.isAvailable evaluator :=
  Gate.passes_of_replaced keeps evaluator replaced.gate

theorem run_eq : after.run evaluator = before.run evaluator := by
  simp only [run, replaced.name,
    Batch.run_of_replaced keeps evaluator replaced.gate replaced.operations]

theorem validate_eq (store : Store) :
    after.validate evaluator store = before.validate evaluator store := by
  have gates := forM_eq_of_forall₂ (fun _ _ condition =>
    condition.validate_eq (keeps store) evaluator) (Gate.conditions_of_replaced replaced.gate)
  have lists := forM_eq_of_forall₂ (fun _ _ operation =>
    operation.validate_eq (keeps store) evaluator)
    (List.rel_flatten replaced.operations)
  simp only [validate, Rule.conditions, gates, lists]

end Rule.Replaced

theorem RuleSet.validateRules_of_replaced {before after : List Rule}
    (replaced : List.Forall₂ (Rule.Replaced replaces) before after) (store : Store)
    (seen : List String) :
    validateRules evaluator store seen after = validateRules evaluator store seen before := by
  induction replaced generalizing seen with
  | nil => rfl
  | cons head tail ih =>
    simp only [validateRules, head.name, head.validate_eq keeps evaluator store, ih]

theorem RuleSet.Replaced.validate_eq {before after : RuleSet}
    (replaced : before.Replaced replaces after) :
    after.validate evaluator = before.validate evaluator := by
  simp only [validate, buildStore, replaced.definitions,
    validateRules_of_replaced keeps evaluator replaced.rules]

end Everywhere

/-- The report of a call, if it is one of a batch. -/
def Call.report? (store : Store) : Call → Option (Except RuleError Report)
  | .batch gate lists evaluator => some (Batch.run gate lists evaluator store).result
  | .run rule evaluator => some (rule.run evaluator store).result
  | _ => none

/-- What happens during a call. -/
def Call.events (store : Store) : Call → List Event
  | .raise id => (Action.raise id store).events
  | .execute operation evaluator => (operation.execute evaluator store).events
  | .batch gate lists evaluator => (Batch.run gate lists evaluator store).events
  | .run rule evaluator => (rule.run evaluator store).events
  | _ => []

/-- What calls show to the outside, made one after another: the report of each, the store
that it leaves behind, and what happened meanwhile. -/
def Store.history (store : Store) :
    List Call → List (Option (Except RuleError Report) × Store × List Event)
  | [] => []
  | call :: rest =>
    (call.report? store, call.after store, call.events store) :: (call.after store).history rest

section Everywhere
variable {replaces : Replacement} (keeps : ∀ store, replaces.KeepsValues store)
include keeps

theorem Call.Replaced.shows_eq {before after : Call} (replaced : before.Replaced replaces after)
    (store : Store) :
    after.report? store = before.report? store ∧ after.after store = before.after store ∧
      after.events store = before.events store := by
  cases replaced with
  | kept => exact ⟨rfl, rfl, rfl⟩
  | execute evaluator operation =>
    have same := operation.execute_eq (keeps store) evaluator
    exact ⟨rfl, congrArg Outcome.store same, congrArg Outcome.events same⟩
  | batch evaluator gate operations =>
    have same := Batch.run_of_replaced keeps evaluator gate operations
    simp only [Call.report?, Call.after, Call.events, same, and_self]
  | run evaluator rule =>
    have same := rule.run_eq keeps evaluator
    simp only [Call.report?, Call.after, Call.events, same, and_self]

theorem Store.history_of_replaced {before after : List Call}
    (replaced : List.Forall₂ (Call.Replaced replaces) before after) (store : Store) :
    store.history after = store.history before := by
  induction replaced generalizing store with
  | nil => rfl
  | cons head tail ih =>
    obtain ⟨report, left, events⟩ := head.shows_eq keeps store
    simp only [history, report, left, events, ih]

end Everywhere

/-- Only the values of references count. Where references are exchanged for the constants
that they resolve to in a store, conditions and operations come to the same result there,
leave the same store behind and let the same happen. References that are not linked to
anything may be exchanged for constants everywhere: rule sets are checked alike and rules
answer and run alike, in any store and throughout any history. They never make a precision
higher, a vector longer, or floats of integers. -/
theorem replaced_references_unnoticed :
    (∀ (store : Store) (evaluator : Evaluator),
      (∀ before after : Condition, before.Replaced (Reference.Resolved store) after →
        after.evaluate evaluator store = before.evaluate evaluator store) ∧
      (∀ before after : Operation, before.Replaced (Reference.Resolved store) after →
        after.compute evaluator store = before.compute evaluator store ∧
          after.execute evaluator store = before.execute evaluator store)) ∧
    (∀ before after : RuleSet, before.Replaced Reference.Filled after →
      after.buildStore = before.buildStore ∧ after.evaluator = before.evaluator ∧
      ∀ evaluator : Evaluator, after.validate evaluator = before.validate evaluator ∧
        List.Forall₂ (fun rule other => other.validate evaluator = rule.validate evaluator ∧
          other.isAvailable evaluator = rule.isAvailable evaluator ∧
          other.run evaluator = rule.run evaluator) before.rules after.rules) ∧
    (∀ (store : Store) (calls others : List Call),
      List.Forall₂ (Call.Replaced Reference.Filled) calls others →
        store.history others = store.history calls) ∧
    (∀ number : Number, number.kind.merge (Operand.absent : Number).kind = number.kind ∧
      (Operand.absent : Number).kind.merge number.kind = number.kind) ∧
    (∀ vector : Vector, vector.shape.merge (Operand.absent : Vector).shape = vector.shape ∧
      (Operand.absent : Vector).shape.merge vector.shape = vector.shape) := by
  have filled := Reference.filled_keepsValues
  refine ⟨?_, ?_, ?_, ?_, ?_⟩
  · intro store evaluator
    have keeps := Reference.resolved_keepsValues store
    refine ⟨fun before after replaced => replaced.evaluate_eq keeps evaluator, ?_⟩
    intro before after replaced
    exact ⟨replaced.compute_eq keeps evaluator, replaced.execute_eq keeps evaluator⟩
  · intro before after replaced
    have sameStore : after.buildStore = before.buildStore := by
      simp only [RuleSet.buildStore, replaced.definitions]
    have sameEvaluator : after.evaluator = before.evaluator := by
      simp only [RuleSet.evaluator, replaced.script]
    refine ⟨sameStore, sameEvaluator, fun evaluator => ?_⟩
    refine ⟨replaced.validate_eq filled evaluator, replaced.rules.imp fun rule other twins => ?_⟩
    exact ⟨funext (twins.validate_eq filled evaluator), twins.isAvailable_eq filled evaluator,
      twins.run_eq filled evaluator⟩
  · intro store calls others replaced
    exact Store.history_of_replaced filled replaced store
  · intro number
    cases number <;> exact ⟨rfl, rfl⟩
  · intro vector
    cases vector <;> exact ⟨rfl, rfl⟩

/-- A switch that is told of being turned off because it was on, and a count that nothing is
added to while it is above nothing, with references and with constants. -/
theorem replaced_references_unnoticed_switch :
    let switch : VariableId := ⟨0⟩
    let count : VariableId := ⟨1⟩
    let store := ((Store.empty.adding ⟨"switch", .bool true⟩).adding
      ⟨"count", .number (.int 7)⟩).observing switch "lamp"
    let toggle : Operation := ⟨switch, .bool .not (.bound switch) .unbound, .bound switch⟩
    let constant : Operation :=
      ⟨switch, .bool .not (.literal true) (.literal false), .literal true⟩
    let rule : Rule := ⟨"count", some [.number (.bound count) .greater .unbound],
      [[⟨count, .number .add (.bound count) .unbound .floor, .unbound⟩]]⟩
    let filled : Rule := ⟨"count", some [.number (.bound count) .greater (.literal (.int 0))],
      [[⟨count, .number .add (.bound count) (.literal (.int 0)) .floor, .literal false⟩]]⟩
    let evaluator := engine .default
    constant.execute evaluator store = toggle.execute evaluator store ∧
      (toggle.execute evaluator store).notices = [⟨"lamp", ⟨"switch", .bool false⟩⟩] ∧
      store.history [.run filled evaluator] = store.history [.run rule evaluator] := by
  intro switch count store toggle constant rule filled evaluator
  obtain ⟨resolved, -, histories, -⟩ := replaced_references_unnoticed
  have switched : Operation.Replaced (Reference.Resolved store) toggle constant :=
    ⟨rfl, .bool .not (.constant rfl) (.constant rfl), .constant rfl⟩
  have counted : Rule.Replaced Reference.Filled rule filled :=
    ⟨rfl, .some (.cons (.number .greater (.kept _) .absent) .nil),
      .cons (.cons ⟨rfl, .number .add .floor (.kept _) .absent, .absent⟩ .nil) .nil⟩
  have told : (toggle.execute evaluator store).notices =
      [⟨"lamp", ⟨"switch", .bool false⟩⟩] := by cbv
  refine ⟨((resolved store evaluator).2 toggle constant switched).2, told, ?_⟩
  exact histories store _ _ (.cons (.run evaluator counted) .nil)

end Rulebook
