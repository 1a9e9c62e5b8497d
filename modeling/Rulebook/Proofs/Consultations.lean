import Rulebook.Proofs.BatchEvents
import Rulebook.Proofs.Numeric.Conversions

/-! What an evaluator is asked in the course of a batch, and in which order. A gate asks for
its scripted conditions as far as it gets, and then the scripted operations ask in turn.
The answers are all that a batch takes from its evaluator. -/
namespace Rulebook
open Numeric Script

/-- A number, shown in 64 bits. Whole numbers count in units and floats in quanta, of
which one is as much as it was; infinities keep their sign, and a NaN is the one NaN that
conversions make. -/
inductive Number.Widened : Number → Double → Prop
  | int {value : Int32} {wide : Double}
      (counts : wide.read =
        .finite (decide (value.toInt < 0)) (value.toInt.natAbs * Format.double.unit)) :
      Widened (.int value) wide
  | finite {value : Single} {wide : Double} {negative : Bool} {quanta wideQuanta : Nat}
      (counts : value.read = .finite negative quanta)
      (wideCounts : wide.read = .finite negative wideQuanta)
      (same : wideQuanta * Format.single.unit = quanta * Format.double.unit) :
      Widened (.float value) wide
  | infinite {value : Single} {wide : Double} {negative : Bool}
      (grows : value.read = .infinite negative) (wideGrows : wide.read = .infinite negative) :
      Widened (.float value) wide
  | nan {value : Single} (isNaN : value.isNaN = true) : Widened (.float value) .nan
  | double (value : Double) : Widened (.double value) value

namespace Number

theorem widened_widen (number : Number) : number.Widened number.widen := by
  cases number with
  | int value => exact .int (Binary.read_ofInt Format.double_reaches (Double.natAbs_lt value))
  | double value => exact .double value
  | float value =>
    cases isNaN : value.isNaN with
    | true =>
      rw [widen, Binary.convert_of_isNaN isNaN]
      exact .nan isNaN
    | false =>
      obtain finite | infinite := (Binary.isNaN_eq_false_iff.mp isNaN).lt_or_eq
      · obtain ⟨wide, wideFinite, same⟩ := Format.exists_double finite
        refine .finite (if_pos finite) ?_ same
        rw [widen, Binary.convert_eq finite wideFinite same]
        exact if_pos wideFinite
      · obtain ⟨negative, rank, rank_lt⟩ := value
        cases infinite
        refine .infinite (Binary.read_infinity negative) ?_
        exact (congrArg _ (Binary.convert_infinity negative)).trans (Binary.read_infinity negative)

theorem Widened.unique {number : Number} {wide other : Double} (widened : number.Widened wide)
    (otherwise : number.Widened other) : wide = other := by
  cases widened with
  | int counts =>
    cases otherwise with
    | int otherCounts => exact Binary.eq_of_read (counts.trans otherCounts.symm) (by simp [counts])
  | finite counts wideCounts same =>
    cases otherwise with
    | finite otherCounts otherWide otherSame =>
      cases counts.symm.trans otherCounts
      have equal := Nat.eq_of_mul_eq_mul_right Format.single.unit_pos (same.trans otherSame.symm)
      exact Binary.eq_of_read (wideCounts.trans (equal ▸ otherWide.symm)) (by simp [wideCounts])
    | infinite grows => nomatch counts.symm.trans grows
    | nan isNaN => nomatch counts.symm.trans (Binary.read_of_isNaN isNaN)
  | infinite grows wideGrows =>
    cases otherwise with
    | finite counts => nomatch counts.symm.trans grows
    | infinite otherGrows otherWide =>
      cases grows.symm.trans otherGrows
      exact Binary.eq_of_read (wideGrows.trans otherWide.symm) (by simp [wideGrows])
    | nan isNaN => nomatch grows.symm.trans (Binary.read_of_isNaN isNaN)
  | nan isNaN =>
    cases otherwise with
    | finite counts => nomatch counts.symm.trans (Binary.read_of_isNaN isNaN)
    | infinite grows => nomatch grows.symm.trans (Binary.read_of_isNaN isNaN)
    | nan => rfl
  | double value =>
    cases otherwise with
    | double => rfl

/-- Widening is the only way to show a number in 64 bits. -/
theorem widened_iff {number : Number} {wide : Double} :
    number.Widened wide ↔ wide = number.widen :=
  ⟨fun widened => widened.unique number.widened_widen, fun same => same ▸ number.widened_widen⟩

end Number

/-- An expression put to an evaluator, with the names that it may mention. -/
structure Consultation where
  expression : String
  bindings : Bindings
deriving DecidableEq

/-- What an evaluator is asked by an event, if it is asked anything. -/
def Event.consultation? : Event → Option Consultation
  | .consulted expression bindings => some ⟨expression, bindings⟩
  | .notified _ | .logged _ => none

/-- What evaluators are asked, in order. -/
def Outcome.consultations (outcome : Outcome α) : List Consultation :=
  outcome.events.filterMap Event.consultation?

/-- What a scripted condition asks in a store where its operands can be looked up. -/
def ScriptedCondition.consultation? (store : Store) (question : ScriptedCondition) :
    Option Consultation :=
  match question.numberA.resolve store, question.numberB.resolve store,
      question.boolA.resolve store, question.boolB.resolve store with
  | .ok numberA, .ok numberB, .ok boolA, .ok boolB =>
    some ⟨question.expression, ⟨[("nA", .number numberA.widen), ("nB", .number numberB.widen),
      ("bA", .boolean boolA), ("bB", .boolean boolB)]⟩⟩
  | _, _, _, _ => none

namespace Condition

/-- What a condition asks in a store; one that is not scripted asks nothing. -/
def consultation? (store : Store) : Condition → Option Consultation
  | .scripted question => question.consultation? store
  | .bool .. | .number .. | .vector .. => none

/-- The conditions that a gate gets to: up to the first that does not hold or fails, which
is the last of them. -/
def asked (evaluator : Evaluator) (store : Store) : List Condition → List Condition
  | [] => []
  | condition :: rest =>
    match (condition.evaluate evaluator store).result with
    | .ok true => condition :: asked evaluator store rest
    | .ok false | .error _ => [condition]

end Condition

namespace Operation

/-- What an operation asks in a store: nothing unless it is scripted, its target holds a
number, and its operands can be looked up. -/
def consultation? (store : Store) (operation : Operation) : Option Consultation :=
  match operation.formula, store.get operation.target with
  | .scripted expression b c _, .ok ⟨_, .number current⟩ =>
    match b.resolve store, c.resolve store with
    | .ok b, .ok c => some ⟨expression, ⟨[("nA", .number current.widen),
        ("nB", .number b.widen), ("nC", .number c.widen)]⟩⟩
    | _, _ => none
  | _, _ => none

/-- What operations ask that are carried out in turn, each in the store that those before
it left behind. -/
def consultations (evaluator : Evaluator) (store : Store) : List Operation → List Consultation
  | [] => []
  | operation :: rest =>
    (operation.consultation? store).toList ++
      consultations evaluator (operation.execute evaluator store).store rest

end Operation

namespace Action

theorem consultations_bind_of_ok {action : Action α} {next : α → Action β}
    (ran : (action store).result = .ok value) :
    ((action >>= next) store).consultations =
      (action store).consultations ++ (next value (action store).store).consultations :=
  events_bind_of_ok Event.consultation? ran

theorem consultations_bind_of_error {action : Action α} {next : α → Action β}
    (ran : (action store).result = .error error) :
    ((action >>= next) store).consultations = (action store).consultations :=
  congrArg _ (events_bind_of_error ran)

/-- Operands are looked up and an expression is put to the evaluator; nothing is asked if
an operand cannot be looked up. -/
theorem consultations_ask {view : Store → Except RuleError Bindings} {evaluator : Evaluator}
    {expression : String} {next : Datum → Action β}
    (rest : ∀ value store, (next value store).consultations = []) (store : Store) :
    ((read view >>= fun bindings => consult evaluator expression bindings >>= next)
        store).consultations =
      ((view store).toOption.map (Consultation.mk expression)).toList := by
  rw [ask_apply]
  cases view store with
  | error error => rfl
  | ok bindings =>
    simp only
    cases evaluator.evaluate expression bindings with
    | error error => rfl
    | ok value => exact congrArg _ (rest value store)

/-- The answers to what it asks are all that an action takes from its evaluator. -/
def TakesAnswers (action : Evaluator → Action α) : Prop :=
  ∀ (store : Store) (evaluator other : Evaluator),
    (∀ asked ∈ (action evaluator store).consultations,
      other.evaluate asked.expression asked.bindings =
        evaluator.evaluate asked.expression asked.bindings) →
    action other store = action evaluator store

namespace TakesAnswers

theorem const (action : Action α) : TakesAnswers fun _ => action :=
  fun _ _ _ _ => rfl

theorem consult (expression : String) (bindings : Bindings) :
    TakesAnswers fun evaluator => Action.consult evaluator expression bindings := by
  intro store evaluator other agree
  have same := agree ⟨expression, bindings⟩ (List.mem_singleton.mpr rfl)
  simp only [Action.consult, same]

theorem bind {action : Evaluator → Action α} {next : Evaluator → α → Action β}
    (first : TakesAnswers action)
    (rest : ∀ value, TakesAnswers fun evaluator => next evaluator value) :
    TakesAnswers fun evaluator => action evaluator >>= next evaluator := by
  intro store evaluator other agree
  have agreeFirst : ∀ asked ∈ (action evaluator store).consultations,
      other.evaluate asked.expression asked.bindings =
        evaluator.evaluate asked.expression asked.bindings := by
    intro asked member
    refine agree asked ?_
    cases ran : (action evaluator store).result with
    | error error => rwa [consultations_bind_of_error ran]
    | ok value =>
      rw [consultations_bind_of_ok ran]
      exact List.mem_append_left _ member
  refine bind_congr_at (first store evaluator other agreeFirst) fun value ran => ?_
  refine rest value _ evaluator other fun asked member => agree asked ?_
  rw [consultations_bind_of_ok ran]
  exact List.mem_append_right _ member

theorem attempt {action : Evaluator → Action α} (takes : TakesAnswers action) :
    TakesAnswers fun evaluator => Action.attempt (action evaluator) := by
  intro store evaluator other agree
  simp only [Action.attempt, takes store evaluator other agree]

end TakesAnswers

end Action

open Rulebook.Action

theorem ScriptedCondition.consultation?_of_bindings (question : ScriptedCondition) (store : Store) :
    question.consultation? store =
      (question.bindings store).toOption.map (Consultation.mk question.expression) := by
  unfold consultation? bindings
  simp only [Reference.resolveWide]
  cases question.numberA.resolve store with
  | error error => rfl
  | ok numberA =>
    cases question.numberB.resolve store with
    | error error => rfl
    | ok numberB =>
      cases question.boolA.resolve store with
      | error error => rfl
      | ok boolA =>
        cases question.boolB.resolve store with
        | error error => rfl
        | ok boolB => rfl

namespace Condition

theorem consultations_evaluate (evaluator : Evaluator) (store : Store) (condition : Condition) :
    (condition.evaluate evaluator store).consultations =
      (condition.consultation? store).toList := by
  cases condition with
  | bool a equality b => rfl
  | number a comparison b => rfl
  | vector a equality b => rfl
  | scripted question =>
    rw [consultation?, question.consultation?_of_bindings]
    refine consultations_ask (fun value store => ?_) store
    cases value <;> rfl

private theorem filterMap_cons_toList (part : α → Option β) (head : α) (rest : List α) :
    (head :: rest).filterMap part = (part head).toList ++ rest.filterMap part := by
  simp only [List.filterMap_eq_flatMap_toList, List.flatMap_cons]

theorem consultations_allHold (evaluator : Evaluator) (store : Store)
    (conditions : List Condition) :
    (allHold evaluator conditions store).consultations =
      (asked evaluator store conditions).filterMap (consultation? store) := by
  induction conditions with
  | nil => rfl
  | cons condition rest ih =>
    have first := consultations_evaluate evaluator store condition
    have unchanged := (condition.quiet_evaluate evaluator).store store
    have single : [condition].filterMap (consultation? store) =
        (condition.consultation? store).toList := by
      rw [filterMap_cons_toList, List.filterMap_nil, List.append_nil]
    rw [allHold, asked]
    cases ran : (condition.evaluate evaluator store).result with
    | error error => rw [consultations_bind_of_error ran, first, single]
    | ok holds =>
      rw [consultations_bind_of_ok ran, first, unchanged]
      cases holds with
      | false => exact (List.append_nil _).trans single.symm
      | true => exact (congrArg _ ih).trans (filterMap_cons_toList _ _ _).symm

theorem takesAnswers_evaluate (condition : Condition) :
    TakesAnswers fun evaluator => condition.evaluate evaluator := by
  cases condition with
  | bool a equality b => exact .const _
  | number a comparison b => exact .const _
  | vector a equality b => exact .const _
  | scripted question =>
    refine .bind (.const _) fun bindings => .bind (.consult _ _) fun value => ?_
    exact .const _

theorem takesAnswers_allHold (conditions : List Condition) :
    TakesAnswers fun evaluator => allHold evaluator conditions := by
  induction conditions with
  | nil => exact .const _
  | cons condition rest ih =>
    refine .bind condition.takesAnswers_evaluate fun holds => ?_
    cases holds with
    | true => exact ih
    | false => exact .const _

end Condition

namespace Gate

theorem consultations_passes (evaluator : Evaluator) (store : Store) (gate : Gate) :
    (gate.passes evaluator store).consultations =
      (Condition.asked evaluator store (gate.getD [])).filterMap
        (Condition.consultation? store) := by
  cases gate with
  | none => rfl
  | some conditions => exact Condition.consultations_allHold evaluator store conditions

theorem takesAnswers_passes (gate : Gate) :
    TakesAnswers fun evaluator => gate.passes evaluator := by
  cases gate with
  | none => exact .const _
  | some conditions => exact Condition.takesAnswers_allHold conditions

end Gate

namespace Operation

theorem consultation?_of_bindings {store : Store} {operation : Operation} {name : String}
    {current : Number} {expression : String} {b c : Reference Number} {rounding : Rounding}
    (found : store.get operation.target = .ok ⟨name, .number current⟩)
    (scripted : operation.formula = .scripted expression b c rounding) :
    operation.consultation? store =
      (scriptedBindings store operation.target b c).toOption.map (Consultation.mk expression) := by
  have now : (Reference.bound operation.target).resolveWide store = .ok current.widen := by
    simp only [Reference.resolveWide, Reference.resolve, found]
    rfl
  simp only [consultation?, found, scripted, scriptedBindings, now]
  simp only [Reference.resolveWide]
  cases b.resolve store with
  | error error => rfl
  | ok b =>
    cases c.resolve store with
    | error error => rfl
    | ok c => rfl

/-- What is asked is asked before the raise flag is looked up and before anything is
written. -/
theorem consultations_compute (evaluator : Evaluator) (store : Store) (operation : Operation) :
    (operation.compute evaluator store).consultations = (operation.consultation? store).toList := by
  unfold compute
  cases formula : operation.formula with
  | bool operator a b => simp only [consultation?, formula]; rfl
  | number operator a b rounding => simp only [consultation?, formula]; rfl
  | vector operator a b rounding => simp only [consultation?, formula]; rfl
  | scripted expression b c rounding =>
    have unasked {error : RuleError}
        (refused : store.numberTarget operation.target = .error error) :
        (Formula.compute evaluator operation.target (.scripted expression b c rounding)
          store).consultations = [] := by
      have stopped : (Action.read (·.numberTarget operation.target) store).result = .error error :=
        refused
      exact consultations_bind_of_error stopped
    cases found : store.get operation.target with
    | error error =>
      rw [unasked (by rw [Store.numberTarget, found]; rfl)]
      simp only [consultation?, formula, found]
      rfl
    | ok var =>
      obtain ⟨name, value⟩ := var
      cases value with
      | bool value =>
        rw [unasked (by rw [Store.numberTarget, found]; rfl)]
        simp only [consultation?, formula, found]
        rfl
      | vector value =>
        rw [unasked (by rw [Store.numberTarget, found]; rfl)]
        simp only [consultation?, formula, found]
        rfl
      | number current =>
        have targeted : (Action.read (·.numberTarget operation.target) store).result =
            .ok (name, current.kind) := by
          change store.numberTarget operation.target = _
          rw [Store.numberTarget, found]
          rfl
        rw [consultation?_of_bindings found formula, Formula.compute,
          consultations_bind_of_ok targeted]
        refine consultations_ask (fun value store => ?_) store
        cases value <;> rfl

theorem consultations_execute (evaluator : Evaluator) (store : Store) (operation : Operation) :
    (operation.execute evaluator store).consultations = (operation.consultation? store).toList := by
  have asked := operation.consultations_compute evaluator store
  rcases operation.execute_cases evaluator store with
    ⟨error, -, ended⟩ | ⟨value, raised, after, var, -, -, -, -, ended⟩
  · rw [ended]
    exact asked
  · rw [ended, ← asked]
    cases raised <;> simp [Outcome.consultations, Event.consultation?, Function.comp_def]

theorem takesAnswers_execute (operation : Operation) :
    TakesAnswers fun evaluator => operation.execute evaluator := by
  refine .bind ?_ fun value => .const _
  unfold compute
  cases operation.formula with
  | bool operator a b => exact .const _
  | number operator a b rounding => exact .const _
  | vector operator a b rounding => exact .const _
  | scripted expression b c rounding =>
    refine .bind (.const _) fun _ => .bind (.const _) fun _ => .bind (.consult _ _) fun _ => ?_
    exact .const _

end Operation

namespace Batch

theorem consultations_steps (evaluator : Evaluator) (store : Store) (placed : List Placed) :
    ((steps evaluator store placed).flatMap Step.events).filterMap Event.consultation? =
      Operation.consultations evaluator store (placed.map Placed.operation) := by
  induction placed generalizing store with
  | nil => rfl
  | cons head rest ih =>
    have asked := head.operation.consultations_execute evaluator store
    have complaint : (Step.complaint ⟨head, head.operation.execute evaluator store⟩).filterMap
        Event.consultation? = [] := by
      unfold Step.complaint
      cases (head.operation.execute evaluator store).result <;> rfl
    simp only [steps, List.flatMap_cons, List.filterMap_append, ih, Step.events, complaint,
      List.append_nil, List.map_cons, Operation.consultations, ← asked]
    rfl

theorem consultations_run (gate : Gate) (lists : List (List Operation)) (evaluator : Evaluator)
    (store : Store) :
    (run gate lists evaluator store).consultations =
      (Condition.asked evaluator store (gate.getD [])).filterMap (Condition.consultation? store) ++
        if (gate.passes evaluator store).result = .ok true then
          Operation.consultations evaluator store lists.flatten
        else [] := by
  rw [Outcome.consultations, events_run, List.filterMap_append]
  refine congrArg₂ _ (gate.consultations_passes evaluator store) ?_
  cases asked : (gate.passes evaluator store).result with
  | error error => rfl
  | ok opens =>
    cases opens with
    | false => rfl
    | true =>
      simp only [↓reduceIte, List.filterMap_append, consultations_steps, operations_placedLists]
      exact List.append_nil _

theorem takesAnswers_runOne (list index : Nat) (operation : Operation) (report : Report) :
    TakesAnswers fun evaluator => runOne evaluator list index operation report :=
  .bind (.attempt operation.takesAnswers_execute) fun _ => .const _

theorem takesAnswers_runList (list index : Nat) (operations : List Operation) (report : Report) :
    TakesAnswers fun evaluator => runList evaluator list index operations report := by
  induction operations generalizing index report with
  | nil => exact .const _
  | cons operation rest ih =>
    exact .bind (takesAnswers_runOne list index operation report) fun report => ih _ report

theorem takesAnswers_runLists (list : Nat) (lists : List (List Operation)) (report : Report) :
    TakesAnswers fun evaluator => runLists evaluator list lists report := by
  induction lists generalizing list report with
  | nil => exact .const _
  | cons operations rest ih =>
    exact .bind (takesAnswers_runList list 0 operations report) fun report => ih _ report

theorem takesAnswers_run (gate : Gate) (lists : List (List Operation)) :
    TakesAnswers fun evaluator => run gate lists evaluator := by
  refine .bind gate.takesAnswers_passes fun opens => ?_
  cases opens with
  | true => exact .bind (takesAnswers_runLists 0 lists _) fun _ => .const _
  | false => exact .const _

/-- A batch asks for the scripted conditions that its gate gets to, of the store as it was,
and once the gate has opened for its scripted operations, each of the store as it is by
then. Nothing else that an evaluator would say makes a difference. Operands that are not
linked to anything are shown as zero and as false, and numbers as what they are. -/
theorem consultations_exact (gate : Gate) (lists : List (List Operation)) (evaluator : Evaluator)
    (store : Store) :
    let ran := run gate lists evaluator store
    ran.consultations =
      (Condition.asked evaluator store (gate.getD [])).filterMap (Condition.consultation? store) ++
        (if (gate.passes evaluator store).result = .ok true then
          Operation.consultations evaluator store lists.flatten
        else []) ∧
    (∀ other : Evaluator,
      (∀ asked ∈ ran.consultations, other.evaluate asked.expression asked.bindings =
        evaluator.evaluate asked.expression asked.bindings) →
      run gate lists other store = ran) ∧
    (∀ expression, (ScriptedCondition.ofExpression expression).consultation? store =
      some ⟨expression, ⟨[("nA", .number (.zero false)), ("nB", .number (.zero false)),
        ("bA", .boolean false), ("bB", .boolean false)]⟩⟩) ∧
    (∀ number wide, Number.Widened number wide ↔ wide = number.widen) := by
  refine ⟨consultations_run gate lists evaluator store, ?_, fun expression => ?_,
    fun number wide => Number.widened_iff⟩
  · exact takesAnswers_run gate lists store evaluator
  · have zero : (Number.int 0).widen = .zero false := by
      rw [Number.widen, show (0 : Int32).toInt = 0 from rfl]
      exact Binary.ofInt_zero Format.double_reaches
    change some (Consultation.mk expression ⟨[("nA", .number (Number.int 0).widen),
      ("nB", .number (Number.int 0).widen), ("bA", .boolean false), ("bB", .boolean false)]⟩) = _
    rw [zero]

/-- At a toll, whoever decides the same about the gate and the fee could have been asked
instead. The operand of the first fee cannot be looked up, so nobody is asked for it, and
the third fee starts from what the second one has come to. -/
theorem consultations_exact_toll :
    let toll : VariableId := ⟨0⟩
    let weight : VariableId := ⟨1⟩
    let rate : VariableId := ⟨2⟩
    let permit : VariableId := ⟨3⟩
    let store : Store := (((Store.empty.adding ⟨"toll", .number (.int (-3))⟩).adding
      ⟨"weight", .number (.float (.ofBits 0x40200000))⟩).adding
      ⟨"rate", .number (.double (.ofBits 0x3FE8000000000000))⟩).adding ⟨"permit", .bool true⟩
    let gate : Gate :=
      some [.scripted ⟨"open", .bound weight, .bound toll, .bound permit, .unbound⟩]
    let lists : List (List Operation) :=
      [[⟨toll, .scripted "fee" (.bound ⟨7⟩) .unbound .floor, .unbound⟩],
        [⟨toll, .scripted "fee" (.bound weight) (.bound rate) .ceil, .unbound⟩,
          ⟨toll, .scripted "fee" (.literal (.int 4)) (.bound toll) .floor, .unbound⟩]]
    let clerk : Evaluator := ⟨fun expression bindings =>
      if expression = "open" then .ok (.boolean true)
      else .ok ((bindings.get? "nB").getD .nil), fun _ => .ok ()⟩
    let stranger : Evaluator := ⟨fun expression bindings =>
      if expression = "open" ∨ bindings.get? "nC" ≠ none then clerk.evaluate expression bindings
      else .ok .nil, fun _ => .error (.unknownName "fee")⟩
    -- -3, 2.5, 0.75, 3 and 4
    let low : Datum := .number (.ofBits 0xC008000000000000)
    let heavy : Datum := .number (.ofBits 0x4004000000000000)
    let share : Datum := .number (.ofBits 0x3FE8000000000000)
    let three : Datum := .number (.ofBits 0x4008000000000000)
    let four : Datum := .number (.ofBits 0x4010000000000000)
    (run gate lists clerk store).consultations =
      [⟨"open", ⟨[("nA", heavy), ("nB", low), ("bA", .boolean true), ("bB", .boolean false)]⟩⟩,
        ⟨"fee", ⟨[("nA", low), ("nB", heavy), ("nC", share)]⟩⟩,
        ⟨"fee", ⟨[("nA", three), ("nB", four), ("nC", three)]⟩⟩] ∧
      run gate lists stranger store = run gate lists clerk store := by
  intro toll weight rate permit store gate lists clerk stranger low heavy share three four
  obtain ⟨asks, determined, -, -⟩ := consultations_exact gate lists clerk store
  refine ⟨asks.trans (by decide +kernel), determined stranger ?_⟩
  rw [asks]
  decide +kernel

end Batch

end Rulebook
