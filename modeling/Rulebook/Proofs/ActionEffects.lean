import Rulebook.Condition
import Rulebook.Operation

/-! What actions do to a store and whom they tell. An action that only looks
leaves the store as it was and tells no observer, however it ends; asking a
gate and working out a value are of this kind. -/
namespace Rulebook
open Script

/-- What an observer is told by an event, if it is one that observers see. -/
def Event.notice? : Event → Option Notice
  | .notified notice => some notice
  | .consulted .. | .logged _ => none

/-- What observers are told, in order. -/
def Outcome.notices (outcome : Outcome α) : List Notice :=
  outcome.events.filterMap Event.notice?

namespace Action

/-- An action goes on with a value that was found, in the store left behind. -/
theorem bind_of_ok {action : Action α} {next : α → Action β}
    (ran : (action store).result = .ok value) :
    (action >>= next) store =
      ⟨(next value (action store).store).result, (next value (action store).store).store,
        (action store).events ++ (next value (action store).store).events⟩ := by
  rw [bind_apply]
  rcases same : action store with ⟨result, between, events⟩
  rw [same] at ran
  subst ran
  rfl

/-- An action ends where an error was found. -/
theorem bind_of_error {action : Action α} {next : α → Action β}
    (ran : (action store).result = .error error) :
    (action >>= next) store = ⟨.error error, (action store).store, (action store).events⟩ := by
  rw [bind_apply]
  rcases same : action store with ⟨result, between, events⟩
  rw [same] at ran
  subst ran
  rfl

theorem bind_store_of_ok {action : Action α} {next : α → Action β}
    (ran : (action store).result = .ok value) :
    ((action >>= next) store).store = (next value (action store).store).store := by
  rw [bind_of_ok ran]

/-- Whatever is looked for in events, it is found in those of the one action and then in
those of the other. -/
theorem events_bind_of_ok (look : Event → Option γ) {action : Action α} {next : α → Action β}
    (ran : (action store).result = .ok value) :
    ((action >>= next) store).events.filterMap look =
      (action store).events.filterMap look ++
        (next value (action store).store).events.filterMap look := by
  rw [bind_of_ok ran, List.filterMap_append]

theorem events_bind_of_error {action : Action α} {next : α → Action β}
    (ran : (action store).result = .error error) :
    ((action >>= next) store).events = (action store).events := by
  rw [bind_of_error ran]

theorem bind_notices_of_ok {action : Action α} {next : α → Action β}
    (ran : (action store).result = .ok value) :
    ((action >>= next) store).notices =
      (action store).notices ++ (next value (action store).store).notices :=
  events_bind_of_ok Event.notice? ran

/-- Operands are looked up, an expression is put to the evaluator, and its value is all
that the rest is given. -/
theorem ask_apply (view : Store → Except RuleError Bindings) (evaluator : Evaluator)
    (expression : String) (next : Datum → Action β) (store : Store) :
    (read view >>= fun bindings => consult evaluator expression bindings >>= next) store =
      match view store with
      | .error error => ⟨.error error, store, []⟩
      | .ok bindings =>
        match evaluator.evaluate expression bindings with
        | .error error =>
          ⟨.error (.script expression error), store, [.consulted expression bindings]⟩
        | .ok value =>
          ⟨(next value store).result, (next value store).store,
            .consulted expression bindings :: (next value store).events⟩ := by
  simp only [bind_apply, read, consult]
  cases view store with
  | error error => rfl
  | ok bindings =>
    simp only
    cases evaluator.evaluate expression bindings with
    | error error => rfl
    | ok value => rfl

/-- Actions that begin alike in a store, and go on alike with what was found, are alike. -/
theorem bind_congr_at {action other : Action α} {next following : α → Action β} {store : Store}
    (same : other store = action store)
    (rest : ∀ value, (action store).result = .ok value →
      following value (action store).store = next value (action store).store) :
    (other >>= following) store = (action >>= next) store := by
  cases ran : (action store).result with
  | error error => rw [bind_of_error ran, bind_of_error (same ▸ ran), same]
  | ok value => rw [bind_of_ok ran, bind_of_ok (same ▸ ran), same, rest value ran]

/-- However it ends, the action leaves the store as it was and tells nobody. -/
structure Quiet (action : Action α) : Prop where
  store : ∀ store, (action store).store = store
  notices : ∀ store, (action store).notices = []

theorem quiet_pure (value : α) : Quiet (pure value : Action α) :=
  ⟨fun _ => rfl, fun _ => rfl⟩

theorem quiet_read (view : Store → Except RuleError α) : Quiet (read view) :=
  ⟨fun _ => rfl, fun _ => rfl⟩

theorem quiet_log (record : LogRecord) : Quiet (log record) :=
  ⟨fun _ => rfl, fun _ => rfl⟩

theorem quiet_consult (evaluator : Evaluator) (expression : String) (bindings : Bindings) :
    Quiet (consult evaluator expression bindings) :=
  ⟨fun _ => rfl, fun _ => rfl⟩

theorem quiet_bind {action : Action α} {next : α → Action β} (first : Quiet action)
    (rest : ∀ value, Quiet (next value)) : Quiet (action >>= next) := by
  constructor
  · intro store
    cases ran : (action store).result with
    | error error => rw [bind_of_error ran, first.store]
    | ok value => rw [bind_store_of_ok ran, (rest value).store, first.store]
  · intro store
    cases ran : (action store).result with
    | error error =>
      rw [bind_of_error ran]
      exact first.notices store
    | ok value => rw [bind_notices_of_ok ran, first.notices, (rest value).notices, List.append_nil]

/-- Results of actions that only look are combined without regard to stores. -/
theorem Quiet.result_bind {action : Action α} (quiet : Quiet action) (next : α → Action β)
    (store : Store) :
    ((action >>= next) store).result =
      (action store).result >>= fun value => (next value store).result := by
  cases ran : (action store).result with
  | error error =>
    rw [bind_of_error ran]
    rfl
  | ok value =>
    rw [bind_of_ok ran, quiet.store]
    rfl

/-- Two actions that only look are alike to whatever follows them, if they end alike. -/
theorem Quiet.bind_congr {first second : Action α} (quietFirst : Quiet first)
    (quietSecond : Quiet second) {store : Store}
    (same : (first store).result = (second store).result) (next : α → Action β) :
    ((first >>= next) store).result = ((second >>= next) store).result ∧
      ((first >>= next) store).store = ((second >>= next) store).store ∧
      ((first >>= next) store).notices = ((second >>= next) store).notices := by
  cases ran : (second store).result with
  | error error =>
    rw [bind_of_error ran, bind_of_error (same.trans ran)]
    refine ⟨rfl, (quietFirst.store store).trans (quietSecond.store store).symm, ?_⟩
    exact (quietFirst.notices store).trans (quietSecond.notices store).symm
  | ok value =>
    have ranFirst := same.trans ran
    refine ⟨?_, ?_, ?_⟩
    · rw [quietFirst.result_bind, quietSecond.result_bind, same]
    · rw [bind_store_of_ok ranFirst, bind_store_of_ok ran, quietFirst.store, quietSecond.store]
    · rw [bind_notices_of_ok ranFirst, bind_notices_of_ok ran, quietFirst.store,
        quietFirst.notices, quietSecond.store, quietSecond.notices]

end Action

open Rulebook.Action

theorem ScriptedCondition.quiet_evaluate (question : ScriptedCondition) (evaluator : Evaluator) :
    Quiet (question.evaluate evaluator) := by
  refine quiet_bind (quiet_read _) fun bindings => quiet_bind (quiet_consult ..) fun value => ?_
  cases value with
  | boolean answer => exact quiet_pure answer
  | nil => exact quiet_bind (quiet_log _) fun _ => quiet_pure _
  | number value => exact quiet_bind (quiet_log _) fun _ => quiet_pure _
  | text value => exact quiet_bind (quiet_log _) fun _ => quiet_pure _

theorem Condition.quiet_evaluate (evaluator : Evaluator) (condition : Condition) :
    Quiet (condition.evaluate evaluator) := by
  cases condition with
  | scripted question => exact question.quiet_evaluate evaluator
  | bool a equality b => exact quiet_read _
  | number a comparison b => exact quiet_read _
  | vector a equality b => exact quiet_read _

theorem Condition.quiet_allHold (evaluator : Evaluator) (conditions : List Condition) :
    Quiet (allHold evaluator conditions) := by
  induction conditions with
  | nil => exact quiet_pure true
  | cons condition rest ih =>
    refine quiet_bind (condition.quiet_evaluate evaluator) fun holds => ?_
    cases holds with
    | true => exact ih
    | false => exact quiet_pure false

/-- Asking a gate changes nothing and tells nobody. -/
theorem Gate.quiet_passes (evaluator : Evaluator) (gate : Gate) :
    Quiet (gate.passes evaluator) := by
  cases gate with
  | none => exact quiet_pure true
  | some conditions => exact Condition.quiet_allHold evaluator conditions

/-- Working out a value changes nothing and tells nobody. -/
theorem Formula.quiet_compute (evaluator : Evaluator) (target : VariableId) (formula : Formula) :
    Quiet (formula.compute evaluator target) := by
  cases formula with
  | bool operator a b => exact quiet_read _
  | number operator a b rounding => exact quiet_read _
  | vector operator a b rounding => exact quiet_read _
  | scripted expression b c rounding =>
    refine quiet_bind (quiet_read _) fun kind => quiet_bind (quiet_read _) fun bindings =>
      quiet_bind (quiet_consult ..) fun value => ?_
    cases value with
    | number result => exact quiet_pure _
    | nil => exact quiet_read _
    | boolean value => exact quiet_read _
    | text value => exact quiet_read _

end Rulebook
