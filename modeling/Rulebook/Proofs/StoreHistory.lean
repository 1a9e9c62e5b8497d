import Rulebook.Proofs.BatchSemantics

/-! Histories of a store. Whatever is called on a store, with or without
success, variables are only ever added; those already there keep their place,
their name and the kind of their value. -/
namespace Rulebook
open Script

/-- A call on a store, whether it succeeds or not. -/
inductive Call where
  | declare (name : String) (value : Value)
  | set (id : VariableId) (value : Value)
  | subscribe (id : VariableId) (observer : String)
  | unsubscribe (id : SubscriptionId)
  | raise (id : VariableId)
  | execute (operation : Operation) (evaluator : Evaluator)
  | batch (gate : Gate) (lists : List (List Operation)) (evaluator : Evaluator)
  | run (rule : Rule) (evaluator : Evaluator)

/-- The store that a call leaves behind. -/
def Call.after (store : Store) : Call → Store
  | .declare name value => (Action.declare name value store).store
  | .set id value => (Action.write id value store).store
  | .subscribe id observer => (Action.subscribe id observer store).store
  | .unsubscribe id => (Action.unsubscribe id store).store
  | .raise id => (Action.raise id store).store
  | .execute operation evaluator => (operation.execute evaluator store).store
  | .batch gate lists evaluator => (Batch.run gate lists evaluator store).store
  | .run rule evaluator => (rule.run evaluator store).store

namespace Store

/-- The store that calls leave behind, made one after another. -/
def after (store : Store) (calls : List Call) : Store :=
  calls.foldl Call.after store

/-- Every variable of one store is a variable of another, in the same place and
with the same name and kind. -/
def Extends (before after : Store) : Prop :=
  ∀ (index : Nat) (var : Variable), before.declared[index]? = some var →
    ∃ now, after.declared[index]? = some now ∧ now.name = var.name ∧ now.kind = var.kind

theorem Extends.refl (store : Store) : store.Extends store :=
  fun _ var held => ⟨var, held, rfl, rfl⟩

theorem Extends.trans {first second third : Store} (earlier : first.Extends second)
    (later : second.Extends third) : first.Extends third := by
  intro index var held
  obtain ⟨between, heldBetween, sameName, sameKind⟩ := earlier index var held
  obtain ⟨now, heldNow, laterName, laterKind⟩ := later index between heldBetween
  exact ⟨now, heldNow, laterName.trans sameName, laterKind.trans sameKind⟩

theorem Extends.of_declared_eq {before after : Store} (same : after.declared = before.declared) :
    before.Extends after := by
  intro index var held
  exact ⟨var, same ▸ held, rfl, rfl⟩

/-- What a lookup finds is found later too, under the same name and with the
same kind. -/
theorem Extends.get {before after : Store} {id : VariableId} {var : Variable}
    (grows : before.Extends after) (found : before.get id = .ok var) :
    ∃ now, after.get id = .ok now ∧ now.name = var.name ∧ now.kind = var.kind := by
  obtain ⟨now, held, same⟩ := grows _ _ ((get_eq_ok_iff ..).mp found)
  exact ⟨now, (get_eq_ok_iff ..).mpr held, same⟩

theorem extends_declare (name : String) (value : Value) (store : Store) :
    store.Extends (Action.declare name value store).store := by
  rw [Action.declare_apply]
  split
  · exact .refl store
  · intro index var held
    obtain ⟨inside, rfl⟩ := Array.getElem?_eq_some_iff.mp held
    exact ⟨_, Array.getElem?_push_lt inside, rfl, rfl⟩

theorem extends_set {store next : Store} {id : VariableId} {value : Value}
    (written : store.set id value = .ok next) : store.Extends next := by
  obtain ⟨old, found, sameKind, rfl⟩ := (set_eq_ok_iff ..).mp written
  intro index var held
  by_cases target : id.index.toNat = index
  · subst target
    obtain rfl : old = var :=
      Option.some.inj (((get_eq_ok_iff ..).mp found).symm.trans held)
    obtain ⟨inside, -⟩ := Array.getElem?_eq_some_iff.mp held
    exact ⟨_, Array.getElem?_setIfInBounds_self_of_lt inside, rfl, sameKind.symm⟩
  · exact ⟨var, by rw [Array.getElem?_setIfInBounds_ne target]; exact held, rfl, rfl⟩

theorem declared_of_subscribe (id : VariableId) (observer : String) (store : Store) :
    (Action.subscribe id observer store).store.declared = store.declared := by
  rw [Action.subscribe_apply]
  cases store.get id <;> rfl

theorem declared_of_unsubscribe (id : SubscriptionId) (store : Store) :
    (store.unsubscribe id).2.declared = store.declared := by
  unfold unsubscribe
  split <;> rfl

/-- One store becomes another by writes of values, one after another. -/
inductive Writes : Store → Store → Prop where
  | done (store : Store) : Writes store store
  | write {store next final : Store} {id : VariableId} {value : Value}
      (written : store.set id value = .ok next) (rest : Writes next final) : Writes store final

theorem Writes.trans {first second third : Store} (earlier : Writes first second)
    (later : Writes second third) : Writes first third := by
  induction earlier with
  | done store => exact later
  | write written rest ih => exact .write written (ih later)

theorem Writes.extends {before after : Store} (writes : Writes before after) :
    before.Extends after := by
  induction writes with
  | done store => exact .refl store
  | write written rest ih => exact (extends_set written).trans ih

theorem writes_write (id : VariableId) (value : Value) (store : Store) :
    Writes store (Action.write id value store).store := by
  cases tried : store.set id value with
  | error error =>
    rw [Action.write_of_refused tried]
    exact .done store
  | ok after =>
    rw [Action.write_of_set tried]
    exact .write tried (.done after)

theorem writes_execute (operation : Operation) (evaluator : Evaluator) (store : Store) :
    Writes store (operation.execute evaluator store).store := by
  rcases operation.execute_cases evaluator store with
    ⟨error, -, ended⟩ | ⟨value, raised, after, var, -, -, wrote, -, ended⟩
  · rw [ended]
    exact .done store
  · rw [ended]
    exact .write wrote (.done after)

theorem writes_storeAfter (evaluator : Evaluator) (store : Store) (operations : List Operation) :
    Writes store (Batch.storeAfter evaluator store operations) := by
  induction operations generalizing store with
  | nil => exact .done store
  | cons operation rest ih => exact (writes_execute operation evaluator store).trans (ih _)

theorem writes_batch (gate : Gate) (lists : List (List Operation)) (evaluator : Evaluator)
    (store : Store) : Writes store (Batch.run gate lists evaluator store).store := by
  cases asked : (gate.passes evaluator store).result with
  | error error =>
    rw [(Batch.idle_of_gate_error lists asked).unchanged]
    exact .done store
  | ok opens =>
    cases opens with
    | false =>
      rw [(Batch.idle_of_gate_closed lists asked).unchanged]
      exact .done store
    | true =>
      rw [(Batch.admitted_of_gate_open lists asked).finalStore]
      exact writes_storeAfter evaluator store lists.flatten

theorem writes_run (rule : Rule) (evaluator : Evaluator) (store : Store) :
    Writes store (rule.run evaluator store).store := by
  rw [(rule.run_eq_batch evaluator store).2.1]
  exact writes_batch rule.gate rule.operations evaluator store

theorem raise_unchanged (id : VariableId) (store : Store) :
    (Action.raise id store).store = store := by
  unfold Action.raise
  split <;> rfl

theorem extends_execute (operation : Operation) (evaluator : Evaluator) (store : Store) :
    store.Extends (operation.execute evaluator store).store :=
  (writes_execute operation evaluator store).extends

/-- One call at most adds a variable. -/
theorem extends_call (store : Store) (call : Call) : store.Extends (call.after store) := by
  cases call with
  | declare name value => exact extends_declare name value store
  | set id value => exact (writes_write id value store).extends
  | subscribe id observer => exact .of_declared_eq (declared_of_subscribe id observer store)
  | unsubscribe id => exact .of_declared_eq (declared_of_unsubscribe id store)
  | raise id => exact .of_declared_eq (congrArg declared (raise_unchanged id store))
  | execute operation evaluator => exact extends_execute operation evaluator store
  | batch gate lists evaluator => exact (writes_batch gate lists evaluator store).extends
  | run rule evaluator => exact (writes_run rule evaluator store).extends

/-- Through any history, variables keep their place, their name and their kind. -/
theorem extends_after (store : Store) (calls : List Call) : store.Extends (store.after calls) := by
  induction calls generalizing store with
  | nil => exact .refl store
  | cons call rest ih => exact (extends_call store call).trans (ih _)

end Store

end Rulebook
