import Rulebook.Proofs.ActionEffects
import Rulebook.Proofs.Observers

/-! Carrying out an operation is all or nothing. Whatever can fail does so
before the one write, and what follows the write cannot fail; so a failed
operation leaves no trace, and a successful one changes the value of its target
and tells that variable's observers, if anyone. -/
namespace Rulebook
open Script

/-- A write that succeeds replaces the value of a variable of the same kind. -/
theorem Store.written_variable {store after : Store} {id : VariableId} {value : Value}
    (written : store.set id value = .ok after) :
    ∃ var, store.get id = .ok var ∧ var.kind = value.kind ∧
      after.get id = .ok { var with value := value } := by
  obtain ⟨var, found, sameKind, -⟩ := (Store.set_eq_ok_iff ..).mp written
  refine ⟨var, found, sameKind, ?_⟩
  simp [Store.get_of_set written, found, Except.map]

/-- What the observers of a variable are told when it is raised: each of them
once, in the order of their subscriptions, and all the same. -/
def Store.announcement (store : Store) (id : VariableId) (var : Variable) : List Notice :=
  (Subscription.to store.subscriptions id).map fun subscription => ⟨subscription.observer, var⟩

theorem Store.raise_of_declared {store : Store} {id : VariableId} {var : Variable}
    (found : store.get id = .ok var) :
    Action.raise id store = ⟨.ok (), store, (store.announcement id var).map .notified⟩ := by
  have told : store.raise id = .ok (store.announcement id var) := by
    rw [Store.raise, found, announcement, subscriptions_to, List.map_map]
    rfl
  simp only [Action.raise, told]

theorem Store.raise_of_undeclared {store : Store} {id : VariableId} {error : RuleError}
    (missing : store.get id = .error error) :
    Action.raise id store = ⟨.error error, store, []⟩ := by
  have refused : store.raise id = .error error := by
    rw [Store.raise, missing]
    rfl
  simp only [Action.raise, refused]

namespace Operation

theorem commit_of_refused {store : Store} {target : VariableId} {value : Value} {error : RuleError}
    (refused : store.set target value = .error error) (raised : Bool) :
    commit target value raised store = ⟨.error error, store, []⟩ := by
  have stopped := Action.write_of_refused refused
  simp [commit, Action.bind_apply, stopped]

/-- After the write nothing can fail. -/
theorem commit_of_written {store after : Store} {target : VariableId} {value : Value}
    {var : Variable} (written : store.set target value = .ok after)
    (seen : after.get target = .ok var) (raised : Bool) :
    commit target value raised store = ⟨.ok ⟨target, raised⟩, after,
      (if raised then (after.announcement target var).map .notified else []) ++
        [.logged (.operationExecuted var raised)]⟩ := by
  have wrote := Action.write_of_set written
  have told := Store.raise_of_declared seen
  cases raised <;>
    simp [-bind_pure_comp, commit, Action.bind_apply, Action.pure_apply, wrote, told, Action.read,
      seen, Action.log, Action.happen]

/-- The three ways in which an operation fails, all of them before its write. -/
inductive Fails (operation : Operation) (evaluator : Evaluator) (store : Store)
    (error : RuleError) : Prop where
  | compute (failed : (operation.compute evaluator store).result = .error error)
  | raiseFlag (failed : operation.raiseFlag.resolve store = .error error)
  | write (computed : (operation.compute evaluator store).result = .ok value)
      (failed : store.set operation.target value = .error error)

/-- Everything that carrying out an operation can do. -/
theorem execute_cases (operation : Operation) (evaluator : Evaluator) (store : Store) :
    (∃ error, operation.Fails evaluator store error ∧
      operation.execute evaluator store =
        ⟨.error error, store, (operation.compute evaluator store).events⟩) ∨
    (∃ value raised after var,
      (operation.compute evaluator store).result = .ok value ∧
      operation.raiseFlag.resolve store = .ok raised ∧
      store.set operation.target value = .ok after ∧
      after.get operation.target = .ok var ∧
      operation.execute evaluator store = ⟨.ok ⟨operation.target, raised⟩, after,
        (operation.compute evaluator store).events ++
          ((if raised then (after.announcement operation.target var).map .notified else []) ++
            [.logged (.operationExecuted var raised)])⟩) := by
  have quiet := (operation.formula.quiet_compute evaluator operation.target).store store
  change (operation.compute evaluator store).store = store at quiet
  cases computed : (operation.compute evaluator store).result with
  | error error =>
    exact .inl ⟨error, .compute computed, by rw [execute, Action.bind_of_error computed, quiet]⟩
  | ok value =>
    cases resolved : operation.raiseFlag.resolve store with
    | error error =>
      have stopped : (Action.read operation.raiseFlag.resolve store).result = .error error :=
        resolved
      refine .inl ⟨error, .raiseFlag resolved, ?_⟩
      rw [execute, Action.bind_of_ok computed, quiet, Action.bind_of_error stopped]
      simp [Action.read]
    | ok raised =>
      have looked : (Action.read operation.raiseFlag.resolve store).result = .ok raised := resolved
      have committed : operation.execute evaluator store =
          ⟨(commit operation.target value raised store).result,
            (commit operation.target value raised store).store,
            (operation.compute evaluator store).events ++
              (commit operation.target value raised store).events⟩ := by
        rw [execute, Action.bind_of_ok computed, quiet, Action.bind_of_ok looked]
        simp [Action.read]
      cases wrote : store.set operation.target value with
      | error error =>
        refine .inl ⟨error, .write computed wrote, ?_⟩
        rw [committed, commit_of_refused wrote]
        simp
      | ok after =>
        obtain ⟨var, found, sameKind, seen⟩ := Store.written_variable wrote
        refine .inr ⟨value, raised, after, _, rfl, rfl, wrote, seen, ?_⟩
        rw [committed, commit_of_written wrote seen]

/-- A value of the target's kind is written as it was computed, once the raise flag is
known. -/
theorem execute_of_computed {operation : Operation} {evaluator : Evaluator} {store : Store}
    {var : Variable} {value : Value} {raised : Bool}
    (found : store.get operation.target = .ok var)
    (computed : (operation.compute evaluator store).result = .ok value)
    (sameKind : var.kind = value.kind) (resolved : operation.raiseFlag.resolve store = .ok raised) :
    (operation.execute evaluator store).result = .ok ⟨operation.target, raised⟩ ∧
      (operation.execute evaluator store).store.get operation.target =
        .ok { var with value := value } := by
  have admitted : ∃ after, store.set operation.target value = .ok after :=
    ⟨_, (Store.set_eq_ok_iff ..).mpr ⟨var, found, sameKind, rfl⟩⟩
  rcases operation.execute_cases evaluator store with
    ⟨error, failed, -⟩ | ⟨_, _, after, _, computedAs, resolvedAs, wrote, -, ended⟩
  · obtain ⟨after, wrote⟩ := admitted
    cases failed with
    | compute failed => cases computed.symm.trans failed
    | raiseFlag failed => cases resolved.symm.trans failed
    | write computedAs refused =>
      cases computed.symm.trans computedAs
      cases wrote.symm.trans refused
  · cases computed.symm.trans computedAs
    cases resolved.symm.trans resolvedAs
    rw [ended]
    refine ⟨rfl, ?_⟩
    rw [Store.get_of_set wrote, if_pos rfl, found]
    rfl

/-- An error in computing the value ends the operation. -/
theorem execute_of_failed {operation : Operation} {evaluator : Evaluator} {store : Store}
    {error : RuleError} (failed : (operation.compute evaluator store).result = .error error) :
    (operation.execute evaluator store).result = .error error ∧
      (operation.execute evaluator store).store = store := by
  rw [execute, Action.bind_of_error failed]
  exact ⟨rfl, (operation.formula.quiet_compute evaluator operation.target).store store⟩

/-- Operations with the same target and raise flag that compute alike are carried out
alike. -/
theorem execute_congr {target : VariableId} {raiseFlag : Reference Bool} {first second : Formula}
    {evaluator : Evaluator} {store : Store}
    (same : second.compute evaluator target store = first.compute evaluator target store) :
    execute ⟨target, second, raiseFlag⟩ evaluator store =
      execute ⟨target, first, raiseFlag⟩ evaluator store :=
  Action.bind_congr_at same fun _ _ => rfl

/-- What a successful operation leaves behind. Its target has a value of the
same kind as before, everything else is as it was, and the target's observers
have been told of the new value if the raise flag was set before the write. -/
structure Succeeds (operation : Operation) (evaluator : Evaluator) (store : Store)
    (execution : Execution) (outcome : Outcome Execution) : Prop where
  target : execution.target = operation.target
  raised : operation.raiseFlag.resolve store = .ok execution.raised
  others : ∀ index, index ≠ operation.target.index.toNat →
    outcome.store.declared[index]? = store.declared[index]?
  size : outcome.store.size = store.size
  index : outcome.store.index = store.index
  observers : outcome.store.observers = store.observers
  nextSerial : outcome.store.nextSerial = store.nextSerial
  written : ∃ before after,
    store.get operation.target = .ok before ∧
    outcome.store.get operation.target = .ok after ∧
    after.name = before.name ∧ after.kind = before.kind ∧
    (operation.compute evaluator store).result = .ok after.value ∧
    outcome.notices =
      if execution.raised then
        (store.subscriptions.filter fun subscription =>
          decide (subscription.subject = operation.target)).map fun subscription =>
            ⟨subscription.observer, after⟩
      else []

private theorem notices_announced (notices : List Notice) (record : LogRecord) :
    (notices.map Event.notified ++ [Event.logged record]).filterMap Event.notice? = notices := by
  rw [List.filterMap_append, List.filterMap_map]
  simp [Function.comp_def, Event.notice?]

theorem succeeds_of_written {operation : Operation} {evaluator : Evaluator} {store after : Store}
    {value : Value} {raised : Bool} {var : Variable}
    (computed : (operation.compute evaluator store).result = .ok value)
    (resolved : operation.raiseFlag.resolve store = .ok raised)
    (wrote : store.set operation.target value = .ok after)
    (seen : after.get operation.target = .ok var) :
    operation.Succeeds evaluator store ⟨operation.target, raised⟩
      ⟨.ok ⟨operation.target, raised⟩, after, (operation.compute evaluator store).events ++
        ((if raised then (after.announcement operation.target var).map .notified else []) ++
          [.logged (.operationExecuted var raised)])⟩ := by
  obtain ⟨before, found, sameKind, seenWritten⟩ := Store.written_variable wrote
  obtain rfl : var = { before with value := value } := Except.ok.inj (seen.symm.trans seenWritten)
  have silent : (operation.compute evaluator store).events.filterMap Event.notice? = [] :=
    (operation.formula.quiet_compute evaluator operation.target).notices store
  obtain ⟨_, _, _, shape⟩ := (Store.set_eq_ok_iff ..).mp wrote
  have sameObservers : after.observers = store.observers := by rw [shape]
  refine ⟨rfl, resolved, ?_, Store.size_of_set wrote, by rw [shape], sameObservers, by rw [shape],
    before, _, found, seen, rfl, sameKind.symm, computed, ?_⟩
  · intro index apart
    rw [shape]
    exact Array.getElem?_setIfInBounds_ne (Ne.symm apart)
  · have sameAudience : after.announcement operation.target { before with value := value } =
        store.announcement operation.target { before with value := value } := by
      rw [Store.announcement, Store.subscriptions, sameObservers]
      rfl
    simp only [Outcome.notices, List.filterMap_append, silent, List.nil_append]
    cases raised with
    | false => rfl
    | true =>
      rw [← List.filterMap_append, if_pos rfl, notices_announced, sameAudience]
      rfl

/-- An operation that fails leaves no trace; one that succeeds does what it says
and nothing else. -/
theorem execute_atomic (operation : Operation) (evaluator : Evaluator) (store : Store) :
    let outcome := operation.execute evaluator store
    match outcome.result with
    | .error _ => outcome.store = store ∧ outcome.notices = []
    | .ok execution => operation.Succeeds evaluator store execution outcome := by
  rcases operation.execute_cases evaluator store with
    ⟨error, -, ended⟩ | ⟨value, raised, after, var, computed, resolved, wrote, seen, ended⟩
  · have silent := (operation.formula.quiet_compute evaluator operation.target).notices store
    simp only [ended, true_and]
    exact silent
  · simp only [ended]
    exact succeeds_of_written computed resolved wrote seen

end Operation

end Rulebook
