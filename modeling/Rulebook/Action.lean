import Rulebook.Event

/-! Actions on a store. An action ends with a result or an error; either way it
leaves a store behind and tells what happened, in order. What was written
before an error stays written. -/
namespace Rulebook
open Script

/-- How an action ends. -/
structure Outcome (α : Type) where
  result : Except RuleError α
  store : Store
  events : List Event

def Action (α : Type) : Type :=
  Store → Outcome α

namespace Action

variable {α β γ : Type}

protected def pure (value : α) : Action α := fun store =>
  ⟨.ok value, store, []⟩

protected def bind (first : Action α) (next : α → Action β) : Action β := fun store =>
  match first store with
  | ⟨.error error, between, events⟩ => ⟨.error error, between, events⟩
  | ⟨.ok value, between, events⟩ =>
    let last := next value between
    ⟨last.result, last.store, events ++ last.events⟩

instance : Monad Action where
  pure := Action.pure
  bind := Action.bind

theorem pure_apply (value : α) (store : Store) :
    (pure value : Action α) store = ⟨.ok value, store, []⟩ := rfl

theorem bind_apply (first : Action α) (next : α → Action β) (store : Store) :
    (first >>= next) store =
      match first store with
      | ⟨.error error, between, events⟩ => ⟨.error error, between, events⟩
      | ⟨.ok value, between, events⟩ =>
        ⟨(next value between).result, (next value between).store,
          events ++ (next value between).events⟩ := rfl

private theorem map_id_apply (action : Action α) : id <$> action = action := by
  funext store
  simp only [Functor.map, Action.bind]
  rcases action store with ⟨_ | _, _, _⟩ <;> simp [Action.pure]

private theorem bind_bind (action : Action α) (next : α → Action β) (last : β → Action γ) :
    action >>= next >>= last = action >>= fun value => next value >>= last := by
  funext store
  simp only [bind_apply]
  rcases action store with ⟨_ | value, between, events⟩
  · rfl
  · simp only
    rcases next value between with ⟨_ | _, _, _⟩ <;> simp

instance : LawfulMonad Action :=
  .mk' Action map_id_apply (fun _ _ => by funext store; simp [bind_apply, pure_apply]) bind_bind

/-- Looks at the store. -/
def read (view : Store → Except RuleError α) : Action α := fun store =>
  ⟨view store, store, []⟩

def happen (event : Event) : Action Unit := fun store =>
  ⟨.ok (), store, [event]⟩

def log (record : LogRecord) : Action Unit :=
  happen (.logged record)

/-- Changes the store. -/
def modify (change : Store → Store) : Action Unit := fun store =>
  ⟨.ok (), change store, []⟩

/-- Declares a variable under a name that is free. The index learns of the name
before the variable is there. -/
def declare (name : String) (value : Value) : Action VariableId := do
  let id ← read fun store =>
    if store.index.contains name then .error (.duplicateVariable name)
    else .ok ⟨UInt32.ofNat store.size⟩
  modify fun store => { store with index := store.index.insert name id }
  modify fun store => { store with declared := store.declared.push ⟨name, value⟩ }
  return id

/-- Writes a value of the variable's kind. Nobody is told. -/
def write (id : VariableId) (value : Value) : Action Unit := do
  let assigned ← read fun store => do (← store.get id).assign value
  modify fun store =>
    { store with declared := store.declared.setIfInBounds id.index.toNat assigned }

/-- Adds an observer at the end of the list of a variable that is there. -/
def subscribe (id : VariableId) (observer : String) : Action SubscriptionId := do
  let subscription : SubscriptionId ← read fun store => do
    let _ ← store.get id
    return ⟨store.nextSerial⟩
  modify fun store => { store with nextSerial := store.nextSerial + 1 }
  modify fun store => { store with
    observers := store.observers.insert id (store.observersOf id ++ [⟨subscription, observer⟩]) }
  return subscription

def unsubscribe (id : SubscriptionId) : Action Bool := fun store =>
  ⟨.ok (store.unsubscribe id).1, (store.unsubscribe id).2, []⟩

/-- Tells the observers of a variable. -/
def raise (id : VariableId) : Action Unit := fun store =>
  match store.raise id with
  | .ok notices => ⟨.ok (), store, notices.map .notified⟩
  | .error error => ⟨.error error, store, []⟩

/-- Asks an evaluator for the value of an expression. -/
def consult (evaluator : Evaluator) (expression : String) (bindings : Bindings) :
    Action Datum := fun store =>
  ⟨(evaluator.evaluate expression bindings).mapError (.script expression), store,
    [.consulted expression bindings]⟩

/-- Carries on after an error. -/
def attempt (action : Action α) : Action (Except RuleError α) := fun store =>
  let outcome := action store
  ⟨.ok outcome.result, outcome.store, outcome.events⟩

/-- What an action gives if it succeeds, with the store that it leaves. -/
def finish (action : Action α) (store : Store) : Except RuleError (α × Store) :=
  (action store).result.map fun value => (value, (action store).store)

theorem read_bind_apply (view : Store → Except RuleError α) (next : α → Action β)
    (store : Store) :
    (read view >>= next) store =
      match view store with
      | .ok value => next value store
      | .error error => ⟨.error error, store, []⟩ := by
  rw [bind_apply]
  unfold read
  cases view store <;> rfl

end Action

namespace Store

/-- A store with one more variable, which the index knows. -/
def adding (store : Store) (var : Variable) : Store :=
  { store with
    declared := store.declared.push var
    index := store.index.insert var.name ⟨UInt32.ofNat store.size⟩ }

/-- A store with one more observer, the last of its variable. -/
def observing (store : Store) (id : VariableId) (observer : String) : Store :=
  { store with
    observers := store.observers.insert id
      (store.observersOf id ++ [⟨⟨store.nextSerial⟩, observer⟩])
    nextSerial := store.nextSerial + 1 }

end Store

namespace Action

theorem declare_apply (name : String) (value : Value) (store : Store) :
    declare name value store =
      if store.index.contains name then ⟨.error (.duplicateVariable name), store, []⟩
      else ⟨.ok ⟨UInt32.ofNat store.size⟩, store.adding ⟨name, value⟩, []⟩ := by
  rw [declare, read_bind_apply]
  by_cases taken : store.index.contains name
  · simp only [taken, if_true]
  · simp only [taken]
    rfl

theorem write_apply (id : VariableId) (value : Value) (store : Store) :
    write id value store =
      match store.get id with
      | .ok var =>
        if var.kind = value.kind then
          ⟨.ok (), { store with
            declared := store.declared.setIfInBounds id.index.toNat { var with value := value } },
            []⟩
        else ⟨.error (var.mismatch (.exactly value.kind)), store, []⟩
      | .error error => ⟨.error error, store, []⟩ := by
  rw [write, read_bind_apply]
  cases store.get id with
  | error error => rfl
  | ok var =>
    by_cases same : var.kind = value.kind <;>
      simp [bind, Except.bind, Variable.assign, same, modify]

theorem subscribe_apply (id : VariableId) (observer : String) (store : Store) :
    subscribe id observer store =
      match store.get id with
      | .ok _ => ⟨.ok ⟨store.nextSerial⟩, store.observing id observer, []⟩
      | .error error => ⟨.error error, store, []⟩ := by
  rw [subscribe, read_bind_apply]
  cases store.get id <;> rfl

end Action

namespace Store

/-- The id and the store of a declaration that succeeds. -/
def declare (store : Store) (name : String) (value : Value) :
    Except RuleError (VariableId × Store) :=
  (Action.declare name value).finish store

/-- The id and the store of a subscription that succeeds. -/
def subscribe (store : Store) (id : VariableId) (observer : String) :
    Except RuleError (SubscriptionId × Store) :=
  (Action.subscribe id observer).finish store

/-- The store of a write that succeeds. -/
def set (store : Store) (id : VariableId) (value : Value) : Except RuleError Store :=
  ((Action.write id value).finish store).map Prod.snd

theorem set_eq_ok_iff (store after : Store) (id : VariableId) (value : Value) :
    store.set id value = .ok after ↔
      ∃ var, store.get id = .ok var ∧ var.kind = value.kind ∧
        after = { store with
          declared :=
            store.declared.setIfInBounds id.index.toNat { var with value := value } } := by
  simp only [set, Action.finish, Action.write_apply]
  cases found : store.get id with
  | error error => simp [Except.map]
  | ok var =>
    by_cases same : var.kind = value.kind
    · simp [Except.map, same, eq_comm]
    · simp [Except.map, same]

/-- A write changes the value of its variable and nothing else. -/
theorem get_of_set {store after : Store} {id : VariableId} {value : Value}
    (written : store.set id value = .ok after) (other : VariableId) :
    after.get other =
      if other = id then (store.get id).map fun var => { var with value := value }
      else store.get other := by
  obtain ⟨var, found, -, rfl⟩ := (set_eq_ok_iff ..).mp written
  have held := (get_eq_ok_iff ..).mp found
  obtain ⟨inside, declared⟩ := Array.getElem?_eq_some_iff.mp held
  by_cases same : other = id
  · subst same
    simp [get, inside, declared, Except.map]
  · have apart : id.index.toNat ≠ other.index.toNat := by
      intro equal
      apply same
      obtain ⟨left⟩ := other
      obtain ⟨right⟩ := id
      exact congrArg VariableId.mk (UInt32.toNat_inj.mp equal.symm)
    simp [get, same, Array.getElem?_setIfInBounds_ne apart]

theorem size_of_set {store after : Store} {id : VariableId} {value : Value}
    (written : store.set id value = .ok after) : after.size = store.size := by
  obtain ⟨var, -, -, rfl⟩ := (set_eq_ok_iff ..).mp written
  simp [size]

end Store

namespace Action

theorem write_of_set {store after : Store} {id : VariableId} {value : Value}
    (written : store.set id value = .ok after) : write id value store = ⟨.ok (), after, []⟩ := by
  obtain ⟨var, found, same, rfl⟩ := (Store.set_eq_ok_iff ..).mp written
  rw [write_apply]
  simp only [found, same, if_true]

theorem write_of_refused {store : Store} {id : VariableId} {value : Value} {error : RuleError}
    (refused : store.set id value = .error error) :
    write id value store = ⟨.error error, store, []⟩ := by
  simp only [Store.set, finish, write_apply] at *
  cases found : store.get id with
  | error other => simp_all [Except.map]
  | ok var => by_cases same : var.kind = value.kind <;> simp_all [Except.map]

end Action

end Rulebook
