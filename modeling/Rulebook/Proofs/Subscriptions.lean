import Rulebook.Proofs.StoreHistory

/-! Who is told when a variable is raised, told from the calls made on a store. A
history grants subscriptions and ends some of them; what is left are the live
ones. The store's lists hold exactly these, each list in the order in which they
were granted, whatever else is called in between. -/
namespace Rulebook

namespace Call

/-- The subscription that a call is granted, if it asks for one and succeeds. -/
def granted? (store : Store) : Call → Option Subscription
  | .subscribe id observer =>
    match (Action.subscribe id observer store).result with
    | .ok subscription => some ⟨subscription, id, observer⟩
    | .error _ => none
  | _ => none

/-- Whether a call asks for the end of a subscription. -/
def ends (id : SubscriptionId) : Call → Bool
  | .unsubscribe other => decide (other = id)
  | _ => false

end Call

namespace Store

/-- The subscriptions granted in the course of some calls, in order, each with
the calls made after its own. -/
def granted (store : Store) : List Call → List (Subscription × List Call)
  | [] => []
  | call :: rest =>
    ((call.granted? store).map fun subscription => (subscription, rest)).toList ++
      granted (call.after store) rest

/-- Of subscriptions granted, each with the calls made since, those not ended. -/
def unended (grants : List (Subscription × List Call)) : List Subscription :=
  (grants.filter fun grant => !grant.2.any (Call.ends grant.1.id)).map Prod.fst

/-- The subscriptions granted in a history and not ended later in it. -/
def live (calls : List Call) : List Subscription :=
  unended (granted .empty calls)

/-- The live subscriptions to one variable, in the order in which they were asked
for. -/
def liveTo (calls : List Call) (id : VariableId) : List Subscription :=
  Subscription.to (live calls) id

theorem granted?_of_declared {store : Store} {id : VariableId} {var : Variable}
    (found : store.get id = .ok var) (observer : String) :
    (Call.subscribe id observer).granted? store = some ⟨⟨store.nextSerial⟩, id, observer⟩ := by
  rw [Call.granted?, Action.subscribe_apply, found]

theorem granted?_of_undeclared {store : Store} {id : VariableId} {error : RuleError}
    (missing : store.get id = .error error) (observer : String) :
    (Call.subscribe id observer).granted? store = none := by
  rw [Call.granted?, Action.subscribe_apply, missing]

theorem Writes.observers {before after : Store} (writes : Writes before after) :
    after.observers = before.observers ∧ after.nextSerial = before.nextSerial := by
  induction writes with
  | done store => exact ⟨rfl, rfl⟩
  | write written rest ih =>
    obtain ⟨_, _, _, rfl⟩ := (set_eq_ok_iff ..).mp written
    exact ih

/-- What a call does to subscriptions: it ends those it asks to end, and adds the
one it is granted under the next number. -/
structure Subscribes (store : Store) (call : Call) (next : Store) : Prop where
  keeps : ∀ subscriptions, store.Keeps subscriptions → next.Keeps
    ((subscriptions.filter fun subscription => !call.ends subscription.id) ++
      (call.granted? store).toList)
  serial : ∀ subscription ∈ call.granted? store, subscription.id.serial = store.nextSerial
  nextSerial : next.nextSerial = store.nextSerial + (call.granted? store).toList.length

/-- A call that neither asks for a subscription nor ends one, and leaves the lists
alone, does nothing to subscriptions. -/
theorem Subscribes.of_observers {store next : Store} {call : Call}
    (asks : call.granted? store = none) (ends : ∀ id, call.ends id = false)
    (same : next.observers = store.observers ∧ next.nextSerial = store.nextSerial) :
    Subscribes store call next where
  keeps subscriptions keeps := by
    rw [List.filter_eq_self.mpr (by simp [ends]), asks, Option.toList_none, List.append_nil]
    exact keeps.of_eq same.1 same.2
  serial := by simp [asks]
  nextSerial := by simp [asks, same.2]

theorem subscribes_subscribe (store : Store) (id : VariableId) (observer : String) :
    Subscribes store (.subscribe id observer) ((Call.subscribe id observer).after store) := by
  rw [Call.after, Action.subscribe_apply]
  cases found : store.get id with
  | error error =>
    exact .of_observers (granted?_of_undeclared found observer) (fun _ => rfl) ⟨rfl, rfl⟩
  | ok var =>
    have granted := granted?_of_declared found observer
    constructor
    · intro subscriptions keeps
      rw [List.filter_eq_self.mpr (by simp [Call.ends]), granted]
      exact keeps.subscribe id observer
    · simp [granted]
    · simp [granted, observing]

theorem index_of_unsubscribe (store : Store) (id : SubscriptionId) :
    (store.unsubscribe id).2.index = store.index := by
  unfold unsubscribe
  split <;> rfl

theorem nextSerial_of_unsubscribe (store : Store) (id : SubscriptionId) :
    (store.unsubscribe id).2.nextSerial = store.nextSerial := by
  unfold unsubscribe
  split <;> rfl

theorem subscribes_unsubscribe (store : Store) (id : SubscriptionId) :
    Subscribes store (.unsubscribe id) ((Call.unsubscribe id).after store) where
  keeps subscriptions keeps := by
    have ended := (keeps.unsubscribe id).2
    simpa [Call.granted?, Call.ends, Call.after, Action.unsubscribe, eq_comm] using ended
  serial := by simp [Call.granted?]
  nextSerial := nextSerial_of_unsubscribe store id

theorem subscribes_call (store : Store) (call : Call) :
    Subscribes store call (call.after store) := by
  cases call with
  | declare name value =>
    refine .of_observers rfl (fun _ => rfl) ?_
    rw [Call.after, Action.declare_apply]
    split <;> exact ⟨rfl, rfl⟩
  | set id value =>
    exact .of_observers rfl (fun _ => rfl) (writes_write id value store).observers
  | subscribe id observer => exact subscribes_subscribe store id observer
  | unsubscribe id => exact subscribes_unsubscribe store id
  | raise id =>
    refine .of_observers rfl (fun _ => rfl) ?_
    rw [Call.after, raise_unchanged]
    exact ⟨rfl, rfl⟩
  | execute operation evaluator =>
    exact .of_observers rfl (fun _ => rfl) (writes_execute operation evaluator store).observers
  | batch gate lists evaluator =>
    exact .of_observers rfl (fun _ => rfl) (writes_batch gate lists evaluator store).observers
  | run rule evaluator =>
    exact .of_observers rfl (fun _ => rfl) (writes_run rule evaluator store).observers

/-- After some calls a store keeps the subscriptions it kept, unless they were ended,
and then those granted on the way and not ended. -/
theorem keeps_after {store : Store} {subscriptions : List Subscription}
    (keeps : store.Keeps subscriptions) (calls : List Call) :
    (store.after calls).Keeps
      ((subscriptions.filter fun subscription => !calls.any (Call.ends subscription.id)) ++
        unended (granted store calls)) := by
  induction calls generalizing store subscriptions with
  | nil =>
    rw [List.filter_eq_self.mpr (by simp)]
    exact (List.append_nil subscriptions).symm ▸ keeps
  | cons call rest ih =>
    have later := ih ((subscribes_call store call).keeps subscriptions keeps)
    change ((call.after store).after rest).Keeps _
    convert later using 1
    cases asked : call.granted? store with
    | none => simp [granted, asked, unended, List.filter_filter, Bool.and_comm]
    | some subscription =>
      by_cases ended : rest.any (Call.ends subscription.id) <;>
        simp [granted, asked, unended, ended, List.filter_filter, Bool.and_comm]

theorem keeps_empty : Store.empty.Keeps [] where
  lists id := by simp [Subscription.to, observersOf, empty]
  distinct := List.nodup_nil
  issued _ member := absurd member List.not_mem_nil

/-- The store refines its history: its lists hold the live subscriptions. -/
theorem keeps_live (calls : List Call) : (after .empty calls).Keeps (live calls) :=
  keeps_after keeps_empty calls

/-- The numbers of the subscriptions granted on the way from one store to another
ascend, from the number that the first gives out next to that of the last. -/
theorem serials_ascend (store : Store) (calls : List Call) :
    store.nextSerial ≤ (store.after calls).nextSerial ∧
      (∀ grant ∈ granted store calls, store.nextSerial ≤ grant.1.id.serial ∧
        grant.1.id.serial < (store.after calls).nextSerial) ∧
      (granted store calls).Pairwise fun first second =>
        first.1.id.serial < second.1.id.serial := by
  induction calls generalizing store with
  | nil => simp [granted, after]
  | cons call rest ih =>
    obtain ⟨grows, within, ascend⟩ := ih (call.after store)
    have step := subscribes_call store call
    have next := step.nextSerial
    have final : store.after (call :: rest) = (call.after store).after rest := rfl
    rw [final]
    cases asked : call.granted? store with
    | none =>
      rw [asked] at next
      have same : (call.after store).nextSerial = store.nextSerial := next
      simp only [granted, asked, Option.map_none, Option.toList_none, List.nil_append]
      exact ⟨same ▸ grows, same ▸ within, ascend⟩
    | some subscription =>
      rw [asked] at next
      have number : subscription.id.serial = store.nextSerial := step.serial subscription asked
      have beyond : (call.after store).nextSerial = store.nextSerial + 1 := next
      simp only [granted, asked, Option.map_some, Option.toList_some, List.singleton_append]
      refine ⟨by omega, fun grant member => ?_,
        List.pairwise_cons.mpr ⟨fun grant later => ?_, ascend⟩⟩
      · rcases List.mem_cons.mp member with rfl | later
        · show store.nextSerial ≤ subscription.id.serial ∧ subscription.id.serial < _
          omega
        · have bounds := within grant later
          omega
      · have bounds := within grant later
        show subscription.id.serial < grant.1.id.serial
        omega

/-- No id is given out twice. -/
theorem granted_nodup (calls : List Call) :
    ((granted .empty calls).map fun grant => grant.1.id).Nodup := by
  refine List.pairwise_map.mpr ((serials_ascend .empty calls).2.2.imp fun smaller same => ?_)
  rw [same] at smaller
  exact Nat.lt_irrefl _ smaller

theorem granted_unique {calls : List Call} {first second : Subscription × List Call}
    (one : first ∈ granted .empty calls) (other : second ∈ granted .empty calls)
    (same : first.1.id = second.1.id) : first = second :=
  List.inj_on_of_nodup_map (granted_nodup calls) one other same

theorem subscriptions_to_eq_liveTo (calls : List Call) (id : VariableId) :
    Subscription.to (after .empty calls).subscriptions id = liveTo calls id := by
  rw [subscriptions_to, liveTo, (keeps_live calls).lists]

theorem mem_live_iff {calls : List Call} {subscription : Subscription} {since : List Call}
    (grant : (subscription, since) ∈ granted .empty calls) :
    subscription ∈ live calls ↔ since.any (Call.ends subscription.id) = false := by
  simp only [live, unended, List.mem_map, List.mem_filter, Bool.not_eq_true']
  constructor
  · rintro ⟨found, ⟨member, going⟩, rfl⟩
    have same : found = (found.1, since) := granted_unique member grant rfl
    rw [same] at going
    exact going
  · intro going
    exact ⟨_, ⟨grant, going⟩, rfl⟩

theorem live_subset_granted {calls : List Call} {subscription : Subscription}
    (member : subscription ∈ live calls) :
    ∃ since, (subscription, since) ∈ granted .empty calls := by
  obtain ⟨⟨found, since⟩, kept, rfl⟩ := List.mem_map.mp member
  exact ⟨since, (List.mem_filter.mp kept).1⟩

/-- A live subscription with the id of one that was granted is that one. -/
theorem live_unique {calls : List Call} {subscription other : Subscription} {since : List Call}
    (grant : (subscription, since) ∈ granted .empty calls) (member : other ∈ live calls)
    (same : other.id = subscription.id) : other = subscription := by
  obtain ⟨_, granted⟩ := live_subset_granted member
  exact congrArg Prod.fst (granted_unique granted grant same)

/-- Ending a subscription that was granted succeeds if it is live, and takes away
that one only. -/
theorem unsubscribe_granted {calls : List Call} {subscription : Subscription} {since : List Call}
    (grant : (subscription, since) ∈ granted .empty calls) :
    ((after .empty calls).unsubscribe subscription.id).1 =
        (!since.any (Call.ends subscription.id)) ∧
      ((after .empty calls).unsubscribe subscription.id).2.Keeps
        ((live calls).filter fun other => decide (other ≠ subscription)) := by
  obtain ⟨answer, keeps⟩ := (keeps_live calls).unsubscribe subscription.id
  have found : ((live calls).any fun other => decide (other.id = subscription.id)) =
      !since.any (Call.ends subscription.id) := by
    rw [Bool.eq_iff_iff, Bool.not_eq_true', ← mem_live_iff grant, List.any_eq_true]
    constructor
    · rintro ⟨other, member, same⟩
      exact live_unique grant member (of_decide_eq_true same) ▸ member
    · intro member
      exact ⟨subscription, member, decide_eq_true rfl⟩
  have kept : (live calls).filter (fun other => decide (other.id ≠ subscription.id)) =
      (live calls).filter fun other => decide (other ≠ subscription) := by
    refine List.filter_congr fun other member => decide_eq_decide.mpr (not_congr ?_)
    exact ⟨live_unique grant member, congrArg Subscription.id⟩
  exact ⟨answer.trans found, kept ▸ keeps⟩

theorem error_of_undeclared {store : Store} {id : VariableId} {error : RuleError}
    (missing : store.get id = .error error) : error = .unknownVariable id := by
  unfold get at missing
  split at missing
  · cases missing
  · exact (Except.error.inj missing).symm

/-- A store answers for subscriptions as its history has it. -/
structure FollowsHistory (calls : List Call) (store : Store) : Prop where
  /-- No subscription id is given out twice. -/
  distinct : ((granted .empty calls).map fun grant => grant.1.id).Nodup
  /-- Raising a variable tells the live subscriptions to it, each once and in
  order, and nobody else. -/
  raised : ∀ id var, store.get id = .ok var →
    Action.raise id store = ⟨.ok (), store,
      (liveTo calls id).map fun subscription => .notified ⟨subscription.observer, var⟩⟩
  counted : ∀ id, store.observerCount id = (liveTo calls id).length
  /-- The list of a variable holds the live subscriptions to it. -/
  held : ∀ id, Subscription.to store.subscriptions id = liveTo calls id
  /-- A subscription that was granted can be ended once, which leaves all others in
  their order, and the variables as they are. -/
  unsubscribed : ∀ subscription since, (subscription, since) ∈ granted .empty calls →
    let outcome := Action.unsubscribe subscription.id store
    outcome.result = .ok (!since.any (Call.ends subscription.id)) ∧
    outcome.store.declared = store.declared ∧ outcome.store.index = store.index ∧
    outcome.store.nextSerial = store.nextSerial ∧
    ∀ id, Subscription.to outcome.store.subscriptions id =
      (liveTo calls id).filter fun other => decide (other ≠ subscription)
  /-- A subscription to a variable is granted under an id of its own and comes last
  in the list of that variable. -/
  subscribed : ∀ id var observer, store.get id = .ok var →
    let outcome := Action.subscribe id observer store
    ∃ subscription, outcome.result = .ok subscription ∧
      (∀ grant ∈ granted .empty calls, grant.1.id ≠ subscription) ∧
      outcome.store.declared = store.declared ∧ outcome.store.index = store.index ∧
      ∀ other, Subscription.to outcome.store.subscriptions other =
        liveTo calls other ++ if other = id then [⟨subscription, id, observer⟩] else []
  /-- What is no variable can neither be subscribed to nor raised, and trying to
  changes nothing. -/
  undeclared : ∀ id error, store.get id = .error error →
    error = .unknownVariable id ∧
    (∀ observer, Action.subscribe id observer store = ⟨.error error, store, []⟩) ∧
    Action.raise id store = ⟨.error error, store, []⟩

/-- Whatever calls are made on a new store, with or without success, it answers
for subscriptions as they have it. -/
theorem follows_history (calls : List Call) : (after .empty calls).FollowsHistory calls where
  distinct := granted_nodup calls
  raised id var found := by
    rw [raise_of_declared found, announcement, subscriptions_to_eq_liveTo, List.map_map]
    rfl
  counted id := by
    rw [← subscriptions_to_eq_liveTo, subscriptions_to, List.length_map, observerCount]
  held := subscriptions_to_eq_liveTo calls
  unsubscribed subscription since grant := by
    obtain ⟨answer, keeps⟩ := unsubscribe_granted grant
    refine ⟨congrArg Except.ok answer, declared_of_unsubscribe .., index_of_unsubscribe ..,
      nextSerial_of_unsubscribe .., fun id => ?_⟩
    rw [subscriptions_to]
    change ((Store.unsubscribe _ _).2.observersOf id).map _ = _
    rw [← keeps.lists, Subscription.to_filter, liveTo]
  subscribed id var observer found := by
    have keeps := (keeps_live calls).subscribe id observer
    rw [Action.subscribe_apply, found]
    refine ⟨_, rfl, fun grant member same => ?_, rfl, rfl, fun other => ?_⟩
    · have smaller := ((serials_ascend .empty calls).2.1 grant member).2
      rw [same] at smaller
      exact Nat.lt_irrefl _ smaller
    · rw [subscriptions_to, ← keeps.lists, Subscription.to, List.filter_append, liveTo,
        Subscription.to]
      by_cases same : id = other
      · simp [same]
      · simp [same, Ne.symm same]
  undeclared id error missing := by
    refine ⟨error_of_undeclared missing, fun observer => ?_, raise_of_undeclared missing⟩
    rw [Action.subscribe_apply, missing]

end Store
end Rulebook
