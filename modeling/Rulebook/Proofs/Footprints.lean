import Rulebook.Proofs.Failures
import Rulebook.Proofs.OperationEffects

/-! An operation looks at its target and at the variables that its operands and its
raise flag are linked to, and it writes its target. What it does in one store it does
in every other that has the same of these, whether or not it fails. So two operations
that keep out of each other's way may be carried out in either order. -/
namespace Rulebook
open Script

/-- The variables that operands are linked to. -/
def Formula.links : Formula → List VariableId
  | bool _ a b => a.target?.toList ++ b.target?.toList
  | number _ a b _ => a.target?.toList ++ b.target?.toList
  | scripted _ b c _ => b.target?.toList ++ c.target?.toList
  | vector _ a b _ => a.target?.toList ++ b.target?.toList

namespace Operation

/-- The variables that the operands and the raise flag are linked to. -/
def links (operation : Operation) : List VariableId :=
  operation.formula.links ++ operation.raiseFlag.target?.toList

/-- Neither operation writes what the other one writes or is linked to. -/
structure Apart (first second : Operation) : Prop where
  targets : first.target ≠ second.target
  firstUnread : first.target ∉ second.links
  secondUnread : second.target ∉ first.links

theorem Apart.symm {first second : Operation} (apart : first.Apart second) : second.Apart first :=
  ⟨Ne.symm apart.targets, apart.secondUnread, apart.firstUnread⟩

end Operation

theorem VariableId.index_ne {one other : VariableId} (apart : one ≠ other) :
    one.index.toNat ≠ other.index.toNat := by
  intro same
  obtain ⟨index⟩ := one
  exact apart (congrArg VariableId.mk (UInt32.toNat_inj.mp same))

namespace Store
variable {one other : Store}

/-- The store with a variable in place of one that it has. -/
def put (store : Store) (id : VariableId) (var : Variable) : Store :=
  { store with declared := store.declared.setIfInBounds id.index.toNat var }

theorem get_put_self {store : Store} {id : VariableId} {old : Variable}
    (found : store.get id = .ok old) (var : Variable) : (store.put id var).get id = .ok var := by
  obtain ⟨inside, -⟩ := Array.getElem?_eq_some_iff.mp ((get_eq_ok_iff ..).mp found)
  exact (get_eq_ok_iff ..).mpr (Array.getElem?_setIfInBounds_self_of_lt inside)

theorem get_put_of_ne (store : Store) {id other : VariableId} (apart : id ≠ other)
    (var : Variable) : (store.put id var).get other = store.get other := by
  simp only [get, put, Array.getElem?_setIfInBounds_ne (VariableId.index_ne apart)]

theorem put_comm (store : Store) {first second : VariableId} (apart : first ≠ second)
    (left right : Variable) :
    (store.put first left).put second right = (store.put second right).put first left := by
  simp only [put, Array.setIfInBounds_comm _ _ (VariableId.index_ne apart)]

/-- A write puts a variable that differs in its value alone. -/
theorem set_eq_put (store : Store) (id : VariableId) (value : Value) :
    store.set id value = (store.get id >>= fun var => var.assign value).map (store.put id) := by
  simp only [set, Action.finish, Action.write_apply]
  cases store.get id with
  | error error => rfl
  | ok var =>
    change _ = (var.assign value).map (store.put id)
    by_cases same : var.kind = value.kind
    · simp only [same, if_true, Variable.assign]
      rfl
    · simp only [same, if_false, Variable.assign]
      rfl

theorem boolTarget_congr {id : VariableId} (same : one.get id = other.get id) :
    one.boolTarget id = other.boolTarget id := by
  simp only [boolTarget, same]

theorem numberTarget_congr {id : VariableId} (same : one.get id = other.get id) :
    one.numberTarget id = other.numberTarget id := by
  simp only [numberTarget, same]

theorem vectorTarget_congr {id : VariableId} (same : one.get id = other.get id) :
    one.vectorTarget id = other.vectorTarget id := by
  simp only [vectorTarget, same]

/-- Two stores have the same variables of some ids, or lack them both. -/
def AgreeOn (ids : List VariableId) (one other : Store) : Prop :=
  ∀ id ∈ ids, one.get id = other.get id

end Store

section Agreement
variable {one other : Store}

theorem Reference.resolve_congr [Operand α] {reference : Reference α}
    (same : Store.AgreeOn reference.target?.toList one other) :
    reference.resolve one = reference.resolve other := by
  cases reference with
  | unbound => rfl
  | literal value => rfl
  | bound id => simp only [resolve, same id (List.mem_singleton_self id)]

theorem Reference.resolveWide_congr {reference : Reference Number}
    (same : Store.AgreeOn reference.target?.toList one other) :
    reference.resolveWide one = reference.resolveWide other := by
  rw [resolveWide, resolveWide, resolve_congr same]

theorem scriptedBindings_congr {target : VariableId} {b c : Reference Number}
    (sameTarget : one.get target = other.get target)
    (sameB : Store.AgreeOn b.target?.toList one other)
    (sameC : Store.AgreeOn c.target?.toList one other) :
    scriptedBindings one target b c = scriptedBindings other target b c := by
  have current : (Reference.bound target : Reference Number).resolveWide one =
      (Reference.bound target).resolveWide other :=
    Reference.resolveWide_congr (List.forall_mem_singleton.mpr sameTarget)
  rw [scriptedBindings, scriptedBindings, current, Reference.resolveWide_congr sameB,
    Reference.resolveWide_congr sameC]

namespace Action

/-- An action finds the same in two stores and changes neither. -/
def FindsSame (action : Action α) (one other : Store) : Prop :=
  ∃ result events, action one = ⟨result, one, events⟩ ∧ action other = ⟨result, other, events⟩

theorem findsSame_read {view : Store → Except RuleError α} (same : view one = view other) :
    FindsSame (read view) one other :=
  ⟨view one, [], rfl, by rw [same]; rfl⟩

theorem findsSame_pure (value : α) : FindsSame (pure value : Action α) one other :=
  ⟨.ok value, [], rfl, rfl⟩

theorem findsSame_consult (evaluator : Evaluator) (expression : String) (bindings : Bindings) :
    FindsSame (consult evaluator expression bindings) one other :=
  ⟨_, _, rfl, rfl⟩

/-- An action goes on where another one ended well. -/
theorem bind_eq_of_eq {action : Action α} {next : α → Action β} {store between after : Store}
    {value : α} {last : Except RuleError β} {events later : List Event}
    (ran : action store = ⟨.ok value, between, events⟩)
    (nextRan : next value between = ⟨last, after, later⟩) :
    (action >>= next) store = ⟨last, after, events ++ later⟩ := by
  simp only [bind_apply, ran, nextRan]

theorem FindsSame.bind {action : Action α} {next : α → Action β}
    (first : action.FindsSame one other) (rest : ∀ value, FindsSame (next value) one other) :
    FindsSame (action >>= next) one other := by
  obtain ⟨result, events, inOne, inOther⟩ := first
  cases result with
  | error error =>
    exact ⟨.error error, events, by rw [bind_apply, inOne], by rw [bind_apply, inOther]⟩
  | ok value =>
    obtain ⟨last, later, nextOne, nextOther⟩ := rest value
    exact ⟨last, events ++ later, bind_eq_of_eq inOne nextOne, bind_eq_of_eq inOther nextOther⟩

/-- An action ends in the same way in two stores. It fails and leaves both as they
are, or it puts the same variable into both. -/
inductive DoesSame (target : VariableId) (one other : Store) (action : Action α) : Prop where
  | failed {error : RuleError} {events : List Event}
      (inOne : action one = ⟨.error error, one, events⟩)
      (inOther : action other = ⟨.error error, other, events⟩)
  | wrote {value : α} {var : Variable} {events : List Event}
      (inOne : action one = ⟨.ok value, one.put target var, events⟩)
      (inOther : action other = ⟨.ok value, other.put target var, events⟩)

theorem FindsSame.bind_doesSame {action : Action α} {next : α → Action β} {target : VariableId}
    (first : action.FindsSame one other) (rest : ∀ value, DoesSame target one other (next value)) :
    DoesSame target one other (action >>= next) := by
  obtain ⟨result, events, inOne, inOther⟩ := first
  cases result with
  | error error => exact .failed (by rw [bind_apply, inOne]) (by rw [bind_apply, inOther])
  | ok value =>
    cases rest value with
    | failed nextOne nextOther =>
      exact .failed (bind_eq_of_eq inOne nextOne) (bind_eq_of_eq inOther nextOther)
    | wrote nextOne nextOther =>
      exact .wrote (bind_eq_of_eq inOne nextOne) (bind_eq_of_eq inOther nextOther)

theorem DoesSame.result {action : Action α} {target : VariableId}
    (same : DoesSame target one other action) : (action other).result = (action one).result := by
  cases same with
  | failed inOne inOther | wrote inOne inOther => rw [inOne, inOther]

theorem DoesSame.events {action : Action α} {target : VariableId}
    (same : DoesSame target one other action) : (action other).events = (action one).events := by
  cases same with
  | failed inOne inOther | wrote inOne inOther => rw [inOne, inOther]

theorem DoesSame.store_cases {action : Action α} {target : VariableId}
    (same : DoesSame target one other action) :
    ((action one).store = one ∧ (action other).store = other) ∨
      ∃ var, (action one).store = one.put target var ∧
        (action other).store = other.put target var := by
  cases same with
  | failed inOne inOther => exact .inl ⟨by rw [inOne], by rw [inOther]⟩
  | @wrote _ var _ inOne inOther => exact .inr ⟨var, by rw [inOne], by rw [inOther]⟩

end Action

/-- What a formula comes to is decided by the target and the variables it is linked to. -/
theorem Formula.findsSame_compute {formula : Formula} {target : VariableId}
    (sameTarget : one.get target = other.get target)
    (same : Store.AgreeOn formula.links one other) (evaluator : Evaluator) :
    Action.FindsSame (formula.compute evaluator target) one other := by
  cases formula with
  | bool operator a b =>
    obtain ⟨sameA, sameB⟩ := List.forall_mem_append.mp same
    apply Action.findsSame_read
    simp only [Store.boolTarget_congr sameTarget, Reference.resolve_congr sameA,
      Reference.resolve_congr sameB]
  | number operator a b rounding =>
    obtain ⟨sameA, sameB⟩ := List.forall_mem_append.mp same
    apply Action.findsSame_read
    simp only [Store.numberTarget_congr sameTarget, Reference.resolve_congr sameA,
      Reference.resolve_congr sameB]
  | vector operator a b rounding =>
    obtain ⟨sameA, sameB⟩ := List.forall_mem_append.mp same
    apply Action.findsSame_read
    simp only [Store.vectorTarget_congr sameTarget, Reference.resolve_congr sameA,
      Reference.resolve_congr sameB]
  | scripted expression b c rounding =>
    obtain ⟨sameB, sameC⟩ := List.forall_mem_append.mp same
    refine (Action.findsSame_read (Store.numberTarget_congr sameTarget)).bind fun kind =>
      (Action.findsSame_read (scriptedBindings_congr sameTarget sameB sameC)).bind fun bindings =>
        (Action.findsSame_consult ..).bind fun value => ?_
    cases value with
    | number result => exact Action.findsSame_pure _
    | nil | boolean _ | text _ => exact Action.findsSame_read rfl

namespace Operation

/-- Two stores have the same of everything that an operation looks at: its target with
the target's observers, and what it is linked to. -/
structure SeesSame (operation : Operation) (one other : Store) : Prop where
  target : one.get operation.target = other.get operation.target
  links : Store.AgreeOn operation.links one other
  audience : one.observersOf operation.target = other.observersOf operation.target

theorem doesSame_commit {target : VariableId} (same : one.get target = other.get target)
    (audience : one.observersOf target = other.observersOf target) (value : Value)
    (raised : Bool) : Action.DoesSame target one other (commit target value raised) := by
  have written := one.set_eq_put target value
  have writtenOther := other.set_eq_put target value
  rw [← same] at writtenOther
  cases assigned : one.get target >>= fun var => var.assign value with
  | error error =>
    rw [assigned] at written writtenOther
    exact .failed (commit_of_refused written raised) (commit_of_refused writtenOther raised)
  | ok var =>
    rw [assigned] at written writtenOther
    obtain ⟨old, found, -⟩ := bind_eq_ok_iff.mp assigned
    have ended := commit_of_written written (Store.get_put_self found var) raised
    have endedOther := commit_of_written writtenOther (Store.get_put_self (same ▸ found) var) raised
    have announced : (one.put target var).announcement target var =
        (other.put target var).announcement target var := by
      rw [Store.announcement, Store.announcement, Store.subscriptions_to, Store.subscriptions_to]
      exact congrArg (fun held => List.map _ (List.map _ held)) audience
    rw [announced] at ended
    exact .wrote ended endedOther

/-- An operation is a matter of its target and of what it is linked to. -/
theorem doesSame_execute {operation : Operation} (same : operation.SeesSame one other)
    (evaluator : Evaluator) :
    Action.DoesSame operation.target one other (operation.execute evaluator) := by
  obtain ⟨sameOperands, sameFlag⟩ := List.forall_mem_append.mp same.links
  refine (Formula.findsSame_compute same.target sameOperands evaluator).bind_doesSame
    fun value => ?_
  refine (Action.findsSame_read (Reference.resolve_congr sameFlag)).bind_doesSame fun raised => ?_
  exact doesSame_commit same.target same.audience value raised

end Operation

end Agreement

namespace Operation

/-- An operation leaves alone what another one looks at. -/
theorem seesSame_after {first second : Operation} (apart : first.Apart second)
    (evaluator : Evaluator) (store : Store) :
    second.SeesSame store (first.execute evaluator store).store := by
  have itself : first.SeesSame store store := ⟨rfl, fun _ _ => rfl, rfl⟩
  rcases (doesSame_execute itself evaluator).store_cases with ⟨left, -⟩ | ⟨var, left, -⟩
  · rw [left]
    exact ⟨rfl, fun _ _ => rfl, rfl⟩
  · have elsewhere {id : VariableId} (unlike : first.target ≠ id) :
        store.get id = (store.put first.target var).get id :=
      (store.get_put_of_ne unlike var).symm
    rw [left]
    refine ⟨elsewhere apart.targets, fun id linked => elsewhere ?_, rfl⟩
    rintro rfl
    exact apart.firstUnread linked

/-- Two operations that keep out of each other's way end alike and make the same happen,
each as if it were alone, and leave the same store behind, whichever of them comes
first. -/
theorem commute_of_apart {first second : Operation} (apart : first.Apart second)
    (evaluator : Evaluator) (store : Store) :
    let ranFirst := first.execute evaluator store
    let thenSecond := second.execute evaluator ranFirst.store
    let ranSecond := second.execute evaluator store
    let thenFirst := first.execute evaluator ranSecond.store
    (thenFirst.result = ranFirst.result ∧ thenSecond.result = ranSecond.result) ∧
      (thenFirst.events = ranFirst.events ∧ thenSecond.events = ranSecond.events) ∧
      (thenFirst.notices = ranFirst.notices ∧ thenSecond.notices = ranSecond.notices) ∧
      thenSecond.store = thenFirst.store := by
  intro ranFirst thenSecond ranSecond thenFirst
  have firstSame := doesSame_execute (seesSame_after apart.symm evaluator store) evaluator
  have secondSame := doesSame_execute (seesSame_after apart evaluator store) evaluator
  have firstEvents : thenFirst.events = ranFirst.events := firstSame.events
  have secondEvents : thenSecond.events = ranSecond.events := secondSame.events
  refine ⟨⟨firstSame.result, secondSame.result⟩, ⟨firstEvents, secondEvents⟩,
    ⟨congrArg (List.filterMap Event.notice?) firstEvents,
      congrArg (List.filterMap Event.notice?) secondEvents⟩, ?_⟩
  rcases firstSame.store_cases with ⟨ranLeft, thenLeft⟩ | ⟨left, ranLeft, thenLeft⟩ <;>
    rcases secondSame.store_cases with ⟨ranRight, thenRight⟩ | ⟨right, ranRight, thenRight⟩
  · rw [thenRight, ranLeft, thenLeft, ranRight]
  · rw [thenRight, ranLeft, thenLeft, ranRight]
  · rw [thenRight, ranLeft, thenLeft, ranRight]
  · rw [thenRight, ranLeft, thenLeft, ranRight, Store.put_comm _ apart.targets]

/-- Before and after an alarm is set off, a purse cannot be shared among guests that were
never counted. -/
theorem commute_of_apart_purse :
    let purse : VariableId := ⟨0⟩
    let alarm : VariableId := ⟨1⟩
    let guests : VariableId := ⟨2⟩
    let store := (((Store.empty.adding ⟨"purse", .number (.int 9)⟩).adding
      ⟨"alarm", .bool false⟩).observing alarm "guard").observing purse "owner"
    let share : Operation :=
      ⟨purse, .number .divide (.bound purse) (.bound guests) .floor, .literal true⟩
    let ring : Operation := ⟨alarm, .bool .not (.bound alarm) .unbound, .literal true⟩
    let evaluator := engine .default
    share.Apart ring ∧
      (share.execute evaluator (ring.execute evaluator store).store).result =
        .error (.unknownVariable guests) ∧
      (ring.execute evaluator (share.execute evaluator store).store).notices =
        [⟨"guard", ⟨"alarm", .bool true⟩⟩] ∧
      (ring.execute evaluator (share.execute evaluator store).store).store =
        (share.execute evaluator (ring.execute evaluator store).store).store := by
  intro purse alarm guests store share ring evaluator
  have apart : share.Apart ring := by
    have shareLinks : share.links = [purse, guests] := rfl
    have ringLinks : ring.links = [alarm] := rfl
    constructor
    case targets => decide
    case firstUnread => simp [ringLinks, share, purse, alarm]
    case secondUnread => simp [shareLinks, ring, purse, alarm, guests]
  have refused : (share.execute evaluator store).result = .error (.unknownVariable guests) := rfl
  have told : (ring.execute evaluator store).notices = [⟨"guard", ⟨"alarm", .bool true⟩⟩] := by
    cbv
  obtain ⟨⟨sameRefusal, -⟩, -, ⟨-, sameNotices⟩, sameStore⟩ :=
    commute_of_apart apart evaluator store
  exact ⟨apart, sameRefusal.trans refused, sameNotices.trans told, sameStore⟩

end Operation

end Rulebook
