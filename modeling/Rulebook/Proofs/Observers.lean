import Mathlib.Data.List.Nodup
import Rulebook.Action

/-! The lists of observers that a store keeps for its variables, seen as one list
of subscriptions. What a change does to the store's lists it does to that one
list, where it is easier to tell: a subscription is added at the end, or the one
that has an id is left out. -/
namespace Rulebook

/-- An observer's wish to be told about a variable. -/
structure Subscription where
  id : SubscriptionId
  subject : VariableId
  observer : String
deriving DecidableEq

/-- The subscription that an entry in a variable's list stands for. -/
def Observation.subscription (subject : VariableId) (observation : Observation) : Subscription :=
  ⟨observation.id, subject, observation.observer⟩

/-- The subscriptions to one variable. -/
def Subscription.to (subscriptions : List Subscription) (id : VariableId) : List Subscription :=
  subscriptions.filter fun subscription => decide (subscription.subject = id)

theorem Subscription.to_filter (subscriptions : List Subscription) (keep : Subscription → Bool)
    (id : VariableId) :
    Subscription.to (subscriptions.filter keep) id =
      (Subscription.to subscriptions id).filter keep := by
  simp only [Subscription.to, List.filter_filter, Bool.and_comm]

namespace Store

/-- All subscriptions, variable by variable. Those to one variable stand in the
order in which they were made. -/
def subscriptions (store : Store) : List Subscription :=
  store.observers.toList.flatMap fun (subject, held) => held.map (Observation.subscription subject)

theorem filter_observations (held : List Observation) (subject id : VariableId) :
    Subscription.to (held.map (Observation.subscription subject)) id =
      if subject = id then held.map (Observation.subscription id) else [] := by
  rw [Subscription.to, List.filter_map]
  split
  · rename_i same
    subst same
    rw [List.filter_eq_self.mpr fun _ _ => by simp [Observation.subscription]]
  · rename_i apart
    rw [List.filter_eq_nil_iff.mpr fun _ _ => by simp [Observation.subscription, apart]]
    rfl

/-- Keys of a table are distinct, so a list is found in its place only. -/
theorem flatMap_held (store : Store) (id : VariableId) {β : Type}
    (view : List Observation → List β) (empty : view [] = []) :
    (store.observers.toList.flatMap fun entry => if entry.1 = id then view entry.2 else []) =
      view (store.observersOf id) := by
  have nothing : ∀ entries : List (VariableId × List Observation),
      (∀ entry ∈ entries, entry.1 ≠ id) →
      (entries.flatMap fun entry => if entry.1 = id then view entry.2 else []) = [] :=
    fun entries absent => List.flatMap_eq_nil_iff.mpr fun entry member =>
      if_neg (absent entry member)
  cases held : store.observers[id]? with
  | none =>
    rw [observersOf, held, Option.getD_none, empty]
    refine nothing _ fun entry member same => ?_
    have found := Std.HashMap.mem_toList_iff_getElem?_eq_some.mp member
    rw [same, held] at found
    cases found
  | some observations =>
    have member : (id, observations) ∈ store.observers.toList :=
      Std.HashMap.mem_toList_iff_getElem?_eq_some.mpr held
    obtain ⟨before, after, split⟩ := List.append_of_mem member
    have distinct := store.observers.distinct_keys_toList
    rw [split, List.pairwise_append] at distinct
    obtain ⟨-, later, across⟩ := distinct
    have left := nothing before fun entry inside same => by
      simpa [same] using across entry inside _ (List.mem_cons_self ..)
    have right := nothing after fun entry inside same => by
      simpa [same] using (List.pairwise_cons.mp later).1 entry inside
    rw [split, List.flatMap_append, List.flatMap_cons, left, right, if_pos rfl, observersOf, held]
    simp

/-- The subscriptions to a variable are those in its own list. -/
theorem subscriptions_to (store : Store) (id : VariableId) :
    Subscription.to store.subscriptions id =
      (store.observersOf id).map (Observation.subscription id) := by
  rw [← flatMap_held store id (List.map (Observation.subscription id)) rfl, subscriptions,
    Subscription.to, List.filter_flatMap]
  exact List.flatMap_congr fun entry _ => filter_observations entry.2 entry.1 id

/-- A store keeps some subscriptions: the list of every variable has those to it, in
their order, and their ids are distinct and have all been given out. -/
structure Keeps (store : Store) (subscriptions : List Subscription) : Prop where
  lists : ∀ id, Subscription.to subscriptions id =
    (store.observersOf id).map (Observation.subscription id)
  distinct : (subscriptions.map Subscription.id).Nodup
  issued : ∀ subscription ∈ subscriptions, subscription.id.serial < store.nextSerial

section Keeps
variable {store next : Store} {subscriptions : List Subscription} {id : SubscriptionId}

/-- What neither touches the lists nor gives out an id keeps what was kept. -/
theorem Keeps.of_eq (keeps : store.Keeps subscriptions) (lists : next.observers = store.observers)
    (serial : next.nextSerial = store.nextSerial) : next.Keeps subscriptions where
  lists := by
    intro id
    rw [keeps.lists, observersOf, observersOf, lists]
  distinct := keeps.distinct
  issued := by
    rw [serial]
    exact keeps.issued

theorem Keeps.mem_iff (keeps : store.Keeps subscriptions) (subscription : Subscription) :
    subscription ∈ subscriptions ↔
      ∃ observation ∈ store.observersOf subscription.subject,
        observation.subscription subscription.subject = subscription := by
  rw [← List.mem_map, ← keeps.lists, Subscription.to, List.mem_filter]
  simp

/-- No two subscriptions that are kept have one id. -/
theorem Keeps.unique (keeps : store.Keeps subscriptions) {one other : Subscription}
    (first : one ∈ subscriptions) (second : other ∈ subscriptions) (same : one.id = other.id) :
    one = other :=
  List.inj_on_of_nodup_map keeps.distinct first second same

/-- A new observer comes last, in the list of its variable and among all. -/
theorem Keeps.subscribe (keeps : store.Keeps subscriptions) (subject : VariableId)
    (observer : String) :
    (store.observing subject observer).Keeps
      (subscriptions ++ [⟨⟨store.nextSerial⟩, subject, observer⟩]) where
  lists := by
    intro id
    have old := keeps.lists id
    simp only [Subscription.to, observersOf] at old
    by_cases same : subject = id
    · subst same
      simp [Subscription.to, observersOf, observing, old, Observation.subscription]
    · simp [Subscription.to, observersOf, observing, old, same, Std.HashMap.getElem?_insert]
  distinct := by
    rw [List.map_append, List.map_singleton, List.nodup_append_comm]
    refine List.nodup_cons.mpr ⟨fun taken => ?_, keeps.distinct⟩
    obtain ⟨earlier, member, same⟩ := List.mem_map.mp taken
    have below := keeps.issued earlier member
    rw [same] at below
    exact Nat.lt_irrefl _ below
  issued := by
    intro subscription member
    rcases List.mem_append.mp member with old | new
    · exact Nat.lt_succ_of_lt (keeps.issued subscription old)
    · rw [List.mem_singleton.mp new]
      exact Nat.lt_succ_self _

/-- Taking an entry out of its place leaves out the one that has its id, where ids are
distinct. -/
theorem eraseIdx_place {held : List Observation} {place : Nat}
    (distinct : (held.map Observation.id).Nodup)
    (found : (held.findIdx? fun observation => decide (observation.id = id)) = some place) :
    held.eraseIdx place = held.filter fun observation => decide (observation.id ≠ id) := by
  have erased : held.eraseIdx place =
      held.eraseP fun observation => decide (observation.id = id) := by
    rw [List.eraseP_eq_eraseIdx, found]
  rw [erased]
  clear erased found
  induction held with
  | nil => rfl
  | cons first rest ih =>
    obtain ⟨fresh, distinct⟩ := List.nodup_cons.mp distinct
    by_cases same : first.id = id
    · have others : ∀ observation ∈ rest, observation.id ≠ id := by
        intro observation member equal
        exact fresh (List.mem_map.mpr ⟨observation, member, equal.trans same.symm⟩)
      have kept : (rest.filter fun observation => decide (observation.id ≠ id)) = rest :=
        List.filter_eq_self.mpr fun observation member => decide_eq_true (others observation member)
      simp only [List.eraseP_cons, List.filter_cons, same, kept, decide_true, cond_true, ne_eq,
        not_true_eq_false, decide_false, Bool.false_eq_true, if_false]
    · simp only [List.eraseP_cons, List.filter_cons, same, ih distinct, decide_false, cond_false,
        ne_eq, not_false_eq_true, decide_true, if_true]

/-- The ids in the list of a variable are distinct. -/
theorem Keeps.distinct_list (keeps : store.Keeps subscriptions) (subject : VariableId) :
    ((store.observersOf subject).map Observation.id).Nodup := by
  have part := (List.filter_sublist (p := fun subscription : Subscription =>
    decide (subscription.subject = subject)) (l := subscriptions)).map Subscription.id
  have distinct := keeps.distinct.sublist part
  rw [← Subscription.to, keeps.lists, List.map_map] at distinct
  exact distinct

theorem Keeps.of_place (keeps : store.Keeps subscriptions) {subject : VariableId}
    {held : List Observation} {place : Nat}
    (found : store.place? id = some (subject, held, place)) :
    store.observersOf subject = held ∧
      (held.findIdx? fun observation => decide (observation.id = id)) = some place ∧
      ∃ subscription ∈ subscriptions, subscription.id = id ∧ subscription.subject = subject := by
  obtain ⟨⟨key, list⟩, member, located⟩ := List.exists_of_findSome?_eq_some found
  obtain ⟨_, index, same⟩ := Option.map_eq_some_iff.mp located
  cases same
  have stored := Std.HashMap.mem_toList_iff_getElem?_eq_some.mp member
  have list : store.observersOf subject = held := by rw [observersOf, stored]; rfl
  obtain ⟨inside, named, -⟩ := List.findIdx?_eq_some_iff_getElem.mp index
  refine ⟨list, index, held[place].subscription subject, (keeps.mem_iff _).mpr ?_,
    of_decide_eq_true named, rfl⟩
  exact ⟨held[place], by rw [Observation.subscription, list]; exact List.getElem_mem inside, rfl⟩

theorem Keeps.of_no_place (keeps : store.Keeps subscriptions) (missing : store.place? id = none) :
    ∀ subscription ∈ subscriptions, subscription.id ≠ id := by
  intro subscription member same
  obtain ⟨observation, inside, shape⟩ := (keeps.mem_iff subscription).mp member
  rw [observersOf] at inside
  cases stored : store.observers[subscription.subject]? with
  | none => simp [stored] at inside
  | some held =>
    rw [stored, Option.getD_some] at inside
    have passed := List.findSome?_eq_none_iff.mp missing _
      (Std.HashMap.mem_toList_iff_getElem?_eq_some.mpr stored)
    have nowhere := Option.map_eq_none_iff.mp passed
    have apart := List.findIdx?_eq_none_iff.mp nowhere observation inside
    rw [← shape] at same
    exact absurd same (of_decide_eq_false apart)

/-- Taking out of a list what has an id leaves it out of all subscriptions. The other lists
do not have it. -/
theorem Keeps.eraseIdx (keeps : store.Keeps subscriptions) {subject : VariableId}
    {held : List Observation} {place : Nat}
    (found : store.place? id = some (subject, held, place)) :
    { store with observers := store.observers.insert subject (held.eraseIdx place) }.Keeps
      (subscriptions.filter fun subscription => decide (subscription.id ≠ id)) := by
  obtain ⟨list, index, ended, member, named, subjectOf⟩ := keeps.of_place found
  refine ⟨fun other => ?_, keeps.distinct.sublist (List.filter_sublist.map _),
    fun other inside => keeps.issued other (List.mem_filter.mp inside).1⟩
  rw [Subscription.to_filter]
  by_cases same : subject = other
  · subst same
    have distinct := keeps.distinct_list subject
    rw [list] at distinct
    rw [keeps.lists, list, List.filter_map, observersOf, Std.HashMap.getElem?_insert_self,
      Option.getD_some, eraseIdx_place distinct index]
    rfl
  · have spared : ∀ subscription ∈ Subscription.to subscriptions other, subscription.id ≠ id := by
      intro subscription inside equal
      obtain ⟨inside, subjectIs⟩ := List.mem_filter.mp inside
      have one := keeps.unique inside member (equal.trans named.symm)
      rw [one, decide_eq_true_eq] at subjectIs
      exact same (subjectOf.symm.trans subjectIs)
    rw [List.filter_eq_self.mpr fun subscription inside =>
      decide_eq_true (spared subscription inside), keeps.lists]
    simp [observersOf, Std.HashMap.getElem?_insert, same]

/-- Ending a subscription leaves out the one that has the id, from all lists. -/
theorem Keeps.unsubscribe (keeps : store.Keeps subscriptions) (id : SubscriptionId) :
    (store.unsubscribe id).1 =
        (subscriptions.any fun subscription => decide (subscription.id = id)) ∧
      (store.unsubscribe id).2.Keeps
        (subscriptions.filter fun subscription => decide (subscription.id ≠ id)) := by
  cases found : store.place? id with
  | none =>
    have absent := keeps.of_no_place found
    have nobody : (subscriptions.any fun subscription => decide (subscription.id = id)) = false :=
      List.any_eq_false.mpr fun subscription member => by simpa using absent subscription member
    have all : (subscriptions.filter fun subscription => decide (subscription.id ≠ id)) =
        subscriptions :=
      List.filter_eq_self.mpr fun subscription member => decide_eq_true (absent subscription member)
    rw [Store.unsubscribe, found, nobody, all]
    exact ⟨rfl, keeps⟩
  | some entry =>
    obtain ⟨subject, held, place⟩ := entry
    obtain ⟨-, -, ended, member, named, -⟩ := keeps.of_place found
    have somebody : (subscriptions.any fun subscription => decide (subscription.id = id)) = true :=
      List.any_eq_true.mpr ⟨ended, member, decide_eq_true named⟩
    rw [Store.unsubscribe, found, somebody]
    exact ⟨rfl, keeps.eraseIdx found⟩

end Keeps

end Store

end Rulebook
