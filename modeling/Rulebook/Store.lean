import Rulebook.Error
import Std.Data.HashMap

/-! Variables by number and name, and who is told when one is raised. Ids are
given out in the order of declarations and never change their name or kind. -/
namespace Rulebook
open Text

/-- The number of a subscription, never given out twice. -/
structure SubscriptionId where
  serial : Nat
deriving DecidableEq

/-- An observer under the id of its subscription. -/
structure Observation where
  id : SubscriptionId
  observer : String
deriving DecidableEq

/-- Each variable has a list of observers of its own, in the order in which they
subscribed. -/
structure Store where
  declared : Array Variable
  /-- The ids of the variables by name. -/
  index : Std.HashMap String VariableId
  observers : Std.HashMap VariableId (List Observation)
  nextSerial : Nat

/-- What an observer is told: the variable as it stands when raised. -/
structure Notice where
  observer : String
  subject : Variable
deriving DecidableEq

namespace Store

def empty : Store := ⟨#[], ∅, ∅, 0⟩

def size (store : Store) : Nat :=
  store.declared.size

def idOf? (store : Store) (name : String) : Option VariableId :=
  store.index[name]?

def get (store : Store) (id : VariableId) : Except RuleError Variable :=
  match store.declared[id.index.toNat]? with
  | some var => .ok var
  | none => .error (.unknownVariable id)

theorem get_eq_ok_iff (store : Store) (id : VariableId) (var : Variable) :
    store.get id = .ok var ↔ store.declared[id.index.toNat]? = some var := by
  unfold get
  split <;> simp_all

/-- The observers of a variable, in the order in which they subscribed. -/
def observersOf (store : Store) (id : VariableId) : List Observation :=
  store.observers[id]?.getD []

def observerCount (store : Store) (id : VariableId) : Nat :=
  (store.observersOf id).length

/-- The first list of observers in which a subscription is found, under its
variable, and the place that it has there. -/
def place? (store : Store) (id : SubscriptionId) :
    Option (VariableId × List Observation × Nat) :=
  store.observers.toList.findSome? fun (subject, held) =>
    (held.findIdx? fun observation => decide (observation.id = id)).map fun place =>
      (subject, held, place)

/-- Ends a subscription; tells whether there was one. -/
def unsubscribe (store : Store) (id : SubscriptionId) : Bool × Store :=
  match store.place? id with
  | some (subject, held, place) =>
    (true, { store with observers := store.observers.insert subject (held.eraseIdx place) })
  | none => (false, store)

/-- What observers are told when a variable is raised, in the order of their
subscriptions. -/
def raise (store : Store) (id : VariableId) : Except RuleError (List Notice) := do
  let subject ← store.get id
  return (store.observersOf id).map fun observation => ⟨observation.observer, subject⟩

/-- The variables with their ids. -/
def entries (store : Store) : List (VariableId × Variable) :=
  store.declared.toList.zipIdx.map fun (var, index) => (⟨UInt32.ofNat index⟩, var)

/-- The store with its parts named; observers are only counted. -/
def inspect (store : Store) : String :=
  "VariableStore \x7b variables: [" ++
    ", ".intercalate (store.declared.toList.map Variable.inspect) ++
    "], observers: " ++
    toString (store.observers.fold (fun count _ held => count + held.length) 0) ++ " \x7d"

end Store

end Rulebook
