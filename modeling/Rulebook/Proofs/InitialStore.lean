import Rulebook.Proofs.Declarations

/-! The store that a rule set's definitions build. Definitions with distinct names are
all declared, the first under the first id; the first one whose name is taken ends the
building. -/
namespace Rulebook

/-- The variable that a definition declares. -/
def VariableDefinition.toVariable (definition : VariableDefinition) : Variable :=
  ⟨definition.name, definition.value⟩

namespace Store

theorem declared_foldl_adding (store : Store) (added : List Variable) :
    (added.foldl adding store).declared = store.declared ++ added.toArray := by
  induction added generalizing store with
  | nil => simp
  | cons var rest ih =>
    rw [List.foldl_cons, ih]
    simp [adding]

theorem names_foldl_adding (store : Store) (added : List Variable) :
    (added.foldl adding store).names = store.names ++ added.map Variable.name := by
  simp [names, declared_foldl_adding]

/-- The index stays in step while variables with new and distinct names are added. -/
theorem Indexed.foldl_adding {store : Store} (indexed : store.Indexed) {added : List Variable}
    (distinct : (store.names ++ added.map Variable.name).Nodup) :
    (added.foldl Store.adding store).Indexed := by
  induction added generalizing store with
  | nil => exact indexed
  | cons var rest ih =>
    have fresh : var.name ∉ store.names := fun taken =>
      List.disjoint_of_nodup_append distinct taken (List.mem_cons_self ..)
    refine ih (indexed.adding var fresh) ?_
    rw [names_adding, List.append_assoc]
    exact distinct

end Store

namespace RuleSet

/-- A store with the variables of a rule set, the first definition at the first id. -/
def variableStore (ruleSet : RuleSet) : Store :=
  (ruleSet.definitions.map VariableDefinition.toVariable).foldl Store.adding .empty

theorem declared_variableStore (ruleSet : RuleSet) :
    ruleSet.variableStore.declared =
      (ruleSet.definitions.map VariableDefinition.toVariable).toArray := by
  rw [variableStore, Store.declared_foldl_adding]
  exact Array.empty_append

theorem declareAll_append (store : Store) (first second : List VariableDefinition) :
    declareAll store (first ++ second) =
      declareAll store first >>= fun between => declareAll between second := by
  induction first generalizing store with
  | nil => rfl
  | cons definition rest ih =>
    simp only [List.cons_append, declareAll, bind_assoc, ih]

/-- Variables with new and distinct names are all declared, in order. -/
theorem declareAll_of_fresh {store : Store} (indexed : store.Indexed)
    {definitions : List VariableDefinition}
    (distinct : (store.names ++ definitions.map VariableDefinition.name).Nodup) :
    declareAll store definitions =
      .ok ((definitions.map VariableDefinition.toVariable).foldl Store.adding store) := by
  induction definitions generalizing store with
  | nil => rfl
  | cons definition rest ih =>
    have fresh : definition.name ∉ store.names := fun taken =>
      List.disjoint_of_nodup_append distinct taken (List.mem_cons_self ..)
    rw [declareAll, Store.declare, Action.finish, Store.declare_of_fresh indexed fresh]
    refine ih (indexed.adding definition.toVariable fresh) ?_
    rw [Store.names_adding, List.append_assoc]
    exact distinct

theorem buildStore_of_nodup {ruleSet : RuleSet}
    (distinct : (ruleSet.definitions.map VariableDefinition.name).Nodup) :
    ruleSet.buildStore = .ok ruleSet.variableStore := by
  rw [buildStore, declareAll_of_fresh Store.indexed_empty distinct]
  rfl

/-- The first variable whose name is taken is refused, whatever comes after it. -/
theorem buildStore_of_repeated {ruleSet : RuleSet} {before after : List VariableDefinition}
    {definition : VariableDefinition}
    (split : ruleSet.definitions = before ++ definition :: after)
    (distinct : (before.map VariableDefinition.name).Nodup)
    (taken : definition.name ∈ before.map VariableDefinition.name) :
    ruleSet.buildStore = .error (.store (.duplicateVariable definition.name)) := by
  let built := (before.map VariableDefinition.toVariable).foldl Store.adding .empty
  have names : (before.map VariableDefinition.toVariable).map Variable.name =
      before.map VariableDefinition.name := by
    rw [List.map_map]
    rfl
  have indexed : built.Indexed := Store.indexed_empty.foldl_adding (names ▸ distinct)
  have held : definition.name ∈ built.names := by
    rw [Store.names_foldl_adding, names]
    exact taken
  rw [buildStore, split, declareAll_append, declareAll_of_fresh Store.indexed_empty distinct]
  change (declareAll built (definition :: after)).mapError RuleSetError.store = _
  rw [declareAll, Store.declare, Action.finish, Store.declare_of_taken indexed held]
  rfl

end RuleSet

end Rulebook
