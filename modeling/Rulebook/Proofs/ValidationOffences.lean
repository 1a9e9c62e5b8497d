import Mathlib.Data.List.Induction
import Rulebook.Proofs.ValidationSoundness

/-! What validation of a rule set decides and what it reports. Variables come first, and
then the rules in their order, of each its name before its conditions and those before
its operations. A rule set is turned down exactly if there is an offence, and it is the
first one in this order that is reported. -/
namespace Rulebook
open Script

/-- A list in which a key occurs twice has a first member whose key occurred before. -/
theorem exists_first_repeated [DecidableEq κ] {key : α → κ} {list : List α}
    (repeated : ¬(list.map key).Nodup) :
    ∃ before member after, list = before ++ member :: after ∧ (before.map key).Nodup ∧
      key member ∈ before.map key := by
  induction list using List.reverseRecOn with
  | nil => exact absurd List.nodup_nil repeated
  | append_singleton earlier last ih =>
    by_cases distinct : (earlier.map key).Nodup
    · refine ⟨earlier, last, [], rfl, distinct, ?_⟩
      by_contra fresh
      apply repeated
      rw [List.map_append]
      exact List.nodup_append_comm.mp (List.nodup_cons.mpr ⟨fresh, distinct⟩)
    · obtain ⟨before, member, after, rfl, first⟩ := ih distinct
      exact ⟨before, member, after ++ [last], by simp, first⟩

namespace Rule

/-- Every condition and every operation is valid. -/
structure Valid (rule : Rule) (evaluator : Evaluator) (store : Store) : Prop where
  conditions : ∀ condition ∈ rule.conditions, condition.validate evaluator store = .ok ()
  operations : ∀ operation ∈ rule.operations.flatten, operation.validate evaluator store = .ok ()

/-- The first condition that is not valid has this error, or, when all conditions are
valid, the first operation, list by list. -/
inductive FirstInvalid (rule : Rule) (evaluator : Evaluator) (store : Store)
    (reason : RuleError) : Prop where
  | condition
      (rejected : RejectsFirst (Condition.validate evaluator store) rule.conditions reason)
  | operation
      (conditions : ∀ condition ∈ rule.conditions, condition.validate evaluator store = .ok ())
      (rejected : RejectsFirst (fun operation => operation.validate evaluator store)
        rule.operations.flatten reason)

theorem validate_eq_error_iff (rule : Rule) (evaluator : Evaluator) (store : Store)
    (reason : RuleError) :
    rule.validate evaluator store = .error reason ↔ rule.FirstInvalid evaluator store reason := by
  unfold validate
  rw [bind_eq_error_iff, forM_eq_error_iff]
  constructor
  · rintro (failed | ⟨_, checked, failed⟩)
    · exact .condition failed
    · exact .operation (forM_eq_ok_iff.mp checked) (forM_eq_error_iff.mp failed)
  · rintro (failed | ⟨checked, failed⟩)
    · exact .inl failed
    · exact .inr ⟨_, forM_eq_ok_iff.mpr checked, forM_eq_error_iff.mpr failed⟩

theorem validate_eq_ok_iff_valid (rule : Rule) (evaluator : Evaluator) (store : Store) :
    rule.validate evaluator store = .ok () ↔ rule.Valid evaluator store := by
  rw [validate_eq_ok_iff]
  exact ⟨fun ⟨conditions, operations⟩ => ⟨conditions, operations⟩,
    fun valid => ⟨valid.conditions, valid.operations⟩⟩

end Rule

namespace RuleSet

/-- A store has the variables of a rule set and no others, each under the id that is the
place of its definition. -/
structure HeldBy (ruleSet : RuleSet) (store : Store) : Prop where
  held : ∀ place definition, ruleSet.definitions[place]? = some definition →
    store.get ⟨.ofNat place⟩ = .ok definition.toVariable
  others : ∀ id : VariableId, ruleSet.definitions.length ≤ id.index.toNat →
    store.get id = .error (.unknownVariable id)

/-- Rules whose names are distinct and not among those taken, and all of which are valid. -/
structure InOrder (evaluator : Evaluator) (store : Store) (taken : List String)
    (rules : List Rule) : Prop where
  distinct : (rules.map Rule.name).Nodup
  fresh : ∀ rule ∈ rules, rule.name ∉ taken
  valid : ∀ rule ∈ rules, rule.Valid evaluator store

/-- What is wrong with a rule by itself, where some names are taken. -/
inductive Offends (evaluator : Evaluator) (store : Store) (taken : List String) (rule : Rule) :
    RuleSetError → Prop where
  | repeated (member : rule.name ∈ taken) :
    Offends evaluator store taken rule (.duplicateRule rule.name)
  | invalid {reason : RuleError} (fresh : rule.name ∉ taken)
      (first : rule.FirstInvalid evaluator store reason) :
    Offends evaluator store taken rule (.invalidRule rule.name reason)

/-- The first offence of a rule set: a name that an earlier variable has, or, when the
variables are in order, what is wrong with the first rule that offends. -/
inductive FirstOffence (ruleSet : RuleSet) (evaluator : Evaluator) : RuleSetError → Prop where
  | repeatedVariable {before after : List VariableDefinition} {definition : VariableDefinition}
      (split : ruleSet.definitions = before ++ definition :: after)
      (distinct : (before.map VariableDefinition.name).Nodup)
      (taken : definition.name ∈ before.map VariableDefinition.name) :
    FirstOffence ruleSet evaluator (.store (.duplicateVariable definition.name))
  | offendingRule {before after : List Rule} {rule : Rule} {error : RuleSetError}
      (declarable : (ruleSet.definitions.map VariableDefinition.name).Nodup)
      (split : ruleSet.rules = before ++ rule :: after)
      (inOrder : InOrder evaluator ruleSet.variableStore [] before)
      (offends : Offends evaluator ruleSet.variableStore (before.map Rule.name) rule error) :
    FirstOffence ruleSet evaluator error

/-! Declaring variables. -/

theorem heldBy_variableStore {ruleSet : RuleSet}
    (few : ruleSet.definitions.length ≤ UInt32.size) :
    ruleSet.HeldBy ruleSet.variableStore := by
  constructor
  · intro place definition defined
    obtain ⟨inside, -⟩ := List.getElem?_eq_some_iff.mp defined
    have numbered : (UInt32.ofNat place).toNat = place :=
      UInt32.toNat_ofNat_of_lt' (Nat.lt_of_lt_of_le inside few)
    rw [Store.get_eq_ok_iff, declared_variableStore]
    simp [numbered, defined]
  · intro id beyond
    have missing : ruleSet.variableStore.declared[id.index.toNat]? = none := by
      simpa [declared_variableStore] using beyond
    simp only [Store.get, missing]

/-! Checking rules. -/

section Rules
variable {evaluator : Evaluator} {store : Store} {taken : List String}

theorem inOrder_cons_iff {rule : Rule} {rest : List Rule} :
    InOrder evaluator store taken (rule :: rest) ↔ rule.name ∉ taken ∧
      rule.Valid evaluator store ∧ InOrder evaluator store (rule.name :: taken) rest := by
  constructor
  · rintro ⟨distinct, fresh, valid⟩
    obtain ⟨apart, distinctRest⟩ := List.nodup_cons.mp distinct
    obtain ⟨freshFirst, freshRest⟩ := List.forall_mem_cons.mp fresh
    obtain ⟨validFirst, validRest⟩ := List.forall_mem_cons.mp valid
    refine ⟨freshFirst, validFirst, distinctRest, fun later member held => ?_, validRest⟩
    rcases List.mem_cons.mp held with same | held
    · exact apart (same ▸ List.mem_map_of_mem member)
    · exact freshRest later member held
  · rintro ⟨freshFirst, validFirst, distinctRest, freshRest, validRest⟩
    refine ⟨List.nodup_cons.mpr ⟨fun member => ?_, distinctRest⟩,
      List.forall_mem_cons.mpr ⟨freshFirst, fun later member held => ?_⟩,
      List.forall_mem_cons.mpr ⟨validFirst, validRest⟩⟩
    · obtain ⟨later, laterMember, same⟩ := List.mem_map.mp member
      exact freshRest later laterMember (same ▸ List.mem_cons_self)
    · exact freshRest later member (List.mem_cons_of_mem _ held)

theorem Offends.of_same_names {names : List String} {rule : Rule} {error : RuleSetError}
    (offends : Offends evaluator store taken rule error)
    (same : ∀ name, name ∈ names ↔ name ∈ taken) : Offends evaluator store names rule error := by
  cases offends with
  | repeated member => exact .repeated ((same _).mpr member)
  | invalid fresh first => exact .invalid (mt (same _).mp fresh) first

/-- A rule that offends ends the check; the check goes on after any other. -/
theorem validateRules_cons_cases (evaluator : Evaluator) (store : Store) (taken : List String)
    (rule : Rule) (rest : List Rule) :
    (∃ error, Offends evaluator store taken rule error ∧
      validateRules evaluator store taken (rule :: rest) = .error error) ∨
    (rule.name ∉ taken ∧ rule.Valid evaluator store ∧
      validateRules evaluator store taken (rule :: rest) =
        validateRules evaluator store (rule.name :: taken) rest) := by
  rw [validateRules]
  by_cases member : rule.name ∈ taken
  · rw [if_pos member]
    exact .inl ⟨_, .repeated member, rfl⟩
  · rw [if_neg member]
    cases checked : rule.validate evaluator store with
    | error reason =>
      exact .inl ⟨_, .invalid member ((rule.validate_eq_error_iff ..).mp checked), rfl⟩
    | ok _ => exact .inr ⟨member, (rule.validate_eq_ok_iff_valid ..).mp checked, rfl⟩

theorem Offends.not_fine {rule : Rule} {error : RuleSetError}
    (offends : Offends evaluator store taken rule error) :
    ¬(rule.name ∉ taken ∧ rule.Valid evaluator store) := by
  rintro ⟨fresh, valid⟩
  cases offends with
  | repeated member => exact fresh member
  | invalid _ first =>
    have checked := (rule.validate_eq_ok_iff_valid evaluator store).mpr valid
    rw [(rule.validate_eq_error_iff ..).mpr first] at checked
    cases checked

/-- An offence is one thing or another, never two. -/
theorem Offends.unique {rule : Rule} {first second : RuleSetError}
    (one : Offends evaluator store taken rule first)
    (other : Offends evaluator store taken rule second) : first = second := by
  cases one with
  | repeated member =>
    cases other with
    | repeated => rfl
    | invalid fresh => exact absurd member fresh
  | invalid fresh reported =>
    cases other with
    | repeated member => exact absurd member fresh
    | invalid _ also =>
      have ended := (rule.validate_eq_error_iff ..).mpr reported
      rw [(rule.validate_eq_error_iff ..).mpr also] at ended
      cases ended
      rfl

theorem validateRules_eq_ok_iff {rules : List Rule} :
    validateRules evaluator store taken rules = .ok () ↔ InOrder evaluator store taken rules := by
  induction rules generalizing taken with
  | nil => exact ⟨fun _ => ⟨List.nodup_nil, nofun, nofun⟩, fun _ => rfl⟩
  | cons rule rest ih =>
    rw [inOrder_cons_iff]
    rcases validateRules_cons_cases evaluator store taken rule rest with
      ⟨error, offends, ended⟩ | ⟨fresh, valid, ended⟩
    · rw [ended]
      exact ⟨nofun, fun ⟨fresh, valid, _⟩ => absurd ⟨fresh, valid⟩ offends.not_fine⟩
    · rw [ended, ih]
      exact ⟨fun others => ⟨fresh, valid, others⟩, fun ⟨_, _, others⟩ => others⟩

/-- The check ends with what is wrong with the first rule that offends. -/
theorem validateRules_eq_error_iff {rules : List Rule} {error : RuleSetError} :
    validateRules evaluator store taken rules = .error error ↔
      ∃ before rule after, rules = before ++ rule :: after ∧
        InOrder evaluator store taken before ∧
        Offends evaluator store (before.map Rule.name ++ taken) rule error := by
  induction rules generalizing taken with
  | nil =>
    constructor
    · nofun
    · rintro ⟨before, rule, after, split, -⟩
      cases before <;> cases split
  | cons head rest ih =>
    rcases validateRules_cons_cases evaluator store taken head rest with
      ⟨found, offends, ended⟩ | ⟨fresh, valid, ended⟩
    · rw [ended]
      constructor
      · intro same
        cases same
        exact ⟨[], head, rest, rfl, ⟨List.nodup_nil, nofun, nofun⟩, offends⟩
      · rintro ⟨before, rule, after, split, inOrder, others⟩
        cases before with
        | nil =>
          cases split
          rw [offends.unique others]
        | cons first before =>
          cases split
          obtain ⟨fresh, valid, -⟩ := inOrder_cons_iff.mp inOrder
          exact absurd ⟨fresh, valid⟩ offends.not_fine
    · rw [ended, ih]
      constructor
      · rintro ⟨before, rule, after, rfl, inOrder, offends⟩
        refine ⟨head :: before, rule, after, rfl, inOrder_cons_iff.mpr ⟨fresh, valid, inOrder⟩, ?_⟩
        exact offends.of_same_names fun name => by simp [or_left_comm]
      · rintro ⟨before, rule, after, split, inOrder, offends⟩
        cases before with
        | nil =>
          cases split
          exact absurd ⟨fresh, valid⟩ offends.not_fine
        | cons first before =>
          cases split
          refine ⟨before, rule, after, rfl, (inOrder_cons_iff.mp inOrder).2.2, ?_⟩
          exact offends.of_same_names fun name => by simp [or_left_comm]

end Rules

section Whole
variable {ruleSet : RuleSet} (evaluator : Evaluator)

/-- Where variables can be declared, validation is a matter of the rules. -/
theorem validate_of_nodup (distinct : (ruleSet.definitions.map VariableDefinition.name).Nodup) :
    ruleSet.validate evaluator =
      validateRules evaluator ruleSet.variableStore [] ruleSet.rules := by
  rw [validate, buildStore_of_nodup distinct]
  rfl

theorem validate_of_repeated {before after : List VariableDefinition}
    {definition : VariableDefinition}
    (split : ruleSet.definitions = before ++ definition :: after)
    (distinct : (before.map VariableDefinition.name).Nodup)
    (taken : definition.name ∈ before.map VariableDefinition.name) :
    ruleSet.validate evaluator = .error (.store (.duplicateVariable definition.name)) := by
  rw [validate, buildStore_of_repeated split distinct taken]
  rfl

/-- A rule set is valid if its names are distinct and its rules are valid. -/
theorem validate_eq_ok_iff :
    ruleSet.validate evaluator = .ok () ↔
      (ruleSet.definitions.map VariableDefinition.name).Nodup ∧
        (ruleSet.rules.map Rule.name).Nodup ∧
        ∀ rule ∈ ruleSet.rules, rule.Valid evaluator ruleSet.variableStore := by
  by_cases distinct : (ruleSet.definitions.map VariableDefinition.name).Nodup
  · rw [validate_of_nodup evaluator distinct, validateRules_eq_ok_iff]
    constructor
    · rintro ⟨names, -, valid⟩
      exact ⟨distinct, names, valid⟩
    · rintro ⟨-, names, valid⟩
      exact ⟨names, fun _ _ => List.not_mem_nil, valid⟩
  · obtain ⟨before, definition, after, split, apart, taken⟩ := exists_first_repeated distinct
    rw [validate_of_repeated evaluator split apart taken]
    exact ⟨nofun, fun ⟨names, _⟩ => absurd names distinct⟩

/-- Where validation fails it tells the first offence. -/
theorem validate_eq_error_iff {error : RuleSetError} :
    ruleSet.validate evaluator = .error error ↔ ruleSet.FirstOffence evaluator error := by
  constructor
  · intro failed
    by_cases distinct : (ruleSet.definitions.map VariableDefinition.name).Nodup
    · rw [validate_of_nodup evaluator distinct] at failed
      obtain ⟨before, rule, after, split, inOrder, offends⟩ := validateRules_eq_error_iff.mp failed
      exact .offendingRule distinct split inOrder (offends.of_same_names (by simp))
    · obtain ⟨before, definition, after, split, apart, taken⟩ := exists_first_repeated distinct
      rw [validate_of_repeated evaluator split apart taken] at failed
      cases failed
      exact .repeatedVariable split apart taken
  · intro first
    cases first with
    | repeatedVariable split distinct taken =>
      exact validate_of_repeated evaluator split distinct taken
    | offendingRule distinct split inOrder offends =>
      rw [validate_of_nodup evaluator distinct]
      exact validateRules_eq_error_iff.mpr
        ⟨_, _, _, split, inOrder, offends.of_same_names (by simp)⟩

end Whole

/-- Validation passes exactly the rule sets with distinct names of variables, distinct
names of rules, and conditions and operations that are valid where each variable has the
id that is the place of its definition; and of all others it tells the first offence. -/
theorem validation_exact {ruleSet : RuleSet}
    (few : ruleSet.definitions.length ≤ UInt32.size) (evaluator : Evaluator) :
    ruleSet.HeldBy ruleSet.variableStore ∧
    (ruleSet.validate evaluator = .ok () ↔
      (ruleSet.definitions.map VariableDefinition.name).Nodup ∧
        (ruleSet.rules.map Rule.name).Nodup ∧
        ∀ rule ∈ ruleSet.rules, rule.Valid evaluator ruleSet.variableStore) ∧
    ∀ error, ruleSet.validate evaluator = .error error ↔
      ruleSet.FirstOffence evaluator error :=
  ⟨heldBy_variableStore few, validate_eq_ok_iff evaluator,
    fun _ => validate_eq_error_iff evaluator⟩

/-- A smithy in which a sword is forged of ore that nobody counts, by a rule that comes
before one whose name is taken. -/
def smithy : RuleSet :=
  let swords : VariableId := ⟨0⟩
  let ore : VariableId := ⟨1⟩
  let forge : Operation :=
    ⟨swords, .number .add (.bound swords) (.literal (.int 1)) .nearest, .literal true⟩
  let smelt : Operation :=
    ⟨ore, .number .subtract (.bound ore) (.literal (.int 2)) .nearest, .unbound⟩
  ((empty.withVariable "swords" (.number (.int 0)))
    |>.withRule (Rule.named "rest")
    |>.withRule ((Rule.named "forge").withOperations [forge, smelt])
    |>.withRule (Rule.named "rest"))

theorem validation_exact_smithy :
    smithy.definitions.length ≤ UInt32.size ∧
      smithy.validate smithy.evaluator =
        .error (.invalidRule "forge" (.unknownVariable ⟨1⟩)) ∧
      smithy.FirstOffence smithy.evaluator (.invalidRule "forge" (.unknownVariable ⟨1⟩)) ∧
      ¬(smithy.rules.map Rule.name).Nodup := by
  have few : smithy.definitions.length ≤ UInt32.size := by decide
  have failed : smithy.validate smithy.evaluator =
      .error (.invalidRule "forge" (.unknownVariable ⟨1⟩)) := by
    rw [validate, buildStore_of_nodup (by decide)]
    change validateRules smithy.evaluator smithy.variableStore [] smithy.rules = _
    decide +kernel
  exact ⟨few, failed, ((validation_exact few smithy.evaluator).2.2 _).mp failed, by decide⟩

end RuleSet

end Rulebook
