import Rulebook.Batch
import Rulebook.Bytes.Basic

/-! Rules, each a named batch, and rule sets, which hold rules together with the
variables they work on. A rule set of version 1 knew no raise flags and raised
whatever it wrote; it is brought to version 2 once, when it is loaded. -/
namespace Rulebook
open Script

/-- A variable and its first value. -/
structure VariableDefinition where
  name : String
  value : Value
deriving DecidableEq, BEq

structure Rule where
  name : String
  gate : Gate
  operations : List (List Operation)
deriving DecidableEq, BEq

namespace Rule

/-- A rule that has no gate and does nothing. -/
def named (name : String) : Rule :=
  ⟨name, none, []⟩

def withGate (rule : Rule) (conditions : List Condition) : Rule :=
  { rule with gate := some conditions }

/-- The rule with a further list of operations. -/
def withOperations (rule : Rule) (operations : List Operation) : Rule :=
  { rule with operations := rule.operations ++ [operations] }

/-- A rule with one list for each family of operations. -/
def ofFamilies (name : String) (bools numbers scripted vectors : List Operation) : Rule :=
  ⟨name, none, [bools, numbers, scripted, vectors]⟩

/-- Whether the rule would run now. -/
def isAvailable (rule : Rule) (evaluator : Evaluator) : Action Bool :=
  rule.gate.passes evaluator

def run (rule : Rule) (evaluator : Evaluator) : Action Report := do
  Action.log (.runningRule rule.name)
  Batch.run rule.gate rule.operations evaluator

/-- The conditions of the gate, if there is one. -/
def conditions (rule : Rule) : List Condition :=
  rule.gate.getD []

/-- Checks the gate and then every operation, up to the first error. -/
def validate (rule : Rule) (evaluator : Evaluator) (store : Store) : Except RuleError Unit := do
  rule.conditions.forM fun condition => condition.validate evaluator store
  rule.operations.flatten.forM fun operation => operation.validate evaluator store

/-- The rule with all its operations raising. -/
def alwaysRaising (rule : Rule) : Rule :=
  { rule with
    operations := rule.operations.map fun operations =>
      operations.map fun operation => { operation with raiseFlag := .literal true } }

end Rule

/-- The newest version of rule sets. -/
def currentVersion : UInt32 := 2

inductive RuleSetError where
  | json
  | binary (error : BinaryError)
  | unsupportedVersion (found : UInt32)
  | invalidRule (rule : String) (source : RuleError)
  | duplicateRule (name : String)
  | store (source : RuleError)
deriving DecidableEq

namespace RuleSetError

/-- The text of an error in a rule set that could be read; there is none for
texts and bytes that could not. -/
def message? : RuleSetError → Option String
  | json | binary _ => none
  | unsupportedVersion found =>
    let version := found.toNat
    let newest := currentVersion.toNat
    some s!"unsupported rule set version {version} (this build reads 1..={newest})"
  | invalidRule rule source =>
    let reason := source.message
    some s!"rule '{rule}': {reason}"
  | duplicateRule name => some s!"duplicate rule name: '{name}'"
  | store source => some source.message

end RuleSetError

structure RuleSet where
  version : UInt32
  script : Limits
  definitions : List VariableDefinition
  rules : List Rule
deriving DecidableEq, BEq

/-- A rule set of the newest version, and the record of how it became that. -/
structure Upgrade where
  ruleSet : RuleSet
  record? : Option LogRecord
deriving DecidableEq

namespace RuleSet

def empty : RuleSet :=
  ⟨currentVersion, .default, [], []⟩

def withVariable (ruleSet : RuleSet) (name : String) (value : Value) : RuleSet :=
  { ruleSet with definitions := ruleSet.definitions ++ [⟨name, value⟩] }

def withRule (ruleSet : RuleSet) (rule : Rule) : RuleSet :=
  { ruleSet with rules := ruleSet.rules ++ [rule] }

def rule? (ruleSet : RuleSet) (name : String) : Option Rule :=
  ruleSet.rules.find? fun rule => decide (rule.name = name)

/-- The operations of all rules. -/
def operations (ruleSet : RuleSet) : List Operation :=
  ruleSet.rules.flatMap fun rule => rule.operations.flatten

/-- The rule set in the newest version; nothing changes if it is that already. -/
def upgrade (ruleSet : RuleSet) : Except RuleSetError Upgrade :=
  if ruleSet.version = 0 ∨ currentVersion < ruleSet.version then
    .error (.unsupportedVersion ruleSet.version)
  else if ruleSet.version = currentVersion then .ok ⟨ruleSet, none⟩
  else
    .ok ⟨{ ruleSet with
        version := currentVersion
        rules := ruleSet.rules.map Rule.alwaysRaising },
      some (.upgraded ruleSet.version.toNat currentVersion.toNat ruleSet.operations.length)⟩

theorem upgrade_cases (ruleSet : RuleSet) :
    (ruleSet.version = 2 ∧ ruleSet.upgrade = .ok ⟨ruleSet, none⟩) ∨
    (ruleSet.version = 1 ∧ ∃ record, ruleSet.upgrade = .ok
      ⟨{ ruleSet with version := 2, rules := ruleSet.rules.map Rule.alwaysRaising }, some record⟩) ∨
    ((ruleSet.version = 0 ∨ 2 < ruleSet.version) ∧
      ruleSet.upgrade = .error (.unsupportedVersion ruleSet.version)) := by
  unfold upgrade
  split
  · rename_i unsupported
    exact .inr (.inr ⟨unsupported, rfl⟩)
  · rename_i supported
    split
    · rename_i newest
      exact .inl ⟨newest, rfl⟩
    · rename_i older
      have first : ruleSet.version = 1 := by
        rw [UInt32.lt_iff_toNat_lt, ← UInt32.toNat_inj] at supported
        rw [← UInt32.toNat_inj] at older ⊢
        simp only [currentVersion, UInt32.reduceToNat] at *
        omega
      exact .inr (.inl ⟨first, _, rfl⟩)

/-- An upgrade is of the newest version, and stays as it is. -/
theorem upgrade_of_upgraded {ruleSet : RuleSet} {upgrade : Upgrade}
    (upgraded : ruleSet.upgrade = .ok upgrade) :
    upgrade.ruleSet.upgrade = .ok ⟨upgrade.ruleSet, none⟩ := by
  obtain ⟨_, given⟩ | ⟨_, _, given⟩ | ⟨_, given⟩ := ruleSet.upgrade_cases
  · rw [given] at upgraded
    cases upgraded
    exact given
  · rw [given] at upgraded
    cases upgraded
    rfl
  · rw [given] at upgraded
    cases upgraded

/-- The evaluator within the rule set's limits. -/
def evaluator (ruleSet : RuleSet) : Evaluator :=
  engine ruleSet.script

/-- Declares variables in order. -/
def declareAll (store : Store) : List VariableDefinition → Except RuleError Store
  | [] => .ok store
  | definition :: rest => do
    let (_, store) ← store.declare definition.name definition.value
    declareAll store rest

/-- A new store with the rule set's variables. -/
def buildStore (ruleSet : RuleSet) : Except RuleSetError Store :=
  (declareAll .empty ruleSet.definitions).mapError .store

/-- Checks rules that come after those of given names. -/
def validateRules (evaluator : Evaluator) (store : Store) (seen : List String) :
    List Rule → Except RuleSetError Unit
  | [] => .ok ()
  | rule :: rest =>
    if rule.name ∈ seen then .error (.duplicateRule rule.name)
    else
      match rule.validate evaluator store with
      | .error source => .error (.invalidRule rule.name source)
      | .ok () => validateRules evaluator store (rule.name :: seen) rest

/-- Checks that names are distinct and that every rule can be carried out on the
rule set's variables; tells the first offence. -/
def validate (ruleSet : RuleSet) (evaluator : Evaluator) : Except RuleSetError Unit := do
  validateRules evaluator (← ruleSet.buildStore) [] ruleSet.rules

end RuleSet

end Rulebook
