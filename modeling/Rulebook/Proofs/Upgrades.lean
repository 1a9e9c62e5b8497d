import Mathlib.Data.List.Forall2
import Rulebook.Proofs.BatchSemantics

/-! A rule set is upgraded once. The upgrade reaches every operation of every rule and
nothing else; a rule set that is not of a version it knows stays as it is, and so does
one that has been upgraded. From then on operations raise whatever they write. -/
namespace Rulebook
open Script

/-- One operation as another, but always raising. -/
structure Operation.MadeRaising (before after : Operation) : Prop where
  target : after.target = before.target
  formula : after.formula = before.formula
  raiseFlag : after.raiseFlag = .literal true

/-- One rule as another, but with its operations always raising, each in its place. -/
structure Rule.MadeRaising (before after : Rule) : Prop where
  name : after.name = before.name
  gate : after.gate = before.gate
  operations : List.Forall₂ (List.Forall₂ Operation.MadeRaising) before.operations after.operations

/-- One rule set as another, but of version 2 and with the operations of all rules
always raising. -/
structure RuleSet.Modernized (before after : RuleSet) : Prop where
  version : after.version = 2
  script : after.script = before.script
  definitions : after.definitions = before.definitions
  rules : List.Forall₂ Rule.MadeRaising before.rules after.rules

theorem Rule.madeRaising_alwaysRaising (rule : Rule) : rule.MadeRaising rule.alwaysRaising := by
  refine ⟨rfl, rfl, List.forall₂_map_right_iff.mpr (List.forall₂_same.mpr fun operations _ => ?_)⟩
  exact List.forall₂_map_right_iff.mpr (List.forall₂_same.mpr fun operation _ => ⟨rfl, rfl, rfl⟩)

theorem Rule.raiseFlag_alwaysRaising {rule : Rule} {operation : Operation}
    (member : operation ∈ rule.alwaysRaising.operations.flatten) :
    operation.raiseFlag = .literal true := by
  obtain ⟨operations, inRule, inList⟩ := List.mem_flatten.mp member
  obtain ⟨_, -, rfl⟩ := List.mem_map.mp inRule
  obtain ⟨_, -, rfl⟩ := List.mem_map.mp inList
  rfl

/-- An operation whose raise flag is set raises if it is carried out. -/
theorem Operation.raised_of_literal {operation : Operation} {evaluator : Evaluator}
    {store : Store} {execution : Execution} (flag : operation.raiseFlag = .literal true)
    (ended : (operation.execute evaluator store).result = .ok execution) :
    execution.raised = true := by
  rcases operation.execute_cases evaluator store with
    ⟨_, -, failed⟩ | ⟨_, raised, _, _, -, resolved, -, -, executed⟩
  · rw [failed] at ended
    cases ended
  · rw [executed] at ended
    cases ended
    rw [flag] at resolved
    cases resolved
    rfl

/-- Where all operations raise, as many are raised as are carried out. -/
theorem Report.raised_eq_executed {evaluator : Evaluator} {store : Store} {placed : List Placed}
    (raising : ∀ each ∈ placed, each.operation.raiseFlag = .literal true) :
    (Report.ofSteps (Batch.steps evaluator store placed)).raised =
      (Report.ofSteps (Batch.steps evaluator store placed)).executed := by
  refine List.countP_congr fun step member => ?_
  obtain ⟨between, outcome⟩ := Batch.exists_execute_of_mem_steps member
  have inBatch : step.placed ∈ placed := by
    rw [← Batch.placed_steps evaluator store placed]
    exact List.mem_map_of_mem member
  cases ended : step.outcome.result with
  | error error => simp [Step.raised, Step.succeeded, ended, Except.toBool]
  | ok execution =>
    have raised := Operation.raised_of_literal (raising _ inBatch) (outcome ▸ ended)
    simp [Step.raised, Step.succeeded, ended, raised, Except.toBool]

namespace Rule

/-- A rule that raises always raises whatever it writes. -/
theorem raised_eq_executed {rule : Rule} {evaluator : Evaluator} {store : Store}
    {report : Report} (ended : (rule.alwaysRaising.run evaluator store).result = .ok report) :
    report.raised = report.executed := by
  rw [(run_eq_batch ..).1] at ended
  cases asked : (rule.alwaysRaising.gate.passes evaluator store).result with
  | error error => cases (Batch.idle_of_gate_error _ asked).ended.symm.trans ended
  | ok opens =>
    cases opens with
    | false =>
      cases (Batch.idle_of_gate_closed _ asked).ended.symm.trans ended
      rfl
    | true =>
      cases (Batch.admitted_of_gate_open _ asked).ended.symm.trans ended
      refine Report.raised_eq_executed fun placed member => ?_
      have inRule := List.mem_map_of_mem (f := Placed.operation) member
      rw [Batch.operations_placedLists] at inRule
      exact raiseFlag_alwaysRaising inRule

end Rule

namespace RuleSet

/-- Upgrades a stored rule set of some version, step by step; tells whether anything
changed. -/
def upgradeFrom (version : UInt32) : ExceptT RuleSetError (StateM RuleSet) Bool :=
  if version = 0 ∨ currentVersion < version then throw (.unsupportedVersion version)
  else if version = currentVersion then return false
  else do
    modify fun stored => { stored with rules := stored.rules.map Rule.alwaysRaising }
    modify fun stored => { stored with version := currentVersion }
    return true

/-- What the upgrade of a stored rule set answers, and the rule set left behind. -/
def upgradeInPlace (ruleSet : RuleSet) : Except RuleSetError Bool × RuleSet :=
  (upgradeFrom ruleSet.version).run.run ruleSet

/-- An upgrade in place stores the upgrade that there is and tells whether it was worth a
record; it changes nothing where there is none. -/
theorem upgradeInPlace_eq (ruleSet : RuleSet) :
    ruleSet.upgradeInPlace =
      match ruleSet.upgrade with
      | .ok upgrade => (.ok upgrade.record?.isSome, upgrade.ruleSet)
      | .error error => (.error error, ruleSet) := by
  rw [upgradeInPlace, upgradeFrom, upgrade]
  by_cases unsupported : ruleSet.version = 0 ∨ currentVersion < ruleSet.version
  · rw [if_pos unsupported, if_pos unsupported]
    rfl
  · by_cases newest : ruleSet.version = currentVersion
    · rw [if_neg unsupported, if_neg unsupported, if_pos newest, if_pos newest]
      rfl
    · rw [if_neg unsupported, if_neg unsupported, if_neg newest, if_neg newest]
      rfl

theorem modernized_alwaysRaising (ruleSet : RuleSet) :
    ruleSet.Modernized
      { ruleSet with version := 2, rules := ruleSet.rules.map Rule.alwaysRaising } :=
  ⟨rfl, rfl, rfl, List.forall₂_map_right_iff.mpr
    (List.forall₂_same.mpr fun rule _ => rule.madeRaising_alwaysRaising)⟩

theorem upgrade_of_newest {ruleSet : RuleSet} (newest : ruleSet.version = 2) :
    ruleSet.upgrade = .ok ⟨ruleSet, none⟩ := by
  simp [upgrade, newest, currentVersion]

theorem upgrade_of_first {ruleSet : RuleSet} (first : ruleSet.version = 1) :
    ∃ record, ruleSet.upgrade = .ok
      ⟨{ ruleSet with version := 2, rules := ruleSet.rules.map Rule.alwaysRaising },
        some record⟩ := by
  simp [upgrade, first, currentVersion]

theorem upgradeInPlace_of_unsupported {ruleSet : RuleSet}
    (unsupported : ruleSet.version = 0 ∨ 2 < ruleSet.version) :
    ruleSet.upgradeInPlace = (.error (.unsupportedVersion ruleSet.version), ruleSet) := by
  have refused : ruleSet.upgrade = .error (.unsupportedVersion ruleSet.version) :=
    if_pos unsupported
  rw [upgradeInPlace_eq, refused]

theorem upgradeInPlace_of_newest {ruleSet : RuleSet} (newest : ruleSet.version = 2) :
    ruleSet.upgradeInPlace = (.ok false, ruleSet) := by
  rw [upgradeInPlace_eq, upgrade_of_newest newest]
  rfl

theorem upgradeInPlace_of_first {ruleSet : RuleSet} (first : ruleSet.version = 1) :
    ruleSet.upgradeInPlace = (.ok true,
      { ruleSet with version := 2, rules := ruleSet.rules.map Rule.alwaysRaising }) := by
  obtain ⟨record, upgrades⟩ := upgrade_of_first first
  rw [upgradeInPlace_eq, upgrades]
  rfl

/-- Whatever comes of an upgrade that is not refused is of version 2. -/
theorem version_of_upgraded {ruleSet upgraded : RuleSet} {changed : Bool}
    (ended : ruleSet.upgradeInPlace = (.ok changed, upgraded)) : upgraded.version = 2 := by
  rw [upgradeInPlace_eq] at ended
  rcases ruleSet.upgrade_cases with ⟨newest, given⟩ | ⟨_, _, given⟩ | ⟨_, given⟩
  · rw [given] at ended
    cases ended
    exact newest
  · rw [given] at ended
    cases ended
    rfl
  · rw [given] at ended
    cases ended

/-- A rule set is refused, kept or brought to version 2 by its version. Brought to that
version, all its operations raise and nothing else is different, and there it stays. -/
theorem upgraded_once (ruleSet : RuleSet) :
    (ruleSet.version = 0 ∨ 2 < ruleSet.version →
      ruleSet.upgradeInPlace = (.error (.unsupportedVersion ruleSet.version), ruleSet)) ∧
    (ruleSet.version = 2 → ruleSet.upgradeInPlace = (.ok false, ruleSet)) ∧
    (ruleSet.version = 1 → ∃ upgraded, ruleSet.upgradeInPlace = (.ok true, upgraded) ∧
      ruleSet.Modernized upgraded ∧
      ∀ rule ∈ upgraded.rules, ∀ (evaluator : Evaluator) (store : Store) (report : Report),
        (rule.run evaluator store).result = .ok report → report.raised = report.executed) ∧
    ∀ changed upgraded, ruleSet.upgradeInPlace = (.ok changed, upgraded) →
      ∀ edited : RuleSet, edited.version = upgraded.version →
        edited.upgradeInPlace = (.ok false, edited) := by
  refine ⟨upgradeInPlace_of_unsupported, upgradeInPlace_of_newest, fun first => ?_, ?_⟩
  · refine ⟨_, upgradeInPlace_of_first first, ruleSet.modernized_alwaysRaising, ?_⟩
    intro rule member evaluator store report ended
    obtain ⟨old, -, rfl⟩ := List.mem_map.mp member
    exact Rule.raised_eq_executed ended
  · intro changed upgraded ended edited kept
    exact upgradeInPlace_of_newest (kept.trans (version_of_upgraded ended))

/-- A rule set of version 1 with flags that say nothing and flags that say the opposite. -/
def lighthouse : RuleSet :=
  let lamp : VariableId := ⟨0⟩
  let height : VariableId := ⟨1⟩
  let light : Operation := ⟨lamp, .bool .set (.literal true) .unbound, .unbound⟩
  let grow : Operation :=
    ⟨height, .scripted "nA + nB" (.literal (.int 1)) .unbound .nearest, .literal false⟩
  { empty with
    version := 1
    definitions := [⟨"lamp", .bool false⟩, ⟨"height", .number (.double (.ofInt 40))⟩]
    rules := [Rule.ofFamilies "dusk" [light] [] [grow] [], (Rule.named "dawn").withGate []] }

theorem upgraded_once_lighthouse :
    lighthouse.version = 1 ∧ ∃ upgraded, lighthouse.upgradeInPlace = (.ok true, upgraded) ∧
      lighthouse.Modernized upgraded ∧
      (∀ rule ∈ upgraded.rules, ∀ (evaluator : Evaluator) (store : Store) (report : Report),
        (rule.run evaluator store).result = .ok report → report.raised = report.executed) ∧
      ({ upgraded with rules := [] } : RuleSet).upgradeInPlace =
        (.ok false, { upgraded with rules := [] }) := by
  have first : lighthouse.version = 1 := rfl
  obtain ⟨-, -, upgrades, stays⟩ := upgraded_once lighthouse
  obtain ⟨upgraded, ended, modernized, raises⟩ := upgrades first
  exact ⟨first, upgraded, ended, modernized, raises, stays true upgraded ended _ rfl⟩

end RuleSet

end Rulebook
