import Mathlib.Data.List.Nodup
import Rulebook.Proofs.BatchSemantics

/-! An operation that fails in a batch leaves its line in the report and nothing else.
The same batch without the operations that failed does the same to the store, tells
observers the same, and has nothing to list. -/
namespace Rulebook
open Script

theorem Operation.traceless_of_error {operation : Operation} {evaluator : Evaluator}
    {store : Store} {error : RuleError}
    (failed : (operation.execute evaluator store).result = .error error) :
    (operation.execute evaluator store).store = store ∧
      (operation.execute evaluator store).notices = [] := by
  rcases operation.execute_cases evaluator store with
    ⟨_, -, ended⟩ | ⟨_, _, _, _, -, -, -, -, ended⟩
  · rw [ended]
    exact ⟨rfl, (operation.formula.quiet_compute evaluator operation.target).notices store⟩
  · rw [ended] at failed
    cases failed

theorem Step.succeeded_eq_false_iff (step : Step) :
    step.succeeded = false ↔ ∃ failure, step.failure? = some failure := by
  unfold succeeded failure?
  cases step.outcome.result <;> simp [Except.toBool]

namespace Report

/-- A step failed if a failure is listed at its place, as no other step has that place. -/
theorem place_mem_failures_iff {steps : List Step}
    (distinct : (steps.map fun step => step.placed.place).Nodup) {step : Step}
    (member : step ∈ steps) :
    step.placed.place ∈ (ofSteps steps).failures.map Failure.place ↔ step.succeeded = false := by
  rw [Step.succeeded_eq_false_iff]
  constructor
  · intro listed
    obtain ⟨failure, failureMember, samePlace⟩ := List.mem_map.mp listed
    obtain ⟨other, otherMember, failed⟩ := List.mem_filterMap.mp failureMember
    rw [Step.place_of_failure? failed] at samePlace
    obtain rfl : other = step := List.inj_on_of_nodup_map distinct otherMember member samePlace
    exact ⟨failure, failed⟩
  · rintro ⟨failure, failed⟩
    rw [← Step.place_of_failure? failed]
    exact List.mem_map_of_mem (List.mem_filterMap.mpr ⟨step, member, failed⟩)

/-- Where no failure is listed, steps succeeded. -/
theorem filter_not_listed {steps : List Step}
    (distinct : (steps.map fun step => step.placed.place).Nodup) :
    (steps.map Step.placed).filter
        (fun placed => decide (placed.place ∉ (ofSteps steps).failures.map Failure.place)) =
      (steps.filter Step.succeeded).map Step.placed := by
  rw [List.filter_map]
  refine congrArg _ (List.filter_congr fun step member => ?_)
  have listed := place_mem_failures_iff distinct member
  cases successful : step.succeeded <;> simp_all

end Report

namespace Batch

/-- Lists without the operations at given places. A list of which nothing is left stays
as an empty one. -/
def without (places : List (Nat × Nat)) (lists : List (List Operation)) :
    List (List Operation) :=
  lists.zipIdx.map fun (operations, list) =>
    ((placedList list 0 operations).filter fun placed =>
      decide (placed.place ∉ places)).map Placed.operation

theorem flatten_without (places : List (Nat × Nat)) (lists : List (List Operation)) :
    (without places lists).flatten =
      ((placedLists 0 lists).filter fun placed =>
        decide (placed.place ∉ places)).map Placed.operation := by
  rw [placedLists, List.filter_flatMap, List.map_flatMap, List.flatMap_def, without]

/-- Steps of the operations that succeeded, and of no others, come to the same. -/
theorem steps_of_succeeded (evaluator : Evaluator) (store : Store) {placed kept : List Placed}
    (same : kept.map Placed.operation =
      ((steps evaluator store placed).filter Step.succeeded).map fun step =>
        step.placed.operation) :
    Report.ofSteps (steps evaluator store kept) =
        { Report.ofSteps (steps evaluator store placed) with failures := [] } ∧
      storeAfter evaluator store (kept.map Placed.operation) =
        storeAfter evaluator store (placed.map Placed.operation) ∧
      (steps evaluator store kept).flatMap (fun step => step.outcome.notices) =
        (steps evaluator store placed).flatMap fun step => step.outcome.notices := by
  induction placed generalizing store kept with
  | nil =>
    obtain rfl := List.map_eq_nil_iff.mp same
    exact ⟨rfl, rfl, rfl⟩
  | cons head rest ih =>
    cases ended : (head.operation.execute evaluator store).result with
    | error error =>
      obtain ⟨unchanged, silent⟩ := Operation.traceless_of_error ended
      rw [steps, unchanged,
        List.filter_cons_of_neg (by simp [Step.succeeded, ended, Except.toBool])] at same
      obtain ⟨report, after, notices⟩ := ih store same
      refine ⟨?_, ?_, ?_⟩
      · rw [steps, unchanged, Report.ofSteps_cons_of_error ended]
        exact report
      · rw [after, List.map_cons, storeAfter, storeAfter, List.foldl_cons, unchanged]
      · rw [steps, unchanged, List.flatMap_cons, silent, notices]
        rfl
    | ok execution =>
      rw [steps, List.filter_cons_of_pos (by simp [Step.succeeded, ended, Except.toBool]),
        List.map_cons] at same
      obtain ⟨first, others, rfl, sameFirst, sameOthers⟩ := List.map_eq_cons_iff.mp same
      obtain ⟨report, after, notices⟩ := ih _ sameOthers
      have endedFirst : (first.operation.execute evaluator store).result = .ok execution := by
        rw [sameFirst]
        exact ended
      refine ⟨?_, ?_, ?_⟩
      · rw [steps, steps, Report.ofSteps_cons_of_ok endedFirst, Report.ofSteps_cons_of_ok ended,
          sameFirst, report]
        rfl
      · rw [List.map_cons, List.map_cons, storeAfter, List.foldl_cons, sameFirst]
        exact after
      · rw [steps, steps, List.flatMap_cons, List.flatMap_cons, sameFirst, notices]

/-- Whatever places steps have in a batch, each has its own. -/
theorem places_nodup (evaluator : Evaluator) (store : Store) (lists : List (List Operation)) :
    ((steps evaluator store (placedLists 0 lists)).map fun step => step.placed.place).Nodup := by
  have ordered := placedLists_ordered 0 lists
  rw [← placed_steps evaluator store (placedLists 0 lists)] at ordered
  refine List.pairwise_map.mpr ((List.pairwise_map.mp ordered).imp fun before same => ?_)
  rw [same] at before
  rcases Prod.lex_def.mp before with less | ⟨-, less⟩ <;> exact absurd less (Nat.lt_irrefl _)

/-- The operations whose places are not listed are those that succeeded. -/
theorem filter_placedLists (evaluator : Evaluator) (store : Store)
    (lists : List (List Operation)) :
    let ran := steps evaluator store (placedLists 0 lists)
    (placedLists 0 lists).filter
        (fun placed => decide (placed.place ∉ (Report.ofSteps ran).failures.map Failure.place)) =
      (ran.filter Step.succeeded).map Step.placed := by
  intro ran
  have distinct : (ran.map fun step => step.placed.place).Nodup := places_nodup ..
  have all : ran.map Step.placed = placedLists 0 lists := placed_steps ..
  rw [← all]
  exact Report.filter_not_listed distinct

/-- An admitted batch without the operations that failed is admitted, has no failures, and
comes to the same in all other respects. -/
theorem run_without_failures {gate : Gate} {lists : List (List Operation)}
    {evaluator : Evaluator} {store : Store} {report : Report}
    (ended : (run gate lists evaluator store).result = .ok report)
    (admitted : report.admitted = true) :
    let spared := without (report.failures.map Failure.place) lists
    let whole := run gate lists evaluator store
    let again := run gate spared evaluator store
    again.result = .ok { report with failures := [] } ∧ again.store = whole.store ∧
      again.notices = whole.notices := by
  intro spared whole again
  have asked := passes_of_admitted ended admitted
  have ranWhole := admitted_of_gate_open lists asked
  have ranAgain := admitted_of_gate_open spared asked
  obtain rfl : _ = report := Except.ok.inj (ranWhole.ended.symm.trans ended)
  have kept : (placedLists 0 spared).map Placed.operation =
      ((steps evaluator store (placedLists 0 lists)).filter Step.succeeded).map fun step =>
        step.placed.operation := by
    rw [operations_placedLists, flatten_without, filter_placedLists evaluator store lists,
      List.map_map]
    rfl
  obtain ⟨sameReport, sameStore, sameNotices⟩ := steps_of_succeeded evaluator store kept
  rw [operations_placedLists, operations_placedLists] at sameStore
  refine ⟨?_, ?_, ?_⟩
  · rw [ranAgain.ended, sameReport]
  · rw [ranAgain.finalStore, sameStore, ranWhole.finalStore]
  · rw [ranAgain.notices, sameNotices, ranWhole.notices]

/-- Two lamps are switched, between attempts at one that is not there. -/
theorem run_without_failures_lamps :
    let hall : VariableId := ⟨0⟩
    let attic : VariableId := ⟨9⟩
    let store := (Store.empty.adding ⟨"hall", .bool false⟩).observing hall "meter"
    let switch (lamp : VariableId) : Operation :=
      ⟨lamp, .bool .not (.bound lamp) .unbound, .literal true⟩
    let lists := [[switch attic, switch hall], [switch attic], [switch hall]]
    let report : Report :=
      ⟨true, 2, 2, [⟨0, 0, .unknownVariable attic⟩, ⟨1, 0, .unknownVariable attic⟩]⟩
    let evaluator := engine .default
    ((run none lists evaluator store).result = .ok report ∧ report.admitted = true) ∧
      without (report.failures.map Failure.place) lists = [[switch hall], [], [switch hall]] ∧
      (run none [[switch hall], [], [switch hall]] evaluator store).result =
        .ok ⟨true, 2, 2, []⟩ ∧
      (run none [[switch hall], [], [switch hall]] evaluator store).notices =
        (run none lists evaluator store).notices := by
  intro hall attic store switch lists report evaluator
  have ended : (run none lists evaluator store).result = .ok report := by cbv
  have spared : without (report.failures.map Failure.place) lists =
      [[switch hall], [], [switch hall]] := rfl
  have same := run_without_failures ended rfl
  rw [spared] at same
  exact ⟨⟨ended, rfl⟩, spared, same.1, same.2.2⟩

end Batch

end Rulebook
