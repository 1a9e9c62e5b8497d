import Rulebook.Proofs.BatchSemantics

/-! What happens in the course of a batch, in order: what the gate did, then what every
operation did, a failed one followed by its record, and the record that ends the batch. -/
namespace Rulebook
open Script

namespace Step

/-- The record that follows an operation that failed. -/
def complaint (step : Step) : List Event :=
  match step.outcome.result with
  | .ok _ => []
  | .error error =>
    [.logged (.operationFailed step.placed.list step.placed.index
      step.placed.operation.formula.family error)]

/-- What happens while an operation of a batch is carried out. -/
def events (step : Step) : List Event :=
  step.outcome.events ++ step.complaint

end Step

namespace Batch
variable (evaluator : Evaluator) (store : Store) (report : Report)

theorem events_runOne (placed : Placed) :
    (runOne evaluator placed.list placed.index placed.operation report store).events =
      Step.events ⟨placed, placed.operation.execute evaluator store⟩ := by
  have tried : (Action.attempt (placed.operation.execute evaluator) store).result =
      .ok (placed.operation.execute evaluator store).result := rfl
  simp only [runOne, Action.bind_of_ok tried, Step.events, Step.complaint]
  cases (placed.operation.execute evaluator store).result with
  | ok execution => rfl
  | error error => rfl

theorem events_runList (list index : Nat) (operations : List Operation) :
    (runList evaluator list index operations report store).events =
      (steps evaluator store (placedList list index operations)).flatMap Step.events := by
  induction operations generalizing index store report with
  | nil => rfl
  | cons operation rest ih =>
    have head := carriesOut_runOne evaluator ⟨list, index, operation⟩ report
    have happened := events_runOne evaluator store report ⟨list, index, operation⟩
    have left : (runOne evaluator list index operation report store).store =
        (operation.execute evaluator store).store := head.store store
    rw [runList, Action.bind_of_ok (head.result store)]
    simp only [happened, left, ih]
    simp only [placedList, List.zipIdx_cons, List.map_cons, steps, List.flatMap_cons]

theorem events_runLists (first : Nat) (lists : List (List Operation)) :
    (runLists evaluator first lists report store).events =
      (steps evaluator store (placedLists first lists)).flatMap Step.events := by
  induction lists generalizing first store report with
  | nil => rfl
  | cons operations rest ih =>
    have head := carriesOut_runList evaluator first 0 operations report
    rw [runLists, Action.bind_of_ok (head.result store)]
    simp only [events_runList, ih, head.store, placedLists_cons, steps_append,
      List.flatMap_append]

/-- The events of a batch are those of its gate and, if it opens, of its steps, and a last
record unless the gate failed. -/
theorem events_run (gate : Gate) (lists : List (List Operation)) :
    let passed := gate.passes evaluator store
    let taken := steps evaluator store (placedLists 0 lists)
    let counts := Report.ofSteps taken
    (run gate lists evaluator store).events = passed.events ++
      match passed.result with
      | .error _ => []
      | .ok false => [.logged .gateClosed]
      | .ok true => taken.flatMap Step.events ++
        [.logged (.batchComplete counts.executed counts.raised counts.failures.length)] := by
  intro passed taken counts
  have quiet := gate.quiet_passes evaluator
  simp only [passed]
  cases asked : (gate.passes evaluator store).result with
  | error error =>
    rw [run, Action.bind_of_error asked]
    exact (List.append_nil _).symm
  | ok opens =>
    rw [run, Action.bind_of_ok asked, quiet.store]
    cases opens with
    | false => rfl
    | true =>
      have ran := (carriesOut_runLists evaluator 0 lists (.initial true)).result store
      rw [Report.foldl_record] at ran
      simp only [↓reduceIte, Action.bind_of_ok ran, events_runLists]
      simp [Action.bind_apply, Action.log, Action.happen, Action.pure_apply, Report.initial,
        counts, taken]

end Batch

end Rulebook
