import Rulebook.Proofs.OperationEffects
import Rulebook.RuleSet

/-! An admitted batch carries out every operation once, list by list, each in
the store that its predecessors left. Its report, its last store and what
observers are told are read off these steps, so failures neither stop nor
reorder anything. A batch that is not admitted does nothing. -/
namespace Rulebook
open Script

/-- An operation with its list and its place there. -/
structure Placed where
  list : Nat
  index : Nat
  operation : Operation

def Placed.place (placed : Placed) : Nat × Nat :=
  (placed.list, placed.index)

/-- The same place after a number of other lists. -/
def Placed.shift (distance : Nat) (placed : Placed) : Placed :=
  { placed with list := distance + placed.list }

def Failure.place (failure : Failure) : Nat × Nat :=
  (failure.list, failure.index)

/-- The order of places: by the lists, and within a list by the index. -/
abbrev Earlier : Nat × Nat → Nat × Nat → Prop :=
  Prod.Lex (· < ·) (· < ·)

/-- An operation that has been carried out, and what came of it. -/
structure Step where
  placed : Placed
  outcome : Outcome Execution

namespace Step

def succeeded (step : Step) : Bool :=
  step.outcome.result.toBool

def raised (step : Step) : Bool :=
  match step.outcome.result with
  | .ok execution => execution.raised
  | .error _ => false

def failure? (step : Step) : Option Failure :=
  match step.outcome.result with
  | .ok _ => none
  | .error error => some ⟨step.placed.list, step.placed.index, error⟩

/-- A failure stands at the place of its step. -/
theorem place_of_failure? {step : Step} {failure : Failure}
    (failed : step.failure? = some failure) : failure.place = step.placed.place := by
  unfold failure? at failed
  split at failed <;> cases failed
  rfl

/-- The same step of a batch that follows a number of lists. -/
def shift (distance : Nat) (step : Step) : Step :=
  { step with placed := step.placed.shift distance }

end Step

namespace Batch

/-- The operations of one list from an index on. -/
def placedList (list index : Nat) (operations : List Operation) : List Placed :=
  (operations.zipIdx index).map fun (operation, index) => ⟨list, index, operation⟩

/-- The operations of lists from a list number on, list by list. -/
def placedLists (first : Nat) (lists : List (List Operation)) : List Placed :=
  (lists.zipIdx first).flatMap fun (operations, list) => placedList list 0 operations

/-- Carries out operations in turn, each in the store that the one before left. -/
def steps (evaluator : Evaluator) (store : Store) : List Placed → List Step
  | [] => []
  | placed :: rest =>
    let outcome := placed.operation.execute evaluator store
    ⟨placed, outcome⟩ :: steps evaluator outcome.store rest

/-- The store that operations leave behind when carried out in turn. -/
def storeAfter (evaluator : Evaluator) (store : Store) (operations : List Operation) : Store :=
  operations.foldl (fun store operation => (operation.execute evaluator store).store) store

end Batch

namespace Report

/-- The report that steps give rise to. -/
def ofSteps (steps : List Step) : Report where
  admitted := true
  executed := steps.countP Step.succeeded
  raised := steps.countP Step.raised
  failures := steps.filterMap Step.failure?

/-- The report brought up to date by a step. -/
def record (report : Report) (step : Step) : Report :=
  match step.outcome.result with
  | .ok execution => report.addExecution execution
  | .error error => report.addFailure ⟨step.placed.list, step.placed.index, error⟩

/-- The reports of two batches as one. The lists of the second batch are numbered
from where those of the first end. -/
def followedBy (first second : Report) (lists : Nat) : Report where
  admitted := first.admitted && second.admitted
  executed := first.executed + second.executed
  raised := first.raised + second.raised
  failures := first.failures ++
    second.failures.map fun failure => { failure with list := lists + failure.list }

theorem ofSteps_append_shift (first second : List Step) (lists : Nat) :
    ofSteps (first ++ second.map (.shift lists)) =
      (ofSteps first).followedBy (ofSteps second) lists := by
  have shifted (step : Step) : (step.shift lists).failure? =
      step.failure?.map fun failure => { failure with list := lists + failure.list } := by
    unfold Step.failure? Step.shift
    cases step.outcome.result <;> rfl
  simp only [ofSteps, followedBy, List.countP_append, List.countP_map, List.filterMap_append,
    List.filterMap_map, Function.comp_def, shifted, List.map_filterMap, Bool.and_self]
  rfl

/-- A step that was carried out is counted. -/
theorem ofSteps_cons_of_ok {step : Step} {execution : Execution}
    (ended : step.outcome.result = .ok execution) (rest : List Step) :
    ofSteps (step :: rest) = (ofSteps rest).addExecution execution := by
  have counted : Step.succeeded step = true := by simp [Step.succeeded, ended, Except.toBool]
  have told : Step.raised step = execution.raised := by simp [Step.raised, ended]
  have noFailure : Step.failure? step = none := by simp [Step.failure?, ended]
  simp only [ofSteps, addExecution, List.countP_cons, counted, told, List.filterMap_cons, noFailure]
  rfl

/-- A step that failed is listed. -/
theorem ofSteps_cons_of_error {step : Step} {error : RuleError}
    (ended : step.outcome.result = .error error) (rest : List Step) :
    ofSteps (step :: rest) = { ofSteps rest with
      failures := ⟨step.placed.list, step.placed.index, error⟩ :: (ofSteps rest).failures } := by
  have uncounted : Step.succeeded step = false := by simp [Step.succeeded, ended, Except.toBool]
  have silent : Step.raised step = false := by simp [Step.raised, ended]
  have failed : Step.failure? step = some ⟨step.placed.list, step.placed.index, error⟩ := by
    simp [Step.failure?, ended]
  simp only [ofSteps, List.countP_cons, uncounted, silent, List.filterMap_cons, failed]
  rfl

theorem foldl_record (steps : List Step) (report : Report) :
    steps.foldl record report =
      { report with
        executed := report.executed + (ofSteps steps).executed
        raised := report.raised + (ofSteps steps).raised
        failures := report.failures ++ (ofSteps steps).failures } := by
  induction steps generalizing report with
  | nil => simp [ofSteps]
  | cons step rest ih =>
    rw [List.foldl_cons, ih]
    cases ended : step.outcome.result with
    | ok execution =>
      simp only [ofSteps_cons_of_ok ended, record, ended, addExecution, Nat.add_assoc, Nat.add_comm]
    | error error => simp [ofSteps_cons_of_error ended, record, ended, addFailure]

end Report

namespace Batch

theorem steps_append (evaluator : Evaluator) (store : Store) (first second : List Placed) :
    steps evaluator store (first ++ second) =
      steps evaluator store first ++
        steps evaluator (storeAfter evaluator store (first.map Placed.operation)) second := by
  induction first generalizing store with
  | nil => rfl
  | cons placed rest ih =>
    simp only [List.cons_append, steps, ih, List.map_cons, storeAfter, List.foldl_cons]

theorem storeAfter_append (evaluator : Evaluator) (store : Store) (first second : List Operation) :
    storeAfter evaluator store (first ++ second) =
      storeAfter evaluator (storeAfter evaluator store first) second :=
  List.foldl_append

theorem placedLists_cons (first : Nat) (operations : List Operation)
    (rest : List (List Operation)) :
    placedLists first (operations :: rest) =
      placedList first 0 operations ++ placedLists (first + 1) rest := by
  simp [placedLists]

theorem operations_placedList (list index : Nat) (operations : List Operation) :
    (placedList list index operations).map Placed.operation = operations := by
  simp [placedList, Function.comp_def]

theorem operations_placedLists (first : Nat) (lists : List (List Operation)) :
    (placedLists first lists).map Placed.operation = lists.flatten := by
  induction lists generalizing first with
  | nil => rfl
  | cons operations rest ih =>
    simp [placedLists_cons, operations_placedList, ih]

/-- An action carries out operations in turn and brings a report up to date
with every one of them. -/
structure CarriesOut (evaluator : Evaluator) (placed : List Placed) (report : Report)
    (action : Action Report) : Prop where
  result : ∀ store, (action store).result =
    .ok ((steps evaluator store placed).foldl Report.record report)
  store : ∀ store, (action store).store =
    storeAfter evaluator store (placed.map Placed.operation)
  notices : ∀ store, (action store).notices =
    (steps evaluator store placed).flatMap fun step => step.outcome.notices

theorem carriesOut_nothing (evaluator : Evaluator) (report : Report) :
    CarriesOut evaluator [] report (pure report) :=
  ⟨fun _ => rfl, fun _ => rfl, fun _ => rfl⟩

theorem CarriesOut.bind {evaluator : Evaluator} {first second : List Placed} {report : Report}
    {action : Action Report} {next : Report → Action Report}
    (head : CarriesOut evaluator first report action)
    (rest : ∀ between, CarriesOut evaluator second between (next between)) :
    CarriesOut evaluator (first ++ second) report (action >>= next) := by
  constructor
  · intro store
    rw [Action.bind_of_ok (head.result store), (rest _).result, head.store, steps_append,
      List.foldl_append]
  · intro store
    rw [Action.bind_store_of_ok (head.result store), (rest _).store, head.store, List.map_append,
      storeAfter_append]
  · intro store
    rw [Action.bind_notices_of_ok (head.result store), (rest _).notices, head.notices, head.store,
      steps_append, List.flatMap_append]

/-- An operation of a batch is carried out once and recorded, whether or not it
fails. -/
theorem carriesOut_runOne (evaluator : Evaluator) (placed : Placed) (report : Report) :
    CarriesOut evaluator [placed] report
      (runOne evaluator placed.list placed.index placed.operation report) := by
  have step (store : Store) :
      let outcome := placed.operation.execute evaluator store
      let ran := runOne evaluator placed.list placed.index placed.operation report store
      ran.result = .ok (report.record ⟨placed, outcome⟩) ∧ ran.store = outcome.store ∧
        ran.notices = outcome.notices := by
    have tried : (Action.attempt (placed.operation.execute evaluator) store).result =
        .ok (placed.operation.execute evaluator store).result := rfl
    simp only [runOne, Action.bind_of_ok tried, Report.record, Outcome.notices]
    cases (placed.operation.execute evaluator store).result with
    | ok execution => simp [Action.attempt, Action.pure_apply]
    | error error =>
      simp [Action.attempt, Action.bind_apply, Action.pure_apply, Action.log, Action.happen,
        Event.notice?]
  constructor
  · exact fun store => (step store).1
  · exact fun store => (step store).2.1
  · intro store
    simpa [steps] using (step store).2.2

theorem carriesOut_runList (evaluator : Evaluator) (list index : Nat)
    (operations : List Operation) (report : Report) :
    CarriesOut evaluator (placedList list index operations) report
      (runList evaluator list index operations report) := by
  induction operations generalizing index report with
  | nil => exact carriesOut_nothing evaluator report
  | cons operation rest ih =>
    have head := carriesOut_runOne evaluator ⟨list, index, operation⟩ report
    simpa [placedList, runList] using head.bind fun between => ih (index + 1) between

/-- Lists are carried out one after another, each from its beginning. -/
theorem carriesOut_runLists (evaluator : Evaluator) (first : Nat)
    (lists : List (List Operation)) (report : Report) :
    CarriesOut evaluator (placedLists first lists) report
      (runLists evaluator first lists report) := by
  induction lists generalizing first report with
  | nil => exact carriesOut_nothing evaluator report
  | cons operations rest ih =>
    have head := carriesOut_runList evaluator first 0 operations report
    simpa [placedLists_cons, runLists] using head.bind fun between => ih (first + 1) between

theorem placed_steps (evaluator : Evaluator) (store : Store) (placed : List Placed) :
    (steps evaluator store placed).map Step.placed = placed := by
  induction placed generalizing store with
  | nil => rfl
  | cons head rest ih => simp [steps, ih]

/-- Every step carries out its operation in some store. -/
theorem exists_execute_of_mem_steps {evaluator : Evaluator} {store : Store} {placed : List Placed}
    {step : Step} (member : step ∈ steps evaluator store placed) :
    ∃ between, step.outcome = step.placed.operation.execute evaluator between := by
  induction placed generalizing store with
  | nil => cases member
  | cons head rest ih =>
    rcases List.mem_cons.mp member with rfl | later
    · exact ⟨store, rfl⟩
    · exact ih later

theorem mem_placedList {list index : Nat} {operations : List Operation} {placed : Placed}
    (member : placed ∈ placedList list index operations) :
    placed.list = list ∧ index ≤ placed.index := by
  simp only [placedList, List.mem_map, Prod.exists] at member
  obtain ⟨operation, place, held, rfl⟩ := member
  exact ⟨rfl, List.le_snd_of_mem_zipIdx held⟩

theorem mem_placedLists {first : Nat} {lists : List (List Operation)} {placed : Placed}
    (member : placed ∈ placedLists first lists) : first ≤ placed.list := by
  simp only [placedLists, List.mem_flatMap, Prod.exists] at member
  obtain ⟨operations, list, held, inside⟩ := member
  rw [(mem_placedList inside).1]
  exact List.le_snd_of_mem_zipIdx held

theorem placedList_ordered (list index : Nat) (operations : List Operation) :
    (placedList list index operations).Pairwise fun first second =>
      Earlier first.place second.place := by
  induction operations generalizing index with
  | nil => exact .nil
  | cons operation rest ih =>
    refine .cons ?_ (ih (index + 1))
    intro later member
    obtain ⟨rfl, farther⟩ := mem_placedList member
    exact .right _ farther

theorem placedLists_ordered (first : Nat) (lists : List (List Operation)) :
    (placedLists first lists).Pairwise fun first second =>
      Earlier first.place second.place := by
  induction lists generalizing first with
  | nil => exact .nil
  | cons operations rest ih =>
    rw [placedLists_cons]
    refine List.pairwise_append.mpr ⟨placedList_ordered first 0 operations, ih (first + 1), ?_⟩
    intro earlier member later laterMember
    have here := (mem_placedList member).1
    have beyond := mem_placedLists laterMember
    exact .left _ _ (by omega)

end Batch

namespace Report

/-- Every step is counted as carried out or listed as failed, never both. -/
theorem executed_add_failures (steps : List Step) :
    (ofSteps steps).executed + (ofSteps steps).failures.length = steps.length := by
  induction steps with
  | nil => rfl
  | cons step rest ih =>
    rw [List.length_cons, ← ih]
    cases ended : step.outcome.result with
    | ok execution => simp only [ofSteps_cons_of_ok ended, addExecution, Nat.add_right_comm]
    | error error => simp only [ofSteps_cons_of_error ended, List.length_cons, Nat.add_assoc]

theorem raised_le_executed (steps : List Step) :
    (ofSteps steps).raised ≤ (ofSteps steps).executed := by
  refine List.countP_mono_left fun step _ told => ?_
  cases ended : step.outcome.result with
  | ok execution => simp [Step.succeeded, ended, Except.toBool]
  | error error => simp [Step.raised, ended] at told

/-- Failures stand in the order of the steps that failed. -/
theorem failures_ordered {steps : List Step}
    (ordered : (steps.map Step.placed).Pairwise fun first second =>
      Earlier first.place second.place) :
    (ofSteps steps).failures.Pairwise fun first second => Earlier first.place second.place := by
  refine List.pairwise_filterMap.mpr ((List.pairwise_map.mp ordered).imp ?_)
  intro first second before firstFailure firstFailed secondFailure secondFailed
  rw [Step.place_of_failure? firstFailed, Step.place_of_failure? secondFailed]
  exact before

end Report

namespace Batch

/-- What an admitted batch does. Every operation is a step, in order; the report
accounts for all of them, and nothing else happens to the store or to
observers. -/
structure Admitted (evaluator : Evaluator) (lists : List (List Operation)) (store : Store)
    (report : Report) (outcome : Outcome Report) : Prop where
  ended : outcome.result = .ok report
  recorded : report = .ofSteps (steps evaluator store (placedLists 0 lists))
  total : report.executed + report.failures.length = lists.flatten.length
  raised_le : report.raised ≤ report.executed
  ordered : report.failures.Pairwise fun first second => Earlier first.place second.place
  finalStore : outcome.store = storeAfter evaluator store lists.flatten
  notices : outcome.notices =
    (steps evaluator store (placedLists 0 lists)).flatMap fun step => step.outcome.notices

/-- The batch ended without an operation being tried. -/
structure Idle (store : Store) (result : Except RuleError Report) (outcome : Outcome Report) :
    Prop where
  ended : outcome.result = result
  unchanged : outcome.store = store
  silent : outcome.notices = []

theorem idle_of_gate_error {gate : Gate} {evaluator : Evaluator} {store : Store}
    {error : RuleError} (lists : List (List Operation))
    (asked : (gate.passes evaluator store).result = .error error) :
    Idle store (.error error) (run gate lists evaluator store) := by
  have quiet := gate.quiet_passes evaluator
  rw [run, Action.bind_of_error asked]
  exact ⟨rfl, quiet.store store, quiet.notices store⟩

theorem idle_of_gate_closed {gate : Gate} {evaluator : Evaluator} {store : Store}
    (lists : List (List Operation)) (asked : (gate.passes evaluator store).result = .ok false) :
    Idle store (.ok (.initial false)) (run gate lists evaluator store) := by
  have quiet := gate.quiet_passes evaluator
  have silent := quiet.notices store
  constructor
  · rw [run, Action.bind_of_ok asked]
    rfl
  · rw [run, Action.bind_store_of_ok asked]
    exact quiet.store store
  · rw [run, Action.bind_notices_of_ok asked, silent]
    rfl

theorem length_steps (evaluator : Evaluator) (store : Store) (placed : List Placed) :
    (steps evaluator store placed).length = placed.length := by
  rw [← List.length_map Step.placed, placed_steps]

theorem admitted_of_gate_open {gate : Gate} {evaluator : Evaluator} {store : Store}
    (lists : List (List Operation)) (asked : (gate.passes evaluator store).result = .ok true) :
    Admitted evaluator lists store (.ofSteps (steps evaluator store (placedLists 0 lists)))
      (run gate lists evaluator store) := by
  have quiet := gate.quiet_passes evaluator
  have carried := carriesOut_runLists evaluator 0 lists (.initial true)
  have ran := carried.result store
  constructor
  case ended =>
    rw [run, Action.bind_of_ok asked, quiet.store]
    simp only [↓reduceIte, Action.bind_of_ok ran]
    simp [Action.bind_apply, Action.log, Action.happen, Action.pure_apply, Report.foldl_record,
      Report.initial, Report.ofSteps]
  case recorded => rfl
  case total =>
    rw [Report.executed_add_failures, length_steps, ← operations_placedLists 0 lists,
      List.length_map]
  case raised_le => exact Report.raised_le_executed _
  case ordered =>
    exact Report.failures_ordered (by rw [placed_steps]; exact placedLists_ordered 0 lists)
  case finalStore =>
    rw [run, Action.bind_store_of_ok asked, quiet.store]
    simp only [↓reduceIte, Action.bind_store_of_ok ran, carried.store, operations_placedLists]
    rfl
  case notices =>
    rw [run, Action.bind_notices_of_ok asked, quiet.notices, quiet.store]
    simp only [↓reduceIte, Action.bind_notices_of_ok ran, carried.notices]
    simp [Outcome.notices, Action.bind_apply, Action.log, Action.happen, Action.pure_apply,
      Event.notice?]

/-- A batch that was admitted found its gate open. -/
theorem passes_of_admitted {gate : Gate} {lists : List (List Operation)} {evaluator : Evaluator}
    {store : Store} {report : Report} (ended : (run gate lists evaluator store).result = .ok report)
    (admitted : report.admitted = true) : (gate.passes evaluator store).result = .ok true := by
  cases asked : (gate.passes evaluator store).result with
  | error error => cases (idle_of_gate_error lists asked).ended.symm.trans ended
  | ok opens =>
    cases opens with
    | false =>
      cases (idle_of_gate_closed lists asked).ended.symm.trans ended
      cases admitted
    | true => rfl

/-- Later lists are numbered from where the earlier ones end. -/
theorem placedLists_append (first : Nat) (lists later : List (List Operation)) :
    placedLists first (lists ++ later) =
      placedLists first lists ++ placedLists (first + lists.length) later := by
  simp [placedLists, List.zipIdx_append]

theorem placedList_shift (distance list index : Nat) (operations : List Operation) :
    placedList (distance + list) index operations =
      (placedList list index operations).map (.shift distance) := by
  simp [placedList, Placed.shift, Function.comp_def]

theorem placedLists_shift (distance first : Nat) (lists : List (List Operation)) :
    placedLists (distance + first) lists = (placedLists first lists).map (.shift distance) := by
  induction lists generalizing first with
  | nil => rfl
  | cons operations rest ih =>
    rw [placedLists_cons, placedLists_cons, Nat.add_assoc, ih, List.map_append, placedList_shift]

theorem steps_shift (distance : Nat) (evaluator : Evaluator) (store : Store)
    (placed : List Placed) :
    steps evaluator store (placed.map (.shift distance)) =
      (steps evaluator store placed).map (.shift distance) := by
  induction placed generalizing store with
  | nil => rfl
  | cons head rest ih => simp [steps, ih, Step.shift, Placed.shift]

/-- Without a gate, lists may be carried out in one batch or in two. -/
theorem run_append (lists later : List (List Operation)) (evaluator : Evaluator) (store : Store) :
    let first := run none lists evaluator store
    let second := run none later evaluator first.store
    let whole := run none (lists ++ later) evaluator store
    ∃ report rest, first.result = .ok report ∧ second.result = .ok rest ∧
      whole.result = .ok (report.followedBy rest lists.length) ∧
      whole.store = second.store ∧ whole.notices = first.notices ++ second.notices := by
  intro first second whole
  have ranFirst : Admitted evaluator lists store _ first := admitted_of_gate_open lists rfl
  have ranSecond : Admitted evaluator later first.store _ second := admitted_of_gate_open later rfl
  have ranWhole : Admitted evaluator (lists ++ later) store _ whole := admitted_of_gate_open _ rfl
  have stepsWhole : steps evaluator store (placedLists 0 (lists ++ later)) =
      steps evaluator store (placedLists 0 lists) ++
        (steps evaluator first.store (placedLists 0 later)).map (.shift lists.length) := by
    rw [placedLists_append, Nat.zero_add, ← Nat.add_zero lists.length, placedLists_shift,
      steps_append, steps_shift, operations_placedLists, ranFirst.finalStore]
    simp
  refine ⟨_, _, ranFirst.ended, ranSecond.ended, ?_, ?_, ?_⟩
  · rw [ranWhole.ended, stepsWhole, Report.ofSteps_append_shift]
  · rw [ranWhole.finalStore, ranSecond.finalStore, ranFirst.finalStore, List.flatten_append,
      storeAfter_append]
  · rw [ranWhole.notices, stepsWhole, List.flatMap_append, List.flatMap_map, ranFirst.notices,
      ranSecond.notices]
    rfl

end Batch

namespace Rule

/-- A rule does what a batch of its operations behind its gate does. -/
theorem run_eq_batch (rule : Rule) (evaluator : Evaluator) (store : Store) :
    (rule.run evaluator store).result =
        (Batch.run rule.gate rule.operations evaluator store).result ∧
      (rule.run evaluator store).store =
        (Batch.run rule.gate rule.operations evaluator store).store ∧
      (rule.run evaluator store).notices =
        (Batch.run rule.gate rule.operations evaluator store).notices := by
  have logged : (Action.log (.runningRule rule.name) store).result = .ok () := rfl
  refine ⟨?_, ?_, ?_⟩
  · rw [run, Action.bind_of_ok logged]
    rfl
  · rw [run, Action.bind_store_of_ok logged]
    rfl
  · rw [run, Action.bind_notices_of_ok logged]
    rfl

/-- A rule is admitted when it is available. -/
theorem run_admitted (rule : Rule) (evaluator : Evaluator) (store : Store) :
    match (rule.isAvailable evaluator store).result with
    | .error error => (rule.run evaluator store).result = .error error
    | .ok available =>
      ∃ report, (rule.run evaluator store).result = .ok report ∧ report.admitted = available := by
  rw [(rule.run_eq_batch evaluator store).1]
  cases asked : (rule.isAvailable evaluator store).result with
  | error error => exact (Batch.idle_of_gate_error rule.operations asked).ended
  | ok available =>
    cases available with
    | false => exact ⟨_, (Batch.idle_of_gate_closed rule.operations asked).ended, rfl⟩
    | true => exact ⟨_, (Batch.admitted_of_gate_open rule.operations asked).ended, rfl⟩

end Rule

namespace Batch

/-- A gate decides whether a batch ends with its error, does nothing, or carries
out and accounts for every operation; batches without a gate may be joined; and
a rule is admitted exactly when it is available. -/
theorem batch_semantics (gate : Gate) (lists later : List (List Operation))
    (evaluator : Evaluator) (store : Store) (rule : Rule) :
    (match (gate.passes evaluator store).result with
      | .error error => Idle store (.error error) (run gate lists evaluator store)
      | .ok false => Idle store (.ok (.initial false)) (run gate lists evaluator store)
      | .ok true => ∃ report, Admitted evaluator lists store report
          (run gate lists evaluator store)) ∧
    (let first := run none lists evaluator store
      let second := run none later evaluator first.store
      let whole := run none (lists ++ later) evaluator store
      ∃ report rest, first.result = .ok report ∧ second.result = .ok rest ∧
        whole.result = .ok (report.followedBy rest lists.length) ∧
        whole.store = second.store ∧ whole.notices = first.notices ++ second.notices) ∧
    (match (rule.isAvailable evaluator store).result with
      | .error error => (rule.run evaluator store).result = .error error
      | .ok available => ∃ report, (rule.run evaluator store).result = .ok report ∧
          report.admitted = available) := by
  refine ⟨?_, run_append lists later evaluator store, rule.run_admitted evaluator store⟩
  cases asked : (gate.passes evaluator store).result with
  | error error => exact idle_of_gate_error lists asked
  | ok opens =>
    cases opens with
    | false => exact idle_of_gate_closed lists asked
    | true => exact ⟨_, admitted_of_gate_open lists asked⟩

end Batch

end Rulebook
