import Rulebook.Proofs.Consultations

/-! What a batch logs. A gate warns of scripted conditions that came to no boolean; behind
it every operation that was tried leaves one record, and a last record sums them up. The
log therefore tells the report all over again. -/
namespace Rulebook
open Script

/-- The record that an event is, if it is one. -/
def Event.record? : Event → Option LogRecord
  | .logged record => some record
  | .consulted .. | .notified _ => none

/-- What is logged, in order. -/
def Outcome.records (outcome : Outcome α) : List LogRecord :=
  outcome.events.filterMap Event.record?

/-- How much a record matters, and which part of the library it comes from. -/
def LogRecord.heading (record : LogRecord) : LogLevel × LogTopic :=
  (record.level, record.topic)

/-- What a scripted condition comes to, if its operands can be looked up and its expression
can be worked out. -/
def ScriptedCondition.value? (evaluator : Evaluator) (store : Store)
    (question : ScriptedCondition) : Option Datum :=
  (question.consultation? store).bind fun asked =>
    (evaluator.evaluate asked.expression asked.bindings).toOption

/-- The warning that a condition gives rise to: it is scripted and comes to no boolean. -/
def Condition.warning? (evaluator : Evaluator) (store : Store) : Condition → Option LogRecord
  | .scripted question =>
    match question.value? evaluator store with
    | none | some (.boolean _) => none
    | some value => some (.notBoolean question.expression value.typeTag)
  | .bool .. | .number .. | .vector .. => none

/-- The record that an operation of a batch leaves: its target as it stands right after
the write, or where and why it failed. -/
def Step.Logs (step : Step) (record : LogRecord) : Prop :=
  match step.outcome.result with
  | .ok execution =>
    record.heading = (.debug, .operations) ∧
      ∃ written, step.outcome.store.get step.placed.operation.target = .ok written ∧
        record = .operationExecuted written execution.raised
  | .error error =>
    record.heading = (.warn, .batch) ∧
      record = .operationFailed step.placed.list step.placed.index
        step.placed.operation.formula.family error

/-- A log tells what a report tells. Behind what stood there before, every operation has its
record, in order, and the last record has the counts of the report. So as many operations
failed as there are warnings of the batch, and as many were carried out as there are records
of operations. -/
structure Report.MirroredBy (report : Report) (taken : List Step)
    (before records : List LogRecord) : Prop where
  inOrder : ∃ each last, records = before ++ each ++ [last] ∧ List.Forall₂ Step.Logs taken each ∧
    last.heading = (.debug, .batch) ∧
    last = .batchComplete report.executed report.raised report.failures.length
  warnings : records.countP (·.heading = (.warn, .batch)) = report.failures.length
  executions : records.countP (·.topic = .operations) = report.executed

namespace Action

theorem records_bind_of_ok {action : Action α} {next : α → Action β}
    (ran : (action store).result = .ok value) :
    ((action >>= next) store).records =
      (action store).records ++ (next value (action store).store).records :=
  events_bind_of_ok Event.record? ran

theorem records_bind_of_error {action : Action α} {next : α → Action β}
    (ran : (action store).result = .error error) :
    ((action >>= next) store).records = (action store).records :=
  congrArg _ (events_bind_of_error ran)

/-- However it ends, the action logs nothing. -/
structure Unlogged (action : Action α) : Prop where
  records : ∀ store, (action store).records = []

theorem unlogged_read (view : Store → Except RuleError α) : Unlogged (read view) :=
  ⟨fun _ => rfl⟩

theorem unlogged_consult (evaluator : Evaluator) (expression : String) (bindings : Bindings) :
    Unlogged (consult evaluator expression bindings) :=
  ⟨fun _ => rfl⟩

theorem unlogged_bind {action : Action α} {next : α → Action β} (first : Unlogged action)
    (rest : ∀ value, Unlogged (next value)) : Unlogged (action >>= next) := by
  constructor
  intro store
  cases ran : (action store).result with
  | error error => rw [records_bind_of_error ran, first.records]
  | ok value =>
    rw [records_bind_of_ok ran, first.records, (rest value).records, List.append_nil]

end Action

open Rulebook.Action

/-- A scripted condition counts as true or false by its value; no other value than a boolean
passes without a warning. -/
theorem ScriptedCondition.evaluate_of_value? (question : ScriptedCondition)
    (evaluator : Evaluator) (store : Store) :
    let asked := question.evaluate evaluator store
    asked.records = ((Condition.scripted question).warning? evaluator store).toList ∧
      ∀ value, question.value? evaluator store = some value → asked.result = .ok value.truthy := by
  simp only [Condition.warning?, value?, question.consultation?_of_bindings, evaluate, ask_apply]
  cases question.bindings store with
  | error error => exact ⟨rfl, fun _ none => by cases none⟩
  | ok bindings =>
    simp only [Except.toOption, Option.map_some, Option.bind_some]
    cases evaluator.evaluate question.expression bindings with
    | error error => exact ⟨rfl, fun _ none => by cases none⟩
    | ok found =>
      refine ⟨by cases found <;> rfl, ?_⟩
      rintro value ⟨⟩
      cases found <;> rfl

theorem Condition.records_evaluate (evaluator : Evaluator) (store : Store)
    (condition : Condition) :
    (condition.evaluate evaluator store).records =
      (condition.warning? evaluator store).toList := by
  cases condition with
  | scripted question => exact (question.evaluate_of_value? evaluator store).1
  | bool a equality b => rfl
  | number a comparison b => rfl
  | vector a equality b => rfl

/-- A gate warns of the conditions that it gets to. -/
theorem Condition.records_allHold (evaluator : Evaluator) (store : Store)
    (conditions : List Condition) :
    (allHold evaluator conditions store).records =
      (asked evaluator store conditions).filterMap (warning? evaluator store) := by
  induction conditions with
  | nil => rfl
  | cons condition rest ih =>
    have first := condition.records_evaluate evaluator store
    have unchanged := (condition.quiet_evaluate evaluator).store store
    rw [allHold, asked]
    cases ran : (condition.evaluate evaluator store).result with
    | error error =>
      rw [records_bind_of_error ran, first, List.filterMap_eq_flatMap_toList]
      exact (List.append_nil _).symm
    | ok holds =>
      rw [records_bind_of_ok ran, first, unchanged, List.filterMap_eq_flatMap_toList]
      cases holds with
      | false => rfl
      | true =>
        rw [List.filterMap_eq_flatMap_toList] at ih
        exact congrArg _ ih

theorem Gate.records_passes (evaluator : Evaluator) (store : Store) (gate : Gate) :
    (gate.passes evaluator store).records =
      (Condition.asked evaluator store (gate.getD [])).filterMap
        (Condition.warning? evaluator store) := by
  cases gate with
  | none => rfl
  | some conditions => exact Condition.records_allHold evaluator store conditions

/-- Working out a value is not logged. -/
theorem Formula.unlogged_compute (evaluator : Evaluator) (target : VariableId)
    (formula : Formula) : Unlogged (formula.compute evaluator target) := by
  cases formula with
  | bool operator a b => exact unlogged_read _
  | number operator a b rounding => exact unlogged_read _
  | vector operator a b rounding => exact unlogged_read _
  | scripted expression b c rounding =>
    refine unlogged_bind (unlogged_read _) fun kind => unlogged_bind (unlogged_read _)
      fun bindings => unlogged_bind (unlogged_consult ..) fun value => ⟨fun store => ?_⟩
    cases value <;> rfl

/-- An operation logs its target when all is done; if it fails it logs nothing. -/
theorem Operation.records_execute (operation : Operation) (evaluator : Evaluator)
    (store : Store) :
    let ran := operation.execute evaluator store
    match ran.result with
    | .ok execution => ∃ written, ran.store.get operation.target = .ok written ∧
        ran.records = [.operationExecuted written execution.raised]
    | .error _ => ran.records = [] := by
  have computing : (operation.compute evaluator store).events.filterMap Event.record? = [] :=
    (operation.formula.unlogged_compute evaluator operation.target).records store
  rcases operation.execute_cases evaluator store with
    ⟨error, -, ended⟩ | ⟨value, raised, after, var, -, -, -, seen, ended⟩
  · simp only [ended]
    exact computing
  · simp only [ended]
    refine ⟨var, seen, ?_⟩
    simp only [Outcome.records, List.filterMap_append, computing, List.nil_append]
    cases raised <;> simp [Event.record?, Function.comp_def]

namespace Batch

/-- Every operation of a batch leaves one record. -/
theorem exists_record (evaluator : Evaluator) (store : Store) (placed : Placed) :
    let step : Step := ⟨placed, placed.operation.execute evaluator store⟩
    ∃ record, step.Logs record ∧ step.events.filterMap Event.record? = [record] := by
  intro step
  have executing := placed.operation.records_execute evaluator store
  simp only [Step.Logs, Step.events, Step.complaint, List.filterMap_append, step]
  cases ended : (placed.operation.execute evaluator store).result with
  | ok execution =>
    simp only [ended] at executing
    obtain ⟨written, seen, records⟩ := executing
    exact ⟨_, ⟨rfl, written, seen, rfl⟩, (List.append_nil _).trans records⟩
  | error error =>
    simp only [ended] at executing
    exact ⟨_, ⟨rfl, rfl⟩, congrArg (· ++ [_]) executing⟩

/-- The records of operations carried out in turn are in the order of the operations. -/
theorem exists_records (evaluator : Evaluator) (store : Store) (placed : List Placed) :
    ∃ records, List.Forall₂ Step.Logs (steps evaluator store placed) records ∧
      ((steps evaluator store placed).flatMap Step.events).filterMap Event.record? = records := by
  induction placed generalizing store with
  | nil => exact ⟨[], .nil, rfl⟩
  | cons head rest ih =>
    obtain ⟨record, logs, here⟩ := exists_record evaluator store head
    obtain ⟨records, later, there⟩ := ih (head.operation.execute evaluator store).store
    refine ⟨record :: records, .cons logs later, ?_⟩
    rw [steps, List.flatMap_cons, List.filterMap_append, here, there]
    rfl

/-- Each record stands for the outcome of its step. -/
theorem countP_records {taken : List Step} {records : List LogRecord}
    (logs : List.Forall₂ Step.Logs taken records) :
    records.countP (·.heading = (.warn, .batch)) = (Report.ofSteps taken).failures.length ∧
      records.countP (·.topic = .operations) = (Report.ofSteps taken).executed := by
  induction logs with
  | nil => exact ⟨rfl, rfl⟩
  | @cons step record rest records here later ih =>
    obtain ⟨warnings, executions⟩ := ih
    rw [List.countP_cons, List.countP_cons, warnings, executions]
    unfold Step.Logs at here
    cases ended : step.outcome.result with
    | ok execution =>
      rw [ended] at here
      obtain ⟨-, written, -, rfl⟩ := here
      rw [Report.ofSteps_cons_of_ok ended]
      exact ⟨rfl, rfl⟩
    | error error =>
      rw [ended] at here
      obtain ⟨-, rfl⟩ := here
      rw [Report.ofSteps_cons_of_error ended]
      exact ⟨rfl, rfl⟩

/-- What a gate logs are warnings about conditions. -/
theorem heading_of_mem_passes {gate : Gate} {evaluator : Evaluator} {store : Store}
    {record : LogRecord} (logged : record ∈ (gate.passes evaluator store).records) :
    record.heading = (.warn, .conditions) := by
  rw [gate.records_passes, List.mem_filterMap] at logged
  obtain ⟨condition, -, warned⟩ := logged
  unfold Condition.warning? at warned
  split at warned
  · split at warned <;> cases warned
    rfl
  all_goals cases warned

/-- Operations leave one record each, and the log of the gate has none like them. -/
theorem mirroredBy_run {gate : Gate} {evaluator : Evaluator} {store : Store}
    (opens : (gate.passes evaluator store).result = .ok true) (lists : List (List Operation)) :
    let taken := steps evaluator store (placedLists 0 lists)
    (Report.ofSteps taken).MirroredBy taken (gate.passes evaluator store).records
      (run gate lists evaluator store).records := by
  intro taken
  obtain ⟨each, logs, recorded⟩ := exists_records evaluator store (placedLists 0 lists)
  obtain ⟨warnings, executions⟩ := countP_records logs
  have written : (run gate lists evaluator store).records =
      (gate.passes evaluator store).records ++ each ++
        [.batchComplete (Report.ofSteps taken).executed (Report.ofSteps taken).raised
          (Report.ofSteps taken).failures.length] := by
    rw [Outcome.records, events_run, opens]
    simp only [List.filterMap_append, recorded, List.append_assoc]
    rfl
  have others (heading : LogRecord → Bool)
      (none : ∀ record, record.heading = (.warn, .conditions) → heading record = false) :
      (gate.passes evaluator store).records.countP heading = 0 := by
    rw [List.countP_eq_zero]
    intro record logged
    rw [none record (heading_of_mem_passes logged)]
    exact Bool.false_ne_true
  refine ⟨⟨each, _, written, logs, rfl, rfl⟩, ?_, ?_⟩
  · rw [written, List.countP_append, List.countP_append, warnings,
      others _ fun record heading => by simp [heading]]
    simp [LogRecord.heading, LogRecord.level, taken]
  · rw [written, List.countP_append, List.countP_append, executions,
      others _ fun record heading => by simp [(Prod.mk.inj heading).2]]
    simp [LogRecord.topic, taken]

/-- The log of a batch mirrors its report. A gate warns of every scripted condition that it
gets to and that comes to no boolean, and takes it by its truth; it logs nothing else. A gate
that is closed is recorded once, an error is not. If the gate opens, every operation that
follows leaves one record, in order, and a last record sums them up. -/
theorem log_mirrors_report (gate : Gate) (lists : List (List Operation)) (evaluator : Evaluator)
    (store : Store) :
    let passed := gate.passes evaluator store
    let ran := run gate lists evaluator store
    (passed.records = (Condition.asked evaluator store (gate.getD [])).filterMap
        (Condition.warning? evaluator store) ∧
      (∀ record ∈ passed.records, record.heading = (.warn, .conditions)) ∧
      ∀ (question : ScriptedCondition) (value : Datum),
        question.value? evaluator store = some value →
        (question.evaluate evaluator store).result = .ok value.truthy) ∧
    match passed.result with
    | .error error => ran.result = .error error ∧ ran.records = passed.records
    | .ok false => ran.result = .ok (.initial false) ∧ ∃ last, last.heading = (.debug, .batch) ∧
        last = .gateClosed ∧ ran.records = passed.records ++ [last]
    | .ok true => ∃ report, ran.result = .ok report ∧ report.admitted = true ∧
        report.MirroredBy (steps evaluator store (placedLists 0 lists)) passed.records
          ran.records := by
  intro passed ran
  refine ⟨⟨gate.records_passes evaluator store, fun _ => heading_of_mem_passes,
    fun question => (question.evaluate_of_value? evaluator store).2⟩, ?_⟩
  have happened : ran.records = _ := congrArg (List.filterMap Event.record?)
    (events_run evaluator store gate lists)
  cases asked : passed.result with
  | error error =>
    refine ⟨(idle_of_gate_error lists asked).ended, ?_⟩
    rw [happened, show (gate.passes evaluator store).result = _ from asked]
    exact congrArg _ (List.append_nil _)
  | ok opens =>
    cases opens with
    | false =>
      refine ⟨(idle_of_gate_closed lists asked).ended, _, rfl, rfl, ?_⟩
      rw [happened, show (gate.passes evaluator store).result = _ from asked]
      exact List.filterMap_append
    | true => exact ⟨_, (admitted_of_gate_open lists asked).ended, rfl, mirroredBy_run asked lists⟩

/-- The keeper of a toll agrees by a word that is no boolean. A division by nothing is
warned of, and the toll goes up all the same. -/
theorem log_mirrors_report_toll :
    let toll : VariableId := ⟨0⟩
    let store := (Store.empty.adding ⟨"toll", .number (.int 4)⟩).observing toll "board"
    let question : ScriptedCondition := .ofExpression "open"
    let gate : Gate := some [.scripted question]
    let lists : List (List Operation) :=
      [[⟨toll, .number .divide (.bound toll) .unbound .floor, .unbound⟩], [],
        [⟨toll, .number .add (.bound toll) (.literal (.int 1)) .floor, .literal true⟩]]
    let word : Datum := .text "aye"
    let keeper : Evaluator := ⟨fun _ _ => .ok word, fun _ => .ok ()⟩
    let warning : LogRecord := .notBoolean "open" .text
    let ran := run gate lists keeper store
    (question.value? keeper store = some word ∧
      warning ∈ (gate.passes keeper store).records) ∧
      warning.heading = (.warn, .conditions) ∧
      (question.evaluate keeper store).result = .ok true ∧
      ran.records = [warning, .operationFailed 0 0 "number" (.divisionByZero "toll"),
        .operationExecuted ⟨"toll", .number (.int 5)⟩ true, .batchComplete 1 1 1] ∧
      ∃ report, ran.result = .ok report ∧
        report.MirroredBy (steps keeper store (placedLists 0 lists)) [warning] ran.records := by
  intro toll store question gate lists word keeper warning ran
  let divide : Operation := ⟨toll, .number .divide (.bound toll) .unbound .floor, .unbound⟩
  let add : Operation := ⟨toll, .number .add (.bound toll) (.literal (.int 1)) .floor, .literal true⟩
  let between := (divide.execute keeper store).store
  have valued : question.value? keeper store = some word := rfl
  have opens : (gate.passes keeper store).result = .ok true := by decide +kernel
  have passed : (gate.passes keeper store).records = [warning] := by decide +kernel
  have logged : warning ∈ (gate.passes keeper store).records := by
    rw [passed]
    exact List.mem_singleton_self warning
  obtain ⟨⟨-, headings, values⟩, ended⟩ := log_mirrors_report gate lists keeper store
  simp only [opens, passed] at ended
  obtain ⟨report, result, -, mirrored⟩ := ended
  have agreed : word.truthy = true := by decide +kernel
  refine ⟨⟨valued, logged⟩, headings warning logged, ?_, ?_, report, result, mirrored⟩
  · rw [values question word valued, agreed]
  · have refused : (divide.execute keeper store).result = .error (.divisionByZero "toll") := by
      decide +kernel
    have carried : (add.execute keeper between).result = .ok ⟨toll, true⟩ := by decide +kernel
    have risen : (add.execute keeper between).store.get toll = .ok ⟨"toll", .number (.int 5)⟩ := by
      decide +kernel
    have counted : ran.result = .ok ⟨true, 1, 1, [⟨0, 0, .divisionByZero "toll"⟩]⟩ := by
      decide +kernel
    obtain ⟨⟨each, last, recorded, logs, -, rfl⟩, -, -⟩ := mirrored
    rw [show placedLists 0 lists = [⟨0, 0, divide⟩, ⟨2, 0, add⟩] from rfl, steps, steps, steps]
      at logs
    cases logs with
    | cons divided rest =>
      cases rest with
      | cons added none =>
        cases none
        simp only [Step.Logs, refused] at divided
        simp only [Step.Logs, carried, between] at added
        obtain ⟨-, rfl⟩ := divided
        obtain ⟨-, written, seen, rfl⟩ := added
        cases seen.symm.trans risen
        cases result.symm.trans counted
        exact recorded

end Batch

end Rulebook
