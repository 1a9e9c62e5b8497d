import Rulebook.Bytes.RuleSet
import Rulebook.Json.RuleSet
import Rulebook.Proofs.Json.ShortDecimals
import Rulebook.Proofs.Upgrades

/-! A rule set saved as a JSON text is loaded as it was, or as its upgrade. Only a
float that is not finite keeps the text from being read at all. -/
namespace Rulebook
open Json

attribute [simp] Writable.text Writable.alternative Writable.list Value.writable
  Reference.bool_writable Reference.number_writable Reference.vector_writable
  Reference.bool_restored

@[simp]
theorem Equality.ofJson?_name (equality : Equality) :
    ofJson? (.ofString equality.name) = some equality := by
  cases equality <;> rfl

@[simp]
theorem Comparison.ofJson?_name (comparison : Comparison) :
    ofJson? (.ofString comparison.name) = some comparison := by
  cases comparison <;> rfl

@[simp]
theorem Connective.ofJson?_name (operator : Connective) :
    ofJson? (.ofString operator.name) = some operator := by
  cases operator <;> rfl

@[simp]
theorem Arithmetic.ofJson?_name (operator : Arithmetic) :
    ofJson? (.ofString operator.name) = some operator := by
  cases operator <;> rfl

@[simp]
theorem Rounding.ofJson?_name (rounding : Rounding) :
    ofJson? (.ofString rounding.name) = some rounding := by
  cases rounding <;> rfl

namespace VariableDefinition

@[simp]
theorem writable (definition : VariableDefinition) : Writable definition.toJson :=
  .object (by simp)

theorem restored (definition : VariableDefinition) :
    Restored (ofJson? definition.toJson) definition definition.value.floats := by
  have read : ofJson? definition.toJson =
      (Value.ofJson? definition.value.toJson).bind fun value => some ⟨definition.name, value⟩ := by
    simp [ofJson?, toJson]
  rw [read]
  exact definition.value.restored.andThen rfl

end VariableDefinition

namespace ScriptedCondition

/-- The floats in the operands of a question. -/
def floats (question : ScriptedCondition) : List Number :=
  question.numberA.floats Number.floats ++ question.numberB.floats Number.floats

@[simp]
theorem writable (question : ScriptedCondition) : Writable question.toJson :=
  .object (by simp)

theorem restored (question : ScriptedCondition) :
    Restored (ofJson? question.toJson) question question.floats := by
  have read : ofJson? question.toJson =
      (Reference.numberOfJson? question.numberA.numberToJson).bind fun numberA =>
        (Reference.numberOfJson? question.numberB.numberToJson).bind fun numberB =>
          some { question with numberA, numberB } := by
    simp [ofJson?, toJson]
  rw [read]
  exact question.numberA.number_restored.bind
    (fun numberA => question.numberB.number_restored.andThen rfl) rfl

end ScriptedCondition

namespace Condition

/-- The floats in the operands of a condition. -/
def floats : Condition → List Number
  | bool .. => []
  | number a _ b => a.floats Number.floats ++ b.floats Number.floats
  | vector a _ b => a.floats Vector.floats ++ b.floats Vector.floats
  | .scripted question => question.floats

@[simp]
theorem writable (condition : Condition) : Writable condition.toJson := by
  cases condition with
  | scripted question => exact question.writable.alternative
  | _ => exact (Writable.object (by simp)).alternative

theorem restored (condition : Condition) :
    Restored (ofJson? condition.toJson) condition condition.floats := by
  cases condition with
  | bool a equality b =>
    -- Here and below the alternative is picked first: its fields are read from literals then.
    have read : ofJson? (bool a equality b).toJson = some (bool a equality b) := by
      rw [ofJson?, toJson, alternative?_ofAlternative]
      dsimp only [Option.bind_eq_bind, Option.bind_some]
      simp
    rw [read]
    exact .pure _
  | number a comparison b =>
    have read : ofJson? (number a comparison b).toJson =
        (Reference.numberOfJson? a.numberToJson).bind fun a =>
          (Reference.numberOfJson? b.numberToJson).bind fun b => some (number a comparison b) := by
      rw [ofJson?, toJson, alternative?_ofAlternative]
      dsimp only [Option.bind_eq_bind, Option.bind_some]
      simp
    rw [read]
    exact a.number_restored.bind (fun a => b.number_restored.andThen rfl) rfl
  | vector a equality b =>
    have read : ofJson? (vector a equality b).toJson =
        (Reference.vectorOfJson? a.vectorToJson).bind fun a =>
          (Reference.vectorOfJson? b.vectorToJson).bind fun b => some (vector a equality b) := by
      rw [ofJson?, toJson, alternative?_ofAlternative]
      dsimp only [Option.bind_eq_bind, Option.bind_some]
      simp
    rw [read]
    exact a.vector_restored.bind (fun a => b.vector_restored.andThen rfl) rfl
  | scripted question =>
    have read : ofJson? (Condition.scripted question).toJson =
        (ScriptedCondition.ofJson? question.toJson).bind fun question =>
          some (.scripted question) := by
      rw [ofJson?, toJson, alternative?_ofAlternative]
      dsimp only [Option.bind_eq_bind, Option.bind_some]
      simp
    rw [read]
    exact question.restored.andThen rfl

end Condition

/-- The floats in the operands of a formula. -/
def Formula.floats : Formula → List Number
  | bool .. => []
  | number _ a b _ => a.floats Number.floats ++ b.floats Number.floats
  | scripted _ b c _ => b.floats Number.floats ++ c.floats Number.floats
  | vector _ a b _ => a.floats Vector.floats ++ b.floats Vector.floats

namespace Operation

@[simp]
theorem writable (operation : Operation) : Writable operation.toJson := by
  have target : Writable operation.target.toJson := writable_ofNat _
  refine (Writable.object ?_).alternative
  cases operation.formula <;> simp [target, Formula.jsonFields]

theorem restored (operation : Operation) :
    Restored (ofJson? operation.toJson) operation operation.formula.floats := by
  obtain ⟨target, formula, raiseFlag⟩ := operation
  cases formula with
  | bool operator a b =>
    have read : ofJson? (toJson ⟨target, .bool operator a b, raiseFlag⟩) =
        some ⟨target, .bool operator a b, raiseFlag⟩ := by
      rw [ofJson?, toJson, alternative?_ofAlternative]
      dsimp only [Option.bind_eq_bind, Option.bind_some, Formula.jsonName]
      simp [ofFields?, Formula.jsonFields]
    rw [read]
    exact .pure _
  | number operator a b rounding =>
    have read : ofJson? (toJson ⟨target, .number operator a b rounding, raiseFlag⟩) =
        (Reference.numberOfJson? a.numberToJson).bind fun a =>
          (Reference.numberOfJson? b.numberToJson).bind fun b =>
            some ⟨target, .number operator a b rounding, raiseFlag⟩ := by
      rw [ofJson?, toJson, alternative?_ofAlternative]
      dsimp only [Option.bind_eq_bind, Option.bind_some, Formula.jsonName]
      simp [ofFields?, Formula.jsonFields]
    rw [read]
    exact a.number_restored.bind (fun a => b.number_restored.andThen rfl) rfl
  | scripted expression b c rounding =>
    have read : ofJson? (toJson ⟨target, .scripted expression b c rounding, raiseFlag⟩) =
        (Reference.numberOfJson? b.numberToJson).bind fun b =>
          (Reference.numberOfJson? c.numberToJson).bind fun c =>
            some ⟨target, .scripted expression b c rounding, raiseFlag⟩ := by
      rw [ofJson?, toJson, alternative?_ofAlternative]
      dsimp only [Option.bind_eq_bind, Option.bind_some, Formula.jsonName]
      simp [ofFields?, Formula.jsonFields]
    rw [read]
    exact b.number_restored.bind (fun b => c.number_restored.andThen rfl) rfl
  | vector operator a b rounding =>
    have read : ofJson? (toJson ⟨target, .vector operator a b rounding, raiseFlag⟩) =
        (Reference.vectorOfJson? a.vectorToJson).bind fun a =>
          (Reference.vectorOfJson? b.vectorToJson).bind fun b =>
            some ⟨target, .vector operator a b rounding, raiseFlag⟩ := by
      rw [ofJson?, toJson, alternative?_ofAlternative]
      dsimp only [Option.bind_eq_bind, Option.bind_some, Formula.jsonName]
      simp [ofFields?, Formula.jsonFields]
    rw [read]
    exact a.vector_restored.bind (fun a => b.vector_restored.andThen rfl) rfl

end Operation

namespace Rule

/-- The floats in the gate and the operations of a rule. -/
def floats (rule : Rule) : List Number :=
  rule.conditions.flatMap Condition.floats ++
    rule.operations.flatMap (·.flatMap fun operation => operation.formula.floats)

@[simp]
theorem writable (rule : Rule) : Writable rule.toJson := by
  have gate : Writable (gateToJson rule.gate) := by
    cases rule.gate with
    | none => exact .null
    | some conditions => exact .list fun condition _ => condition.writable
  exact .object (by simp [gate])

theorem gate_restored (gate : Gate) :
    Restored (optional? (list? Condition.ofJson?) (gateToJson gate)) gate
      ((gate.getD []).flatMap Condition.floats) := by
  cases gate with
  | none => exact .pure _
  | some conditions => exact (Restored.list fun condition _ => condition.restored).map

theorem operations_restored (operations : List (List Operation)) :
    Restored (list? (list? Operation.ofJson?)
        (.array (operations.map fun operations => .array (operations.map Operation.toJson))))
      operations (operations.flatMap (·.flatMap fun operation => operation.formula.floats)) :=
  Restored.list fun _ _ => Restored.list fun operation _ => operation.restored

theorem restored (rule : Rule) : Restored (ofJson? rule.toJson) rule rule.floats := by
  have read : ofJson? rule.toJson =
      (optional? (list? Condition.ofJson?) (gateToJson rule.gate)).bind fun gate =>
        (list? (list? Operation.ofJson?) (.array (rule.operations.map fun operations =>
          .array (operations.map Operation.toJson)))).bind fun operations =>
            some ⟨rule.name, gate, operations⟩ := by
    simp [ofJson?, toJson]
  rw [read]
  exact (gate_restored rule.gate).bind
    (fun gate => (operations_restored rule.operations).andThen rfl) rfl

end Rule

@[simp]
theorem writable_limitsToJson (limits : Script.Limits) : Writable (limitsToJson limits) :=
  .object (by simp [writable_ofNat])

@[simp]
theorem limitsOfJson?_limitsToJson (limits : Script.Limits) :
    limitsOfJson? (limitsToJson limits) = some limits := by
  simp [limitsOfJson?, limitsToJson]

namespace RuleSet

/-- The floats in the values of variables and in the operands of rules. -/
def floats (ruleSet : RuleSet) : List Number :=
  ruleSet.definitions.flatMap (fun definition => definition.value.floats) ++
    ruleSet.rules.flatMap Rule.floats

theorem writable (ruleSet : RuleSet) : Writable ruleSet.toJson :=
  .object (by simp [writable_ofNat])

theorem restored (ruleSet : RuleSet) :
    Restored (ofJson? ruleSet.toJson) ruleSet ruleSet.floats := by
  have read : ofJson? ruleSet.toJson =
      (list? VariableDefinition.ofJson?
        (.array (ruleSet.definitions.map VariableDefinition.toJson))).bind fun definitions =>
          (list? Rule.ofJson? (.array (ruleSet.rules.map Rule.toJson))).bind fun rules =>
            some ⟨ruleSet.version, ruleSet.script, definitions, rules⟩ := by
    simp [ofJson?, toJson]
  rw [read]
  exact (Restored.list fun definition _ => definition.restored).bind
    (fun _ => (Restored.list fun rule _ => rule.restored).andThen rfl) rfl

/-- No float in a rule set is infinite or a NaN. -/
def AllFinite (ruleSet : RuleSet) : Prop :=
  ∀ number ∈ ruleSet.floats, number.isFinite = true

instance (ruleSet : RuleSet) : Decidable ruleSet.AllFinite :=
  inferInstanceAs (Decidable (∀ _ ∈ _, _))

/-- The finite doubles in a rule set read back from their texts. A text is read as a
significand and a power of ten that are rounded apart, so that the shortest decimal of a
double need not lead back to it. -/
def DoublesKept (ruleSet : RuleSet) : Prop :=
  ∀ number ∈ ruleSet.floats, number.kind = .float64 → number.isFinite = true →
    Number.ofJson? number.toJson = some number

instance (ruleSet : RuleSet) : Decidable ruleSet.DoublesKept :=
  inferInstanceAs (Decidable (∀ _ ∈ _, _ → _ → _))

theorem doublesKept_of_short {ruleSet : RuleSet}
    (short : ∀ number ∈ ruleSet.floats, number.isShort = true) : ruleSet.DoublesKept := by
  intro number mem kind finite
  cases number with
  | double value => exact Number.ofJson?_of_isShort finite (short _ mem)
  | int value => cases kind
  | float value => cases kind

/-- The finite singles in a rule set read back from their texts. A text that is no
integer is read as a double and rounded once more to a single. -/
def SinglesKept (ruleSet : RuleSet) : Prop :=
  ∀ number ∈ ruleSet.floats, number.kind = .float32 → number.isFinite = true →
    Number.ofJson? number.toJson = some number

instance (ruleSet : RuleSet) : Decidable ruleSet.SinglesKept :=
  inferInstanceAs (Decidable (∀ _ ∈ _, _ → _ → _))

theorem ofText_toText (ruleSet : RuleSet) :
    ofText ruleSet.toText =
      match ofJson? ruleSet.toJson with
      | none => .error .json
      | some found => found.upgrade := by
  rw [ofText, toText, read?_pretty ruleSet.writable]
  rfl

theorem ofText_of_kept {ruleSet : RuleSet} (finite : ruleSet.AllFinite)
    (doubles : ruleSet.DoublesKept) (singles : ruleSet.SinglesKept) :
    ofText ruleSet.toText = ruleSet.upgrade := by
  have each : ∀ number ∈ ruleSet.floats, Number.ofJson? number.toJson = some number := by
    intro number mem
    cases number with
    | int value => exact Number.ofJson?_int value
    | float value => exact singles _ mem rfl (finite _ mem)
    | double value => exact doubles _ mem rfl (finite _ mem)
  rw [ofText_toText, ruleSet.restored.reads each]

theorem ofText_of_infinite {ruleSet : RuleSet} (infinite : ¬ruleSet.AllFinite) :
    ofText ruleSet.toText = .error .json := by
  have unread : ofJson? ruleSet.toJson = none := by
    by_contra read
    exact infinite (ruleSet.restored.finite read)
  rw [ofText_toText, unread]

/-- What is loaded is some rule set's upgrade. -/
theorem upgrade_of_loaded {loaded : Upgrade}
    (source : (∃ text, ofText text = .ok loaded) ∨ ∃ bytes, ofBytes bytes = .ok loaded) :
    ∃ found : RuleSet, found.upgrade = .ok loaded := by
  obtain ⟨text, read⟩ | ⟨bytes, read⟩ := source
  · rw [ofText] at read
    split at read
    · cases read
    · exact ⟨_, read⟩
  · rw [ofBytes] at read
    split at read
    · cases read
    · exact ⟨_, read⟩

/-- A rule set saved as a JSON text is loaded as its upgrade if its floats are finite and
read back from their own texts, and not at all if they are not finite. What has been loaded
once stays as it is. -/
theorem json_form_exact (ruleSet : RuleSet) :
    (ruleSet.AllFinite → ruleSet.DoublesKept → ruleSet.SinglesKept →
      (ruleSet.version = 2 → ofText ruleSet.toText = .ok ⟨ruleSet, none⟩) ∧
      (ruleSet.version = 1 → ∃ modern record, ruleSet.Modernized modern ∧
        ofText ruleSet.toText = .ok ⟨modern, some record⟩) ∧
      (ruleSet.version = 0 ∨ 2 < ruleSet.version →
        ofText ruleSet.toText = .error (.unsupportedVersion ruleSet.version))) ∧
    (¬ruleSet.AllFinite → ofText ruleSet.toText = .error .json) ∧
    ∀ record?,
      (∃ text, ofText text = .ok ⟨ruleSet, record?⟩) ∨
        (∃ bytes, ofBytes bytes = .ok ⟨ruleSet, record?⟩) →
      ruleSet.AllFinite → ruleSet.DoublesKept → ruleSet.SinglesKept →
      ofText ruleSet.toText = .ok ⟨ruleSet, none⟩ := by
  refine ⟨fun finite doubles singles => ?_, ofText_of_infinite,
    fun record? source finite doubles singles => ?_⟩
  · rw [ofText_of_kept finite doubles singles]
    refine ⟨upgrade_of_newest, fun first => ?_, fun unsupported => if_pos unsupported⟩
    obtain ⟨record, upgrades⟩ := upgrade_of_first first
    exact ⟨_, record, ruleSet.modernized_alwaysRaising, upgrades⟩
  · obtain ⟨found, upgraded⟩ := upgrade_of_loaded source
    rw [ofText_of_kept finite doubles singles]
    exact upgrade_of_upgraded upgraded

/-- A set with texts outside ASCII, an empty gate and floats of both widths. -/
def sundial : RuleSet :=
  let shadow : VariableId := ⟨0⟩
  let lengthen : Operation :=
    ⟨shadow, .number .add (.bound shadow) (.literal (.float (.ofBits 0x3dcccccd))) .floor, .unbound⟩
  ⟨2, .default,
    [⟨"Länge", .number (.double (.ofBits 0x3fb999999999999a))⟩,
      ⟨"\"x\"\n", .vector (.float2 (.ofBits 0x7f7fffff) (.zero true))⟩],
    [⟨"später ☀", some [], [[lengthen], []]⟩]⟩

theorem json_form_exact_sundial :
    sundial.AllFinite ∧ sundial.DoublesKept ∧ sundial.SinglesKept ∧
      ofText sundial.toText = .ok ⟨sundial, none⟩ ∧
      ofText (sundial.withVariable "∞" (.number (.double (.infinity true)))).toText =
        .error .json := by
  have finite : sundial.AllFinite := by decide +kernel
  have doubles : sundial.DoublesKept := doublesKept_of_short (by decide +kernel)
  have singles : sundial.SinglesKept := by decide +kernel
  exact ⟨finite, doubles, singles, (sundial.json_form_exact.1 finite doubles singles).1 rfl,
    (json_form_exact _).2.1 (by decide +kernel)⟩

end RuleSet

end Rulebook
