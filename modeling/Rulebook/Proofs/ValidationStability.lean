import Rulebook.Proofs.Failures
import Rulebook.Proofs.StoreHistory

/-! Validation asks about kinds, names and texts only. Kinds do not change, so
what has been found valid stays valid whatever happens to the store. -/
namespace Rulebook
open Numeric Script

/-- If one computation succeeds, so does the other. -/
def Persists (earlier : Except ε α) (later : Except ε α) : Prop :=
  ∀ value, earlier = .ok value → ∃ now, later = .ok now

theorem persists_refl (result : Except ε α) : Persists result result :=
  fun value ended => ⟨value, ended⟩

theorem persists_map {earlier later : Except ε α} {change : α → β}
    (first : Persists earlier later) : Persists (earlier.map change) (later.map change) := by
  intro value ended
  cases succeeded : earlier with
  | error error => simp [succeeded, Except.map] at ended
  | ok old =>
    obtain ⟨now, rfl⟩ := first old succeeded
    exact ⟨change now, rfl⟩

/-- A sequence persists if its parts do, whatever values they hand on. -/
theorem persists_bind {earlier later : Except ε α} {next following : α → Except ε β}
    (first : Persists earlier later) (rest : ∀ old now, Persists (next old) (following now)) :
    Persists (earlier >>= next) (later >>= following) := by
  intro value ended
  obtain ⟨old, succeeded, others⟩ := bind_eq_ok_iff.mp ended
  obtain ⟨now, rfl⟩ := first old succeeded
  exact rest old now value others

theorem persists_forM {list : List α} {check recheck : α → Except ε PUnit}
    (each : ∀ member ∈ list, Persists (check member) (recheck member)) :
    Persists (list.forM check) (list.forM recheck) := by
  induction list with
  | nil => exact persists_refl _
  | cons head rest ih =>
    obtain ⟨first, others⟩ := List.forall_mem_cons.mp each
    exact persists_bind first fun _ _ => ih others

/-- A type of operands for which the kind of a value decides whether the value is
an operand. -/
class LawfulOperand (α : Type) [Operand α] : Prop where
  ofValue_of_kind : ∀ {old now : Value} {operand : α}, now.kind = old.kind →
    Operand.ofValue? old = some operand → ∃ other : α, Operand.ofValue? now = some other

instance : LawfulOperand Bool where
  ofValue_of_kind {old now _} same isOperand := by
    cases old <;> cases now <;> simp_all [Value.kind, Operand.ofValue?, Value.bool?]

instance : LawfulOperand Number where
  ofValue_of_kind {old now _} same isOperand := by
    cases old <;> cases now <;> simp_all [Value.kind, Operand.ofValue?, Value.number?]

instance : LawfulOperand Vector where
  ofValue_of_kind {old now _} same isOperand := by
    cases old <;> cases now <;> simp_all [Value.kind, Operand.ofValue?, Value.vector?]

namespace Store

theorem numberTarget_eq_ok_iff (store : Store) (id : VariableId)
    (target : String × NumberKind) :
    store.numberTarget id = .ok target ↔
      ∃ var, store.get id = .ok var ∧ var.name = target.1 ∧ var.kind = .number target.2 := by
  unfold numberTarget
  cases store.get id with
  | error error => simp [bind, Except.bind]
  | ok var =>
    cases same : var.kind <;> simp [bind, Except.bind, pure, Except.pure, same, Prod.ext_iff]

theorem vectorTarget_eq_ok_iff (store : Store) (id : VariableId)
    (target : String × VectorShape) :
    store.vectorTarget id = .ok target ↔
      ∃ var, store.get id = .ok var ∧ var.name = target.1 ∧ var.kind = .vector target.2 := by
  unfold vectorTarget
  cases store.get id with
  | error error => simp [bind, Except.bind]
  | ok var =>
    cases same : var.kind <;> simp [bind, Except.bind, pure, Except.pure, same, Prod.ext_iff]

theorem boolTarget_eq_ok_iff (store : Store) (id : VariableId) :
    store.boolTarget id = .ok () ↔ ∃ var, store.get id = .ok var ∧ var.kind = .bool := by
  unfold boolTarget
  cases store.get id with
  | error error => simp [bind, Except.bind]
  | ok var => by_cases same : var.kind = .bool <;> simp [bind, Except.bind, pure, Except.pure, same]

end Store

section Later
variable {before after : Store} (grows : before.Extends after)
include grows

/-- An operand that could be looked up can be looked up in every later store,
though its value may have changed. -/
theorem Reference.persists_resolve [Operand α] [LawfulOperand α] (reference : Reference α) :
    Persists (reference.resolve before) (reference.resolve after) := by
  intro value resolved
  cases reference with
  | unbound => exact ⟨_, rfl⟩
  | literal value => exact ⟨_, rfl⟩
  | bound id =>
    cases found : before.get id with
    | error error => simp [resolve, found] at resolved
    | ok var =>
      obtain ⟨now, foundNow, -, sameKind⟩ := grows.get found
      cases held : (Operand.ofValue? var.value : Option α) with
      | none => simp [resolve, found, held] at resolved
      | some operand =>
        obtain ⟨other, heldNow⟩ := LawfulOperand.ofValue_of_kind sameKind held
        exact ⟨other, by simp [resolve, foundNow, heldNow]⟩

theorem Reference.persists_resolveWide (reference : Reference Number) :
    Persists (reference.resolveWide before) (reference.resolveWide after) :=
  persists_map (reference.persists_resolve grows)

namespace Store

/-- What the name and the kind of a variable decide is decided in the same way
in every later store. -/
theorem persists_of_name_kind {look : Store → Except RuleError β} {id : VariableId}
    (Fits : String → Kind → β → Prop)
    (decided : ∀ store value, look store = .ok value ↔
      ∃ var, store.get id = .ok var ∧ Fits var.name var.kind value) :
    Persists (look before) (look after) := by
  intro value looked
  obtain ⟨var, found, fits⟩ := (decided before value).mp looked
  obtain ⟨now, foundNow, sameName, sameKind⟩ := grows.get found
  refine ⟨value, (decided after value).mpr ⟨now, foundNow, ?_⟩⟩
  rw [sameName, sameKind]
  exact fits

theorem persists_numberTarget (id : VariableId) :
    Persists (before.numberTarget id) (after.numberTarget id) :=
  persists_of_name_kind grows (fun name kind target => name = target.1 ∧ kind = .number target.2)
    fun store target => store.numberTarget_eq_ok_iff id target

theorem persists_vectorTarget (id : VariableId) :
    Persists (before.vectorTarget id) (after.vectorTarget id) :=
  persists_of_name_kind grows (fun name kind target => name = target.1 ∧ kind = .vector target.2)
    fun store target => store.vectorTarget_eq_ok_iff id target

theorem persists_boolTarget (id : VariableId) :
    Persists (before.boolTarget id) (after.boolTarget id) :=
  persists_of_name_kind grows (fun _ kind _ => kind = .bool)
    fun store _ => store.boolTarget_eq_ok_iff id

end Store

theorem ScriptedCondition.persists_bindings (question : ScriptedCondition) :
    Persists (question.bindings before) (question.bindings after) :=
  persists_bind (question.numberA.persists_resolveWide grows) fun _ _ =>
    persists_bind (question.numberB.persists_resolveWide grows) fun _ _ =>
      persists_bind (question.boolA.persists_resolve grows) fun _ _ =>
        persists_bind (question.boolB.persists_resolve grows) fun _ _ _ _ => ⟨_, rfl⟩

theorem persists_scriptedBindings (target : VariableId) (b c : Reference Number) :
    Persists (scriptedBindings before target b c) (scriptedBindings after target b c) :=
  persists_bind ((Reference.bound target).persists_resolveWide grows) fun _ _ =>
    persists_bind (b.persists_resolveWide grows) fun _ _ =>
      persists_bind (c.persists_resolveWide grows) fun _ _ _ _ => ⟨_, rfl⟩

private theorem persists_operands [Operand α] [LawfulOperand α] (a b : Reference α) :
    Persists (do let _ ← a.resolve before; let _ ← b.resolve before : Except RuleError Unit)
      (do let _ ← a.resolve after; let _ ← b.resolve after) :=
  persists_bind (a.persists_resolve grows) fun _ _ =>
    persists_bind (b.persists_resolve grows) fun _ _ => persists_refl _

/-- A valid condition stays valid. -/
theorem Condition.persists_validate (evaluator : Evaluator) (condition : Condition) :
    Persists (condition.validate evaluator before) (condition.validate evaluator after) := by
  cases condition with
  | bool a equality b => exact persists_operands grows a b
  | number a comparison b => exact persists_operands grows a b
  | vector a equality b => exact persists_operands grows a b
  | scripted question =>
    exact persists_bind (question.persists_bindings grows) fun _ _ => persists_refl _

/-- A valid formula stays valid. -/
theorem Formula.persists_validate (evaluator : Evaluator) (target : VariableId)
    (formula : Formula) :
    Persists (formula.validate evaluator before target)
      (formula.validate evaluator after target) := by
  cases formula with
  | bool operator a b =>
    exact persists_bind (Store.persists_boolTarget grows target) fun _ _ =>
      persists_operands grows a b
  | number operator a b rounding =>
    exact persists_bind (Store.persists_numberTarget grows target) fun _ _ =>
      persists_operands grows a b
  | scripted expression b c rounding =>
    exact persists_bind (Store.persists_numberTarget grows target) fun _ _ =>
      persists_bind (persists_scriptedBindings grows target b c) fun _ _ => persists_refl _
  | vector operator a b rounding =>
    exact persists_bind (Store.persists_vectorTarget grows target) fun _ _ =>
      persists_operands grows a b

/-- A valid operation stays valid. -/
theorem Operation.persists_validate (evaluator : Evaluator) (operation : Operation) :
    Persists (operation.validate evaluator before) (operation.validate evaluator after) :=
  persists_bind (operation.formula.persists_validate grows evaluator operation.target) fun _ _ =>
    persists_bind (operation.raiseFlag.persists_resolve grows) fun _ _ => persists_refl _

/-- A valid rule stays valid. -/
theorem Rule.persists_validate (evaluator : Evaluator) (rule : Rule) :
    Persists (rule.validate evaluator before) (rule.validate evaluator after) :=
  persists_bind (persists_forM fun condition _ => condition.persists_validate grows evaluator)
    fun _ _ => persists_forM fun operation _ => operation.persists_validate grows evaluator

end Later

end Rulebook
