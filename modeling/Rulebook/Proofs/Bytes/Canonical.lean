import Mathlib.Tactic.MkIffOfInductiveProp
import Mathlib.Tactic.Simproc.ExistsAndEq
import Rulebook.Bytes.RuleSet
import Rulebook.Proofs.Bytes.Decoding
import Rulebook.Proofs.Upgrades

/-! The binary form of rule sets is exact and canonical: reading undoes writing,
whatever follows, and bytes that can be read begin with one written form. Each
decoder is shown to invert its encoder from the lemmas of the decoders it is made
of. A text or a list fits if its length can be written in eight bytes, as every
length that a machine of 64 bits can hold. -/
namespace Rulebook
open Decoder

section

variable {input rest : Bytes}

theorem Number.run_decoder_iff (value : Number) :
    Number.decoder.run input = .ok (value, rest) ↔ input = value.toBytes ++ rest := by
  rw [decoder, run_alternative_iff (by decide)]
  simp only [OneReads, run_map_iff, run_int32_iff, run_single_iff, run_double_iff]
  cases value <;> simp [toBytes]

theorem Vector.run_decoder_iff (value : Vector) :
    Vector.decoder.run input = .ok (value, rest) ↔ input = value.toBytes ++ rest := by
  rw [decoder, run_alternative_iff (by decide)]
  simp only [OneReads, run_seq_iff, run_map_iff, run_int32_iff, run_single_iff]
  cases value <;> simp [toBytes]

theorem Value.run_decoder_iff (value : Value) :
    Value.decoder.run input = .ok (value, rest) ↔ input = value.toBytes ++ rest := by
  rw [decoder, run_alternative_iff (by decide)]
  simp only [OneReads, run_map_iff, run_bool_iff, Number.run_decoder_iff, Vector.run_decoder_iff]
  cases value <;> simp [toBytes]

theorem VariableId.run_decoder_iff (id : VariableId) :
    VariableId.decoder.run input = .ok (id, rest) ↔ input = id.toBytes ++ rest := by
  simp only [decoder, run_map_iff, run_uint32_iff]
  cases id
  simp [toBytes]

theorem Reference.run_decoder_iff {α : Type} {content : Decoder α} {encode : α → Bytes}
    (inverts : ∀ {input rest : Bytes} (value : α),
      content.run input = .ok (value, rest) ↔ input = encode value ++ rest)
    (reference : Reference α) :
    (Reference.decoder content).run input = .ok (reference, rest) ↔
      input = reference.toBytes encode ++ rest := by
  rw [decoder, run_alternative_iff (by simp)]
  simp only [OneReads, run_pure_iff, run_map_iff, inverts, VariableId.run_decoder_iff]
  cases reference <;> simp [toBytes]

theorem Reference.run_boolDecoder_iff (reference : Reference Bool) :
    boolDecoder.run input = .ok (reference, rest) ↔ input = reference.boolBytes ++ rest :=
  run_decoder_iff run_bool_iff reference

theorem Reference.run_numberDecoder_iff (reference : Reference Number) :
    numberDecoder.run input = .ok (reference, rest) ↔ input = reference.numberBytes ++ rest :=
  run_decoder_iff Number.run_decoder_iff reference

theorem Reference.run_vectorDecoder_iff (reference : Reference Vector) :
    vectorDecoder.run input = .ok (reference, rest) ↔ input = reference.vectorBytes ++ rest :=
  run_decoder_iff Vector.run_decoder_iff reference

theorem Equality.run_choice_iff (equality : Equality) :
    (choice all).run input = .ok (equality, rest) ↔ input = Bytes.ofChoice all equality ++ rest :=
  Decoder.run_choice_iff (by decide) (by decide) (by rintro ⟨⟩ <;> simp [all]) equality

theorem Comparison.run_choice_iff (comparison : Comparison) :
    (choice all).run input = .ok (comparison, rest) ↔
      input = Bytes.ofChoice all comparison ++ rest :=
  Decoder.run_choice_iff (by decide) (by decide) (by rintro ⟨⟩ <;> simp [all]) comparison

theorem Connective.run_choice_iff (operator : Connective) :
    (choice all).run input = .ok (operator, rest) ↔ input = Bytes.ofChoice all operator ++ rest :=
  Decoder.run_choice_iff (by decide) (by decide) (by rintro ⟨⟩ <;> simp [all]) operator

theorem Arithmetic.run_choice_iff (operator : Arithmetic) :
    (choice all).run input = .ok (operator, rest) ↔ input = Bytes.ofChoice all operator ++ rest :=
  Decoder.run_choice_iff (by decide) (by decide) (by rintro ⟨⟩ <;> simp [all]) operator

theorem Rounding.run_choice_iff (rounding : Rounding) :
    (choice all).run input = .ok (rounding, rest) ↔ input = Bytes.ofChoice all rounding ++ rest :=
  Decoder.run_choice_iff (by decide) (by decide) (by rintro ⟨⟩ <;> simp [all]) rounding

namespace ScriptedCondition

/-- The expression has a binary form. -/
def Fits (question : ScriptedCondition) : Prop :=
  Bytes.TextFits question.expression

instance : DecidablePred Fits := fun question =>
  inferInstanceAs (Decidable (Bytes.TextFits question.expression))

theorem inverts_decoder : Inverts decoder toBytes Fits := by
  intro input question rest
  simp only [decoder, run_seq_iff, run_map_iff, run_string_iff, Reference.run_numberDecoder_iff,
    Reference.run_boolDecoder_iff]
  cases question
  simp [toBytes, Fits]

end ScriptedCondition

namespace Condition

/-- If the condition has an expression, that has a binary form. -/
def Fits : Condition → Prop
  | .scripted question => question.Fits
  | bool .. | number .. | vector .. => True

instance : DecidablePred Fits
  | .scripted question => inferInstanceAs (Decidable question.Fits)
  | bool .. | number .. | vector .. => isTrue trivial

theorem inverts_decoder : Inverts decoder toBytes Fits := by
  intro input condition rest
  rw [decoder, run_alternative_iff (by decide)]
  simp only [OneReads, run_seq_iff, run_map_iff, Reference.run_numberDecoder_iff,
    Reference.run_boolDecoder_iff, Reference.run_vectorDecoder_iff, Equality.run_choice_iff,
    Comparison.run_choice_iff, ScriptedCondition.inverts_decoder _ _ _]
  cases condition <;> simp [toBytes, Fits, and_comm]

end Condition

namespace Operation

/-- If the operation has an expression, that has a binary form. -/
def Fits (operation : Operation) : Prop :=
  Bytes.OptionFits Bytes.TextFits operation.formula.expression?

instance : DecidablePred Fits := fun operation =>
  inferInstanceAs (Decidable (Bytes.OptionFits Bytes.TextFits operation.formula.expression?))

theorem inverts_decoder : Inverts decoder toBytes Fits := by
  intro input operation rest
  rw [decoder, run_alternative_iff (by decide)]
  simp only [OneReads, run_bind_iff, run_pure_iff, run_seq_iff, run_map_iff,
    VariableId.run_decoder_iff, run_string_iff, Reference.run_numberDecoder_iff,
    Reference.run_boolDecoder_iff, Reference.run_vectorDecoder_iff, Connective.run_choice_iff,
    Arithmetic.run_choice_iff, Rounding.run_choice_iff]
  obtain ⟨target, formula, raiseFlag⟩ := operation
  cases formula <;> simp [toBytes, Fits, Bytes.OptionFits, Formula.expression?, and_comm]

end Operation

namespace VariableDefinition

/-- The name has a binary form. -/
def Fits (definition : VariableDefinition) : Prop :=
  Bytes.TextFits definition.name

instance : DecidablePred Fits := fun definition =>
  inferInstanceAs (Decidable (Bytes.TextFits definition.name))

theorem inverts_decoder : Inverts decoder toBytes Fits := by
  intro input definition rest
  simp only [decoder, run_seq_iff, run_map_iff, run_string_iff, Value.run_decoder_iff]
  cases definition
  simp [toBytes, Fits]

end VariableDefinition

namespace Rule

/-- The texts and the lists of a rule have a binary form. -/
@[mk_iff]
structure Fits (rule : Rule) : Prop where
  name : Bytes.TextFits rule.name
  gate : Bytes.OptionFits (Bytes.ListFits Condition.Fits) rule.gate
  operations : Bytes.ListFits (Bytes.ListFits Operation.Fits) rule.operations

instance : DecidablePred Fits := fun rule =>
  decidable_of_iff' _ (fits_iff rule)

theorem inverts_decoder : Inverts decoder toBytes Fits := by
  intro input rule rest
  have gates := inverts_option (inverts_list Condition.inverts_decoder)
  have operations := inverts_list (inverts_list Operation.inverts_decoder)
  simp only [decoder, run_seq_iff, run_map_iff, run_string_iff, gates _ _ _, operations _ _ _]
  cases rule
  simp [toBytes, Rule.fits_iff, and_assoc, and_comm]

end Rule

theorem run_limitsDecoder_iff (limits : Script.Limits) :
    limitsDecoder.run input = .ok (limits, rest) ↔ input = limitsBytes limits ++ rest := by
  simp only [limitsDecoder, run_seq_iff, run_map_iff, run_uint64_iff, run_uint32_iff]
  cases limits
  simp [limitsBytes]

namespace RuleSet

/-- All texts and lists of a rule set have a binary form. -/
@[mk_iff]
structure Fits (ruleSet : RuleSet) : Prop where
  definitions : Bytes.ListFits VariableDefinition.Fits ruleSet.definitions
  rules : Bytes.ListFits Rule.Fits ruleSet.rules

instance : DecidablePred Fits := fun ruleSet =>
  decidable_of_iff' _ (fits_iff ruleSet)

theorem inverts_decoder : Inverts decoder toBytes Fits := by
  intro input ruleSet rest
  have definitions := inverts_list VariableDefinition.inverts_decoder
  have rules := inverts_list Rule.inverts_decoder
  simp only [decoder, run_seq_iff, run_map_iff, run_uint32_iff, run_limitsDecoder_iff,
    definitions _ _ _, rules _ _ _]
  cases ruleSet
  simp [toBytes, fits_iff, and_assoc, and_comm]

/-- Bytes begin with the forms of at most one rule set. -/
theorem unique_of_isPrefix {first second : RuleSet} (firstFits : first.Fits)
    (secondFits : second.Fits) (firstThere : first.toBytes <+: input)
    (secondThere : second.toBytes <+: input) : first = second := by
  obtain ⟨afterFirst, sameFirst⟩ := firstThere
  obtain ⟨afterSecond, sameSecond⟩ := secondThere
  have readFirst := (inverts_decoder ..).mpr ⟨firstFits, sameFirst.symm⟩
  have readSecond := (inverts_decoder ..).mpr ⟨secondFits, sameSecond.symm⟩
  exact (Prod.mk.inj (Except.ok.inj (readFirst.symm.trans readSecond))).1

theorem ofBytes_append {ruleSet : RuleSet} (fits : ruleSet.Fits) (rest : Bytes) :
    ofBytes (ruleSet.toBytes ++ rest) = ruleSet.upgrade := by
  have read := (inverts_decoder (ruleSet.toBytes ++ rest) ruleSet rest).mpr ⟨fits, rfl⟩
  rw [ofBytes, read]

theorem ofBytes_eq_ok_iff (bytes : Bytes) (upgraded : Upgrade) :
    ofBytes bytes = .ok upgraded ↔
      ∃ ruleSet : RuleSet, ruleSet.Fits ∧ ruleSet.toBytes <+: bytes ∧
        ruleSet.upgrade = .ok upgraded := by
  constructor
  · intro read
    unfold ofBytes at read
    split at read
    · cases read
    · rename_i ruleSet rest decoded
      obtain ⟨fits, rfl⟩ := (inverts_decoder ..).mp decoded
      exact ⟨ruleSet, fits, List.prefix_append .., read⟩
  · rintro ⟨ruleSet, fits, ⟨rest, rfl⟩, upgrades⟩
    rw [ofBytes_append fits, upgrades]

/-- The binary form is exact and canonical. Whatever follows the form of a rule set, a set
of version 2 is read as it was, one of version 1 with all its operations raising and nothing
else changed, and any other version is refused. Bytes that can be read begin with the form
of one set only, and that set is what was read, or what was made to raise. -/
theorem binary_form_exact :
    (∀ (ruleSet : RuleSet) (rest : Bytes), ruleSet.Fits →
      (ruleSet.version = 2 → ofBytes (ruleSet.toBytes ++ rest) = .ok ⟨ruleSet, none⟩) ∧
      (ruleSet.version = 1 → ∃ modern record, ruleSet.Modernized modern ∧
        ofBytes (ruleSet.toBytes ++ rest) = .ok ⟨modern, some record⟩) ∧
      (ruleSet.version ≠ 1 → ruleSet.version ≠ 2 →
        ofBytes (ruleSet.toBytes ++ rest) = .error (.unsupportedVersion ruleSet.version))) ∧
    ∀ (bytes : Bytes) (upgraded : Upgrade), ofBytes bytes = .ok upgraded →
      ∃ ruleSet : RuleSet, ruleSet.Fits ∧ ruleSet.toBytes <+: bytes ∧
        (ruleSet.version = 2 ∧ upgraded.ruleSet = ruleSet ∧ upgraded.record? = none ∨
          ruleSet.version = 1 ∧ ruleSet.Modernized upgraded.ruleSet ∧ upgraded.record? ≠ none) ∧
        ∀ other : RuleSet, other.Fits → other.toBytes <+: bytes → other = ruleSet := by
  refine ⟨fun ruleSet rest fits => ?_, fun bytes upgraded read => ?_⟩
  · rw [ofBytes_append fits]
    refine ⟨upgrade_of_newest, fun first => ?_, fun notFirst notNewest => ?_⟩
    · obtain ⟨record, upgrades⟩ := upgrade_of_first first
      exact ⟨_, record, ruleSet.modernized_alwaysRaising, upgrades⟩
    · rcases ruleSet.upgrade_cases with ⟨newest, -⟩ | ⟨first, -⟩ | ⟨-, refused⟩
      · exact absurd newest notNewest
      · exact absurd first notFirst
      · exact refused
  · obtain ⟨ruleSet, fits, there, upgrades⟩ := (ofBytes_eq_ok_iff ..).mp read
    refine ⟨ruleSet, fits, there, ?_, fun other otherFits otherThere =>
      unique_of_isPrefix otherFits fits otherThere there⟩
    rcases ruleSet.upgrade_cases with ⟨newest, given⟩ | ⟨first, record, given⟩ | ⟨-, refused⟩
    · cases given.symm.trans upgrades
      exact .inl ⟨newest, rfl, rfl⟩
    · cases given.symm.trans upgrades
      exact .inr ⟨first, ruleSet.modernized_alwaysRaising, nofun⟩
    · cases refused.symm.trans upgrades

/-- A set of the first version with texts outside ASCII, an empty gate and floats
that are no numbers. -/
def lantern : RuleSet :=
  let oil : VariableId := ⟨0⟩
  let burn : Operation :=
    ⟨oil, .scripted "nA - nB" (.literal (.float (.infinity true))) .unbound .floor, .unbound⟩
  ⟨1, .default, [⟨"Öl", .number (.double .nan)⟩], [⟨"brennen ≤ ∞", some [], [[burn], []]⟩]⟩

theorem binary_form_exact_lantern :
    lantern.Fits ∧ lantern.version = 1 ∧
      ∃ modern record, lantern.Modernized modern ∧
        ofBytes (lantern.toBytes ++ [7]) = .ok ⟨modern, some record⟩ ∧
        ∀ other : RuleSet, other.Fits → other.toBytes <+: lantern.toBytes ++ [7] →
          other = lantern := by
  have fits : lantern.Fits := by decide +kernel
  obtain ⟨modern, record, modernized, read⟩ := (binary_form_exact.1 lantern [7] fits).2.1 rfl
  obtain ⟨found, _, _, _, only⟩ := binary_form_exact.2 _ _ read
  have same := only lantern fits (List.prefix_append ..)
  exact ⟨fits, rfl, modern, record, modernized, read, same ▸ only⟩

end RuleSet

end

end Rulebook
