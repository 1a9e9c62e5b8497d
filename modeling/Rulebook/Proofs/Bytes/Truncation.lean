import Mathlib.Data.List.Basic
import Rulebook.Proofs.Bytes.Canonical

/-! Bytes that end too early are always noticed. A decoder takes the bytes it needs
before it looks at them, so what it makes of its input stays as it is when more bytes
follow, unless it asked for some that were missing. The form of a rule set is read up
to its last byte; a shorter part of it can therefore do nothing but miss some. -/
namespace Rulebook

namespace Decoder

variable {α β : Type}

/-- A decoder takes bytes before it judges them: whatever it makes of its input is
the same with more bytes behind, except that it may have been short of bytes. -/
structure TakesFirst (decoder : Decoder α) : Prop where
  ok : ∀ {input rest : Bytes} {value : α}, decoder.run input = .ok (value, rest) →
    ∀ more, decoder.run (input ++ more) = .ok (value, rest ++ more)
  error : ∀ {input : Bytes} {error : BinaryError}, decoder.run input = .error error →
    error ≠ .endOfInput → ∀ more, decoder.run (input ++ more) = .error error

/-- Input that stops before the end of what is read behind it is too short. -/
theorem TakesFirst.run_of_cut {decoder : Decoder α} (takes : decoder.TakesFirst)
    {part more rest : Bytes} {value : α} (read : decoder.run (part ++ more) = .ok (value, rest))
    (cut : rest.length < more.length) : decoder.run part = .error .endOfInput := by
  cases ran : decoder.run part with
  | ok result =>
    obtain ⟨found, left⟩ := result
    have longer := takes.ok ran more
    rw [read] at longer
    cases longer
    rw [List.length_append] at cut
    omega
  | error error =>
    by_cases short : error = .endOfInput
    · rw [short]
    · have refused := takes.error ran short more
      rw [read] at refused
      cases refused

theorem takesFirst_pure (value : α) : (pure value : Decoder α).TakesFirst where
  ok := by
    intro input rest found ran more
    obtain ⟨rfl, rfl⟩ := (run_pure_iff ..).mp ran
    rfl
  error := nofun

/-- Refusing needs no bytes. -/
theorem takesFirst_throw (error : BinaryError) : (throw error : Decoder α).TakesFirst where
  ok := nofun
  error := by
    intro input _ ran _ more
    rw [← ran]
    rfl

theorem takesFirst_take (count : Nat) : (take count).TakesFirst where
  ok := by
    intro input rest bytes ran more
    obtain ⟨rfl, rfl⟩ := (run_take_iff ..).mp ran
    rw [List.append_assoc]
    exact take_append bytes (rest ++ more)
  error := by
    intro input error ran other
    simp only [take, StateT.run] at ran
    split at ran
    · cases ran
    · cases ran
      exact absurd rfl other

/-- What is missing in the first part ends the whole, and so does what is wrong in it. -/
theorem TakesFirst.bind {first : Decoder α} {next : α → Decoder β} (takes : first.TakesFirst)
    (follows : ∀ value, (next value).TakesFirst) : (first >>= next).TakesFirst where
  ok := by
    intro input rest value ran more
    obtain ⟨found, between, ranFirst, ranNext⟩ := (run_bind_iff ..).mp ran
    exact (run_bind_iff ..).mpr
      ⟨found, between ++ more, takes.ok ranFirst more, (follows found).ok ranNext more⟩
  error := by
    intro input error ran other more
    rw [StateT.run_bind] at ran ⊢
    cases ranFirst : first.run input with
    | error early =>
      rw [ranFirst] at ran
      cases ran
      rw [takes.error ranFirst other more]
      rfl
    | ok result =>
      obtain ⟨found, between⟩ := result
      rw [ranFirst] at ran
      rw [takes.ok ranFirst more]
      exact (follows found).error ran other more

theorem TakesFirst.map {decoder : Decoder α} (takes : decoder.TakesFirst) (make : α → β) :
    (make <$> decoder).TakesFirst := by
  rw [map_eq_pure_bind]
  exact takes.bind fun value => takesFirst_pure (make value)

theorem TakesFirst.seq {makers : Decoder (α → β)} {decoder : Decoder α}
    (first : makers.TakesFirst) (second : decoder.TakesFirst) :
    (makers <*> decoder).TakesFirst := by
  rw [seq_eq_bind_map]
  exact first.bind fun make => second.map make

theorem takesFirst_nat (width : Nat) : (nat width).TakesFirst :=
  (takesFirst_take width).bind fun _ => takesFirst_pure _

theorem takesFirst_uint32 : uint32.TakesFirst :=
  (takesFirst_nat 4).bind fun _ => takesFirst_pure _

theorem takesFirst_uint64 : uint64.TakesFirst :=
  (takesFirst_nat 8).bind fun _ => takesFirst_pure _

theorem takesFirst_int32 : int32.TakesFirst :=
  takesFirst_uint32.bind fun _ => takesFirst_pure _

theorem takesFirst_single : single.TakesFirst :=
  (takesFirst_nat 4).bind fun _ => takesFirst_pure _

theorem takesFirst_double : double.TakesFirst :=
  (takesFirst_nat 8).bind fun _ => takesFirst_pure _

theorem takesFirst_bool : bool.TakesFirst := by
  refine (takesFirst_nat 1).bind fun number => ?_
  split
  · exact takesFirst_pure false
  · exact takesFirst_pure true
  · exact takesFirst_throw _

/-- A text is checked once all its bytes are there. -/
theorem takesFirst_string : string.TakesFirst := by
  refine (takesFirst_nat 8).bind fun length => (takesFirst_take length).bind fun bytes => ?_
  split
  · exact takesFirst_pure _
  · exact takesFirst_throw _

theorem takesFirst_alternative {alternatives : List (Decoder α)}
    (each : alternatives.Forall TakesFirst) : (alternative alternatives).TakesFirst := by
  refine (takesFirst_nat 4).bind fun number => ?_
  split
  · rename_i decoder found
    exact List.forall_iff_forall_mem.mp each decoder (List.mem_of_getElem? found)
  · exact takesFirst_throw _

theorem takesFirst_choice (choices : List α) : (choice choices).TakesFirst := by
  refine takesFirst_alternative (List.forall_iff_forall_mem.mpr fun decoder among => ?_)
  obtain ⟨value, -, rfl⟩ := List.mem_map.mp among
  exact takesFirst_pure value

theorem takesFirst_repeated {item : Decoder α} (takes : item.TakesFirst) (count : Nat) :
    (repeated item count).TakesFirst := by
  induction count with
  | zero => exact takesFirst_pure []
  | succ count ih => exact takes.bind fun first => ih.bind fun _ => takesFirst_pure _

theorem takesFirst_list {item : Decoder α} (takes : item.TakesFirst) : (list item).TakesFirst :=
  (takesFirst_nat 8).bind fun count => takesFirst_repeated takes count

theorem takesFirst_option {content : Decoder α} (takes : content.TakesFirst) :
    (option content).TakesFirst := by
  refine (takesFirst_nat 1).bind fun mark => ?_
  split
  · exact takesFirst_pure none
  · exact takes.bind fun _ => takesFirst_pure _
  · exact takesFirst_throw _

end Decoder

open Decoder

theorem Number.takesFirst_decoder : Number.decoder.TakesFirst :=
  takesFirst_alternative
    ⟨takesFirst_int32.map int, takesFirst_single.map float, takesFirst_double.map double⟩

theorem Vector.takesFirst_decoder : Vector.decoder.TakesFirst := by
  have integer := takesFirst_int32
  have number := takesFirst_single
  exact takesFirst_alternative ⟨
    (integer.map _).seq integer, ((integer.map _).seq integer).seq integer,
    (((integer.map _).seq integer).seq integer).seq integer, (number.map _).seq number,
    ((number.map _).seq number).seq number, (((number.map _).seq number).seq number).seq number⟩

theorem Value.takesFirst_decoder : Value.decoder.TakesFirst :=
  takesFirst_alternative ⟨takesFirst_bool.map bool, Number.takesFirst_decoder.map number,
    Vector.takesFirst_decoder.map vector⟩

theorem VariableId.takesFirst_decoder : VariableId.decoder.TakesFirst :=
  takesFirst_uint32.map mk

namespace Reference

theorem takesFirst_decoder {α : Type} {content : Decoder α} (takes : content.TakesFirst) :
    (decoder content).TakesFirst :=
  takesFirst_alternative
    ⟨takesFirst_pure unbound, takes.map literal, VariableId.takesFirst_decoder.map bound⟩

theorem takesFirst_boolDecoder : boolDecoder.TakesFirst :=
  takesFirst_decoder takesFirst_bool

theorem takesFirst_numberDecoder : numberDecoder.TakesFirst :=
  takesFirst_decoder Number.takesFirst_decoder

theorem takesFirst_vectorDecoder : vectorDecoder.TakesFirst :=
  takesFirst_decoder Vector.takesFirst_decoder

end Reference

open Reference

theorem ScriptedCondition.takesFirst_decoder : ScriptedCondition.decoder.TakesFirst :=
  ((((takesFirst_string.map mk).seq takesFirst_numberDecoder).seq takesFirst_numberDecoder).seq
    takesFirst_boolDecoder).seq takesFirst_boolDecoder

theorem Condition.takesFirst_decoder : Condition.decoder.TakesFirst :=
  takesFirst_alternative ⟨
    ((takesFirst_boolDecoder.map _).seq (takesFirst_choice _)).seq takesFirst_boolDecoder,
    ((takesFirst_numberDecoder.map _).seq (takesFirst_choice _)).seq takesFirst_numberDecoder,
    ((takesFirst_vectorDecoder.map _).seq (takesFirst_choice _)).seq takesFirst_vectorDecoder,
    ScriptedCondition.takesFirst_decoder.map _⟩

/-- An operation of any family is read with its target first and its raise flag last. -/
theorem Operation.takesFirst_framed {formula : Decoder Formula} (takes : formula.TakesFirst) :
    (do
      let target ← VariableId.decoder
      let formula ← formula
      return (⟨target, formula, ← boolDecoder⟩ : Operation)).TakesFirst :=
  VariableId.takesFirst_decoder.bind fun _ => takes.bind fun _ =>
    takesFirst_boolDecoder.bind fun _ => takesFirst_pure _

theorem Operation.takesFirst_decoder : Operation.decoder.TakesFirst := by
  have number := takesFirst_numberDecoder
  have vector := takesFirst_vectorDecoder
  refine takesFirst_alternative
    ⟨takesFirst_framed ?_, takesFirst_framed ?_, takesFirst_framed ?_, takesFirst_framed ?_⟩
  · exact (((takesFirst_choice _).map _).seq takesFirst_boolDecoder).seq takesFirst_boolDecoder
  · exact ((((takesFirst_choice _).map _).seq number).seq number).seq (takesFirst_choice _)
  · exact (((takesFirst_string.map _).seq number).seq number).seq (takesFirst_choice _)
  · exact ((((takesFirst_choice _).map _).seq vector).seq vector).seq (takesFirst_choice _)

theorem VariableDefinition.takesFirst_decoder : VariableDefinition.decoder.TakesFirst :=
  (takesFirst_string.map mk).seq Value.takesFirst_decoder

theorem Rule.takesFirst_decoder : Rule.decoder.TakesFirst :=
  ((takesFirst_string.map mk).seq (takesFirst_option (takesFirst_list
    Condition.takesFirst_decoder))).seq (takesFirst_list (takesFirst_list
      Operation.takesFirst_decoder))

theorem takesFirst_limitsDecoder : limitsDecoder.TakesFirst :=
  ((takesFirst_uint64.map _).seq takesFirst_uint32).seq takesFirst_uint32

namespace RuleSet

theorem takesFirst_decoder : decoder.TakesFirst :=
  (((takesFirst_uint32.map mk).seq takesFirst_limitsDecoder).seq
    (takesFirst_list VariableDefinition.takesFirst_decoder)).seq
      (takesFirst_list Rule.takesFirst_decoder)

/-- A part of the form of a rule set that stops before its end is always found to be
too short, and by the decoder: nothing in it is judged that is not there as a whole,
and it does not come to the version, whichever that is. -/
theorem truncated_is_too_short {ruleSet : RuleSet} (fits : ruleSet.Fits) {part : Bytes}
    (cut : part <+: ruleSet.toBytes) (shorter : part ≠ ruleSet.toBytes) :
    decoder.run part = .error .endOfInput ∧ ofBytes part = .error (.binary .endOfInput) := by
  obtain ⟨more, whole⟩ := cut
  have read := (inverts_decoder (part ++ more) ruleSet []).mpr
    ⟨fits, by rw [whole, List.append_nil]⟩
  have missing : 0 < more.length := by
    rw [List.length_pos_iff]
    rintro rfl
    exact shorter (by rw [← whole, List.append_nil])
  have ran := takesFirst_decoder.run_of_cut read missing
  exact ⟨ran, by rw [ofBytes, ran]⟩

/-- A set of no known version, cut in the middle of the first letter of its first name. -/
theorem truncated_is_too_short_lantern :
    let unknown : RuleSet := { lantern with version := 3 }
    let part := unknown.toBytes.take 37
    (unknown.Fits ∧ part <+: unknown.toBytes ∧ part ≠ unknown.toBytes) ∧
      part.getLast? = some 0xC3 ∧ ofBytes part = .error (.binary .endOfInput) := by
  intro unknown part
  have fits : unknown.Fits := by decide +kernel
  have cut : part <+: unknown.toBytes := List.take_prefix ..
  have shorter : part ≠ unknown.toBytes := by decide +kernel
  obtain ⟨-, short⟩ := truncated_is_too_short fits cut shorter
  exact ⟨⟨fits, cut, shorter⟩, by decide +kernel, short⟩

end RuleSet

end Rulebook
