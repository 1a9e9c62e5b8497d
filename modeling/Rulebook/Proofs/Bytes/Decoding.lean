import Rulebook.Bytes.Operation

/-! Decoders and encoders undo each other. A decoder takes from the front of its
input exactly the form of the value it gives, so that a form has one reading and
a value one form. Each lemma says so of one decoder, in terms of those it is made
of. Lengths take eight bytes, which bounds the texts and lists that have a form. -/
namespace Rulebook

namespace Bytes

/-- The length of a text can be written. -/
def TextFits (text : String) : Prop :=
  text.utf8ByteSize < Nat.pow 256 8

instance (text : String) : Decidable (TextFits text) :=
  inferInstanceAs (Decidable (_ < _))

/-- The length of a list can be written, and so can its items. -/
def ListFits {α : Type} (fits : α → Prop) (items : List α) : Prop :=
  items.length < Nat.pow 256 8 ∧ ∀ item ∈ items, fits item

instance {α : Type} (fits : α → Prop) [DecidablePred fits] (items : List α) :
    Decidable (ListFits fits items) :=
  inferInstanceAs (Decidable (_ ∧ _))

/-- What is missing needs no room. -/
def OptionFits {α : Type} (fits : α → Prop) (value : Option α) : Prop :=
  ∀ content ∈ value, fits content

instance {α : Type} (fits : α → Prop) [DecidablePred fits] (value : Option α) :
    Decidable (OptionFits fits value) :=
  inferInstanceAs (Decidable (∀ content ∈ value, fits content))

end Bytes

namespace Decoder
open Numeric

variable {α β : Type} {input rest : Bytes}

/-- A decoder reads the forms of the values that fit, each up to its end, and
nothing else. -/
def Inverts (decoder : Decoder α) (encode : α → Bytes) (fits : α → Prop) : Prop :=
  ∀ input value rest,
    decoder.run input = .ok (value, rest) ↔ fits value ∧ input = encode value ++ rest

theorem run_pure_iff (given value : α) :
    (pure given : Decoder α).run input = .ok (value, rest) ↔ given = value ∧ input = rest := by
  change (.ok (given, input) : Except BinaryError (α × Bytes)) = .ok (value, rest) ↔ _
  rw [Except.ok.injEq, Prod.mk.injEq]

theorem run_throw_iff (error : BinaryError) (value : α) :
    (throw error : Decoder α).run input = .ok (value, rest) ↔ False := by
  simp [throw, throwThe, MonadExceptOf.throw, StateT.run, StateT.lift, bind, Except.bind]

theorem run_bind_iff (first : Decoder α) (next : α → Decoder β) (value : β) :
    (first >>= next).run input = .ok (value, rest) ↔
      ∃ found between, first.run input = .ok (found, between) ∧
        (next found).run between = .ok (value, rest) := by
  simp only [bind, StateT.run, StateT.bind, Except.bind]
  cases first input with
  | error error => simp
  | ok result =>
    obtain ⟨found, between⟩ := result
    simp only [Except.ok.injEq, Prod.mk.injEq]
    constructor
    · intro ran
      exact ⟨found, between, ⟨rfl, rfl⟩, ran⟩
    · rintro ⟨_, _, ⟨rfl, rfl⟩, ran⟩
      exact ran

theorem run_map_iff (make : α → β) (decoder : Decoder α) (value : β) :
    (make <$> decoder).run input = .ok (value, rest) ↔
      ∃ found, decoder.run input = .ok (found, rest) ∧ make found = value := by
  simp only [map_eq_pure_bind, run_bind_iff, run_pure_iff]
  constructor
  · rintro ⟨found, _, ran, made, rfl⟩
    exact ⟨found, ran, made⟩
  · rintro ⟨found, ran, made⟩
    exact ⟨found, rest, ran, made, rfl⟩

theorem run_seq_iff (makers : Decoder (α → β)) (decoder : Decoder α) (value : β) :
    (makers <*> decoder).run input = .ok (value, rest) ↔
      ∃ make between, makers.run input = .ok (make, between) ∧
        ∃ found, decoder.run between = .ok (found, rest) ∧ make found = value := by
  simp only [seq_eq_bind_map, run_bind_iff, run_map_iff]

theorem run_take_iff (count : Nat) (bytes : Bytes) :
    (take count).run input = .ok (bytes, rest) ↔ bytes.length = count ∧ input = bytes ++ rest := by
  simp only [take, StateT.run]
  constructor
  · intro taken
    split at taken
    · rename_i enough
      cases taken
      exact ⟨List.length_take_of_le enough, (List.take_append_drop count input).symm⟩
    · cases taken
  · rintro ⟨rfl, rfl⟩
    simp

theorem run_nat_iff (width value : Nat) :
    (nat width).run input = .ok (value, rest) ↔
      value < Nat.pow 256 width ∧ input = Bytes.ofNat width value ++ rest := by
  simp only [nat, run_bind_iff, run_take_iff, run_pure_iff]
  constructor
  · rintro ⟨bytes, between, ⟨rfl, rfl⟩, rfl, rfl⟩
    exact ⟨Bytes.toNat_lt bytes, by rw [Bytes.ofNat_toNat]⟩
  · rintro ⟨small, rfl⟩
    refine ⟨Bytes.ofNat width value, rest, ⟨Bytes.length_ofNat .., rfl⟩, ?_, rfl⟩
    rw [Bytes.toNat_ofNat, Nat.mod_eq_of_lt small]

/-- A number of a type that fills a width is read back. -/
theorem run_word_iff {width capacity : Nat} {ofNat : Nat → α} {toNat : α → Nat}
    (filled : Nat.pow 256 width = capacity) (bounded : ∀ value, toNat value < capacity)
    (ofNat_toNat : ∀ value, ofNat (toNat value) = value)
    (toNat_ofNat : ∀ number < capacity, toNat (ofNat number) = number) (value : α) :
    (nat width >>= fun number => pure (ofNat number)).run input = .ok (value, rest) ↔
      input = Bytes.ofNat width (toNat value) ++ rest := by
  simp only [run_bind_iff, run_nat_iff, run_pure_iff, filled]
  constructor
  · rintro ⟨number, between, ⟨small, rfl⟩, rfl, rfl⟩
    rw [toNat_ofNat number small]
  · rintro rfl
    exact ⟨toNat value, rest, ⟨bounded value, rfl⟩, ofNat_toNat value, rfl⟩

theorem run_uint32_iff (value : UInt32) :
    uint32.run input = .ok (value, rest) ↔ input = Bytes.ofUInt32 value ++ rest :=
  run_word_iff (rfl : Nat.pow 256 4 = UInt32.size) UInt32.toNat_lt (fun _ => UInt32.ofNat_toNat)
    (fun _ small => UInt32.toNat_ofNat_of_lt' small) value

theorem run_uint64_iff (value : UInt64) :
    uint64.run input = .ok (value, rest) ↔ input = Bytes.ofUInt64 value ++ rest :=
  run_word_iff (rfl : Nat.pow 256 8 = UInt64.size) UInt64.toNat_lt (fun _ => UInt64.ofNat_toNat)
    (fun _ small => UInt64.toNat_ofNat_of_lt' small) value

theorem run_single_iff (value : Single) :
    single.run input = .ok (value, rest) ↔ input = Bytes.ofSingle value ++ rest :=
  have filled : Nat.pow 256 4 = 2 * Format.single.ranks := rfl
  run_word_iff filled Binary.toBits_lt Binary.ofBits_toBits Binary.toBits_ofBits value

theorem run_double_iff (value : Double) :
    double.run input = .ok (value, rest) ↔ input = Bytes.ofDouble value ++ rest :=
  have filled : Nat.pow 256 8 = 2 * Format.double.ranks := rfl
  run_word_iff filled Binary.toBits_lt Binary.ofBits_toBits Binary.toBits_ofBits value

theorem run_int32_iff (value : Int32) :
    int32.run input = .ok (value, rest) ↔ input = Bytes.ofInt32 value ++ rest := by
  simp only [int32, run_bind_iff, run_uint32_iff, run_pure_iff, Bytes.ofInt32]
  constructor
  · rintro ⟨word, between, rfl, rfl, rfl⟩
    rfl
  · rintro rfl
    exact ⟨value.toUInt32, rest, rfl, rfl, rfl⟩

theorem run_bool_iff (value : Bool) :
    bool.run input = .ok (value, rest) ↔ input = Bytes.ofBool value ++ rest := by
  simp only [bool, run_bind_iff, run_nat_iff]
  constructor
  · rintro ⟨number, between, ⟨small, rfl⟩, ran⟩
    split at ran
    · obtain ⟨rfl, rfl⟩ := (run_pure_iff ..).mp ran
      rfl
    · obtain ⟨rfl, rfl⟩ := (run_pure_iff ..).mp ran
      rfl
    · exact ((run_throw_iff ..).mp ran).elim
  · rintro rfl
    cases value with
    | false => exact ⟨0, rest, ⟨by decide, rfl⟩, rfl⟩
    | true => exact ⟨1, rest, ⟨by decide, rfl⟩, rfl⟩

private theorem toList_loop (bytes : ByteArray) (index : Nat) (done : List UInt8) :
    ByteArray.toList.loop bytes index done = done.reverse ++ bytes.data.toList.drop index := by
  fun_induction ByteArray.toList.loop bytes index done with
  | case1 index done inside ih =>
    have bound : index < bytes.data.toList.length := inside
    have here : bytes.get! index = bytes.data.toList[index] := by
      cases bytes with
      | mk data => exact getElem!_pos data index inside
    rw [ih, List.drop_eq_getElem_cons bound, here]
    simp
  | case2 index done outside =>
    rw [List.drop_eq_nil_of_le (Nat.le_of_not_lt outside), List.append_nil]

theorem toUTF8_toList (text : String) : text.toUTF8.toList = text.toByteArray.data.toList := by
  simp [ByteArray.toList, toList_loop]

theorem fromUTF8?_eq_some_iff (bytes : Bytes) (text : String) :
    String.fromUTF8? ⟨bytes.toArray⟩ = some text ↔ text.toUTF8.toList = bytes := by
  rw [toUTF8_toList]
  constructor
  · intro read
    unfold String.fromUTF8? at read
    split at read
    · cases read
      rfl
    · cases read
  · rintro rfl
    have valid := text.isValidUTF8
    simp [String.fromUTF8?, String.fromUTF8, valid]

theorem run_string_iff (text : String) :
    string.run input = .ok (text, rest) ↔
      Bytes.TextFits text ∧ input = Bytes.ofString text ++ rest := by
  have size : text.toUTF8.toList.length = text.utf8ByteSize := by
    rw [toUTF8_toList]
    rfl
  simp only [string, run_bind_iff, run_nat_iff, run_take_iff]
  constructor
  · rintro ⟨number, between, ⟨small, rfl⟩, bytes, after, ⟨rfl, rfl⟩, ran⟩
    split at ran
    · rename_i found read
      obtain ⟨rfl, rfl⟩ := (run_pure_iff ..).mp ran
      obtain rfl := (fromUTF8?_eq_some_iff ..).mp read
      rw [size] at small
      exact ⟨small, by rw [Bytes.ofString, size, List.append_assoc]⟩
    · exact ((run_throw_iff ..).mp ran).elim
  · rintro ⟨fits, rfl⟩
    refine ⟨text.utf8ByteSize, _, ⟨fits, List.append_assoc ..⟩, text.toUTF8.toList, rest,
      ⟨size, rfl⟩, ?_⟩
    rw [(fromUTF8?_eq_some_iff ..).mpr rfl]
    exact (run_pure_iff ..).mpr ⟨rfl, rfl⟩

/-- One of some decoders, numbered upwards from a given number, reads a value
after its own number. -/
def OneReads (input : Bytes) (value : α) (rest : Bytes) : Nat → List (Decoder α) → Prop
  | _, [] => False
  | number, decoder :: others =>
    (∃ content, input = Bytes.ofAlternative number ++ content ∧
      decoder.run content = .ok (value, rest)) ∨
    OneReads input value rest (number + 1) others

theorem oneReads_iff (number : Nat) (decoders : List (Decoder α)) (value : α) :
    OneReads input value rest number decoders ↔
      ∃ index decoder content, decoders[index]? = some decoder ∧
        input = Bytes.ofAlternative (number + index) ++ content ∧
        decoder.run content = .ok (value, rest) := by
  induction decoders generalizing number with
  | nil => simp [OneReads]
  | cons first others ih =>
    rw [OneReads, ih]
    constructor
    · rintro (⟨content, same, ran⟩ | ⟨index, decoder, content, found, same, ran⟩)
      · exact ⟨0, first, content, rfl, same, ran⟩
      · refine ⟨index + 1, decoder, content, found, ?_, ran⟩
        rw [same, Nat.add_assoc, Nat.add_comm 1]
    · rintro ⟨index, decoder, content, found, same, ran⟩
      cases index with
      | zero =>
        cases found
        exact .inl ⟨content, same, ran⟩
      | succ index =>
        refine .inr ⟨index, decoder, content, found, ?_, ran⟩
        rw [same, Nat.add_assoc, Nat.add_comm 1]

theorem run_alternative_iff {decoders : List (Decoder α)}
    (few : decoders.length ≤ Nat.pow 256 4) (value : α) :
    (alternative decoders).run input = .ok (value, rest) ↔
      OneReads input value rest 0 decoders := by
  simp only [oneReads_iff, alternative, run_bind_iff, run_nat_iff, Nat.zero_add]
  constructor
  · rintro ⟨index, content, ⟨small, rfl⟩, ran⟩
    cases found : decoders[index]? with
    | none =>
      rw [found] at ran
      exact ((run_throw_iff ..).mp ran).elim
    | some decoder =>
      rw [found] at ran
      exact ⟨index, decoder, content, found, rfl, ran⟩
  · rintro ⟨index, decoder, content, found, rfl, ran⟩
    have inside : index < decoders.length := (List.getElem?_eq_some_iff.mp found).1
    refine ⟨index, content, ⟨Nat.lt_of_lt_of_le inside few, rfl⟩, ?_⟩
    rw [found]
    exact ran

/-- Distinct choices stand where they are found. -/
theorem getElem?_eq_some_iff_findIdx [DecidableEq α] {choices : List α} (distinct : choices.Nodup)
    (all : ∀ value, value ∈ choices) (index : Nat) (value : α) :
    choices[index]? = some value ↔
      choices.findIdx (fun candidate => decide (candidate = value)) = index := by
  have inside : choices.findIdx (fun candidate => decide (candidate = value)) < choices.length :=
    List.findIdx_lt_length_of_exists ⟨value, all value, decide_eq_true rfl⟩
  have there := List.findIdx_getElem (w := inside)
  have found := of_decide_eq_true there
  have placed := List.getElem?_eq_some_iff.mpr ⟨inside, found⟩
  constructor
  · intro here
    exact (List.getElem?_inj inside distinct).mp (placed.trans here.symm)
  · rintro rfl
    exact placed

theorem run_choice_iff [DecidableEq α] {choices : List α}
    (few : choices.length ≤ Nat.pow 256 4) (distinct : choices.Nodup)
    (all : ∀ value, value ∈ choices) (value : α) :
    (choice choices).run input = .ok (value, rest) ↔
      input = Bytes.ofChoice choices value ++ rest := by
  have few : (choices.map (pure : α → Decoder α)).length ≤ Nat.pow 256 4 := by simpa using few
  simp only [choice, run_alternative_iff few, oneReads_iff, List.getElem?_map,
    Option.map_eq_some_iff, Nat.zero_add, Bytes.ofChoice]
  constructor
  · rintro ⟨index, decoder, content, ⟨found, placed, rfl⟩, rfl, ran⟩
    obtain ⟨rfl, rfl⟩ := (run_pure_iff ..).mp ran
    rw [(getElem?_eq_some_iff_findIdx distinct all ..).mp placed]
  · rintro rfl
    exact ⟨_, _, rest, ⟨value, (getElem?_eq_some_iff_findIdx distinct all ..).mpr rfl, rfl⟩, rfl,
      (run_pure_iff ..).mpr ⟨rfl, rfl⟩⟩

theorem run_repeated_iff {item : Decoder α} {encode : α → Bytes} {fits : α → Prop}
    (inverts : Inverts item encode fits) (count : Nat) (items : List α) :
    (repeated item count).run input = .ok (items, rest) ↔
      items.length = count ∧ (∀ item ∈ items, fits item) ∧
        input = items.flatMap encode ++ rest := by
  induction count generalizing items input rest with
  | zero =>
    rw [repeated, run_pure_iff]
    constructor
    · rintro ⟨rfl, rfl⟩
      simp
    · rintro ⟨empty, -, rfl⟩
      obtain rfl := List.length_eq_zero_iff.mp empty
      exact ⟨rfl, rfl⟩
  | succ count ih =>
    simp only [repeated, run_bind_iff, inverts _ _ _, ih, run_pure_iff]
    constructor
    · rintro ⟨first, between, ⟨firstFits, rfl⟩, others, after, ⟨rfl, othersFit, rfl⟩, rfl, rfl⟩
      exact ⟨rfl, by simpa using ⟨firstFits, othersFit⟩, by simp⟩
    · rintro ⟨length, fits, rfl⟩
      cases items with
      | nil => cases length
      | cons first others =>
        obtain ⟨firstFits, othersFit⟩ := List.forall_mem_cons.mp fits
        exact ⟨first, _, ⟨firstFits, by rw [List.flatMap_cons, List.append_assoc]⟩, others, rest,
          ⟨Nat.succ.inj length, othersFit, rfl⟩, rfl, rfl⟩

theorem inverts_list {item : Decoder α} {encode : α → Bytes} {fits : α → Prop}
    (inverts : Inverts item encode fits) :
    Inverts (list item) (Bytes.ofList encode) (Bytes.ListFits fits) := by
  intro input items rest
  simp only [list, run_bind_iff, run_nat_iff, run_repeated_iff inverts, Bytes.ofList,
    Bytes.ListFits]
  constructor
  · rintro ⟨count, between, ⟨small, rfl⟩, rfl, fits, rfl⟩
    exact ⟨⟨small, fits⟩, (List.append_assoc ..).symm⟩
  · rintro ⟨⟨small, fits⟩, rfl⟩
    exact ⟨items.length, _, ⟨small, List.append_assoc ..⟩, rfl, fits, rfl⟩

theorem inverts_option {content : Decoder α} {encode : α → Bytes} {fits : α → Prop}
    (inverts : Inverts content encode fits) :
    Inverts (option content) (Bytes.ofOption encode) (Bytes.OptionFits fits) := by
  intro input value rest
  simp only [option, run_bind_iff, run_nat_iff]
  constructor
  · rintro ⟨mark, between, ⟨small, rfl⟩, ran⟩
    split at ran
    · obtain ⟨rfl, rfl⟩ := (run_pure_iff ..).mp ran
      exact ⟨by simp [Bytes.OptionFits], rfl⟩
    · obtain ⟨found, after, read, same⟩ := (run_bind_iff ..).mp ran
      obtain ⟨rfl, rfl⟩ := (run_pure_iff ..).mp same
      obtain ⟨fitting, rfl⟩ := (inverts ..).mp read
      exact ⟨by simpa [Bytes.OptionFits] using fitting, rfl⟩
    · exact ((run_throw_iff ..).mp ran).elim
  · rintro ⟨fitting, rfl⟩
    cases value with
    | none => exact ⟨0, rest, ⟨by decide, rfl⟩, (run_pure_iff ..).mpr ⟨rfl, rfl⟩⟩
    | some found =>
      refine ⟨1, encode found ++ rest, ⟨by decide, rfl⟩, (run_bind_iff ..).mpr ?_⟩
      have read := (inverts (encode found ++ rest) found rest).mpr ⟨fitting found rfl, rfl⟩
      exact ⟨found, rest, read, (run_pure_iff ..).mpr ⟨rfl, rfl⟩⟩

end Decoder

end Rulebook
