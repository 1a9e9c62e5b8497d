import Rulebook.Numeric.Binary

/-! A binary form of data. Numbers have fixed widths and their lowest byte first,
lengths take eight bytes and the number of an alternative four. A decoder takes
what it needs from the front and leaves the rest. -/
namespace Rulebook
open Numeric

/-- Why bytes are not the form of any data. -/
inductive BinaryError where
  /-- The bytes end too early. -/
  | endOfInput
  /-- A text is not UTF-8. -/
  | invalidText
  /-- A truth value is neither zero nor one. -/
  | invalidBool
  /-- A mark of presence is neither zero nor one. -/
  | invalidPresence
  /-- No alternative has the given number. -/
  | unknownAlternative
deriving DecidableEq

abbrev Bytes := List UInt8

abbrev Decoder := StateT Bytes (Except BinaryError)

namespace Bytes

/-- A number in a given count of bytes, the lowest first. -/
def ofNat : Nat → Nat → Bytes
  | 0, _ => []
  | width + 1, value => UInt8.ofNat value :: ofNat width (value / 256)

/-- The number that bytes form, the lowest first. -/
def toNat : Bytes → Nat
  | [] => 0
  | byte :: rest => byte.toNat + 256 * toNat rest

theorem length_ofNat (width value : Nat) : (ofNat width value).length = width := by
  induction width generalizing value with
  | zero => rfl
  | succ width ih => simp [ofNat, ih]

theorem toNat_ofNat (width value : Nat) :
    toNat (ofNat width value) = value % Nat.pow 256 width := by
  induction width generalizing value with
  | zero => simp [ofNat, toNat, Nat.mod_one]
  | succ width ih =>
    have split := Nat.mod_mul (x := value) (a := 256) (b := Nat.pow 256 width)
    have power : Nat.pow 256 (width + 1) = 256 * Nat.pow 256 width := Nat.mul_comm _ _
    rw [power, split]
    simp [ofNat, toNat, ih]

theorem toNat_lt (bytes : Bytes) : toNat bytes < Nat.pow 256 bytes.length := by
  induction bytes with
  | nil => simp [toNat]
  | cons byte rest ih =>
    have power : Nat.pow 256 (rest.length + 1) = Nat.pow 256 rest.length * 256 := rfl
    have bound := byte.toNat_lt
    rw [List.length_cons, power, toNat]
    omega

theorem ofNat_toNat (bytes : Bytes) : ofNat bytes.length (toNat bytes) = bytes := by
  induction bytes with
  | nil => rfl
  | cons byte rest ih =>
    have bound := byte.toNat_lt
    have low : UInt8.ofNat (byte.toNat + 256 * toNat rest) = byte := by
      apply UInt8.toNat_inj.mp
      simp
    have high : (byte.toNat + 256 * toNat rest) / 256 = toNat rest := by omega
    rw [toNat, List.length_cons, ofNat, low, high, ih]

def ofUInt32 (value : UInt32) : Bytes :=
  ofNat 4 value.toNat

def ofUInt64 (value : UInt64) : Bytes :=
  ofNat 8 value.toNat

/-- Negative integers are written as their two's complement. -/
def ofInt32 (value : Int32) : Bytes :=
  ofUInt32 value.toUInt32

def ofSingle (value : Single) : Bytes :=
  ofNat 4 value.toBits

def ofDouble (value : Double) : Bytes :=
  ofNat 8 value.toBits

def ofBool (value : Bool) : Bytes :=
  [if value then 1 else 0]

def ofString (text : String) : Bytes :=
  ofNat 8 text.utf8ByteSize ++ text.toUTF8.toList

/-- The number of an alternative. -/
def ofAlternative (index : Nat) : Bytes :=
  ofNat 4 index

def ofList {α : Type} (content : α → Bytes) (items : List α) : Bytes :=
  ofNat 8 items.length ++ items.flatMap content

def ofOption {α : Type} (content : α → Bytes) : Option α → Bytes
  | none => [0]
  | some value => 1 :: content value

end Bytes

namespace Decoder

variable {α : Type}

/-- Takes a given count of bytes. -/
def take (count : Nat) : Decoder Bytes := fun input =>
  if count ≤ input.length then .ok (input.take count, input.drop count)
  else .error .endOfInput

theorem take_append (bytes rest : Bytes) :
    (take bytes.length).run (bytes ++ rest) = .ok (bytes, rest) := by
  simp [take, StateT.run]

def nat (width : Nat) : Decoder Nat := do
  return Bytes.toNat (← take width)

def uint32 : Decoder UInt32 := do
  return UInt32.ofNat (← nat 4)

def uint64 : Decoder UInt64 := do
  return UInt64.ofNat (← nat 8)

def int32 : Decoder Int32 := do
  return (← uint32).toInt32

def single : Decoder Single := do
  return .ofBits (← nat 4)

def double : Decoder Double := do
  return .ofBits (← nat 8)

def bool : Decoder Bool := do
  match ← nat 1 with
  | 0 => return false
  | 1 => return true
  | _ => throw .invalidBool

def string : Decoder String := do
  let length ← nat 8
  let bytes ← take length
  match String.fromUTF8? ⟨bytes.toArray⟩ with
  | some text => return text
  | none => throw .invalidText

/-- One of the alternatives that are numbered from zero. -/
def alternative (alternatives : List (Decoder α)) : Decoder α := do
  match alternatives[← nat 4]? with
  | some decoder => decoder
  | none => throw .unknownAlternative

/-- A given count of items. -/
def repeated (item : Decoder α) : Nat → Decoder (List α)
  | 0 => return []
  | count + 1 => do
    let first ← item
    return first :: (← repeated item count)

def list (item : Decoder α) : Decoder (List α) := do
  repeated item (← nat 8)

def option (content : Decoder α) : Decoder (Option α) := do
  match ← nat 1 with
  | 0 => return none
  | 1 => return some (← content)
  | _ => throw .invalidPresence

end Decoder

end Rulebook
