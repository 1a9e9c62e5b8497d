import Rulebook.Bytes.Basic
import Rulebook.Reference

/-! Values, ids and operands as bytes. The alternatives of a type are numbered in
a fixed order. -/
namespace Rulebook
open Numeric

namespace Number

def toBytes : Number → Bytes
  | int value => Bytes.ofAlternative 0 ++ Bytes.ofInt32 value
  | float value => Bytes.ofAlternative 1 ++ Bytes.ofSingle value
  | double value => Bytes.ofAlternative 2 ++ Bytes.ofDouble value

def decoder : Decoder Number :=
  .alternative [int <$> .int32, float <$> .single, double <$> .double]

end Number

namespace Vector

def toBytes : Vector → Bytes
  | int2 x y => Bytes.ofAlternative 0 ++ Bytes.ofInt32 x ++ Bytes.ofInt32 y
  | int3 x y z =>
    Bytes.ofAlternative 1 ++ Bytes.ofInt32 x ++ Bytes.ofInt32 y ++ Bytes.ofInt32 z
  | int4 x y z w =>
    Bytes.ofAlternative 2 ++ Bytes.ofInt32 x ++ Bytes.ofInt32 y ++ Bytes.ofInt32 z ++
      Bytes.ofInt32 w
  | float2 x y => Bytes.ofAlternative 3 ++ Bytes.ofSingle x ++ Bytes.ofSingle y
  | float3 x y z =>
    Bytes.ofAlternative 4 ++ Bytes.ofSingle x ++ Bytes.ofSingle y ++ Bytes.ofSingle z
  | float4 x y z w =>
    Bytes.ofAlternative 5 ++ Bytes.ofSingle x ++ Bytes.ofSingle y ++ Bytes.ofSingle z ++
      Bytes.ofSingle w

def decoder : Decoder Vector :=
  .alternative [
    int2 <$> .int32 <*> .int32,
    int3 <$> .int32 <*> .int32 <*> .int32,
    int4 <$> .int32 <*> .int32 <*> .int32 <*> .int32,
    float2 <$> .single <*> .single,
    float3 <$> .single <*> .single <*> .single,
    float4 <$> .single <*> .single <*> .single <*> .single]

end Vector

namespace Value

def toBytes : Value → Bytes
  | bool value => Bytes.ofAlternative 0 ++ Bytes.ofBool value
  | number value => Bytes.ofAlternative 1 ++ value.toBytes
  | vector value => Bytes.ofAlternative 2 ++ value.toBytes

def decoder : Decoder Value :=
  .alternative [bool <$> .bool, number <$> Number.decoder, vector <$> Vector.decoder]

end Value

namespace VariableId

def toBytes (id : VariableId) : Bytes :=
  Bytes.ofUInt32 id.index

def decoder : Decoder VariableId :=
  mk <$> .uint32

end VariableId

namespace Reference

variable {α : Type}

def toBytes (content : α → Bytes) : Reference α → Bytes
  | unbound => Bytes.ofAlternative 0
  | literal value => Bytes.ofAlternative 1 ++ content value
  | bound id => Bytes.ofAlternative 2 ++ id.toBytes

def decoder (content : Decoder α) : Decoder (Reference α) :=
  .alternative [pure unbound, literal <$> content, bound <$> VariableId.decoder]

/-- The binary form of a link to a truth value. -/
def boolBytes : Reference Bool → Bytes := toBytes Bytes.ofBool

def numberBytes : Reference Number → Bytes := toBytes Number.toBytes

def vectorBytes : Reference Vector → Bytes := toBytes Vector.toBytes

def boolDecoder : Decoder (Reference Bool) := decoder .bool

def numberDecoder : Decoder (Reference Number) := decoder Number.decoder

def vectorDecoder : Decoder (Reference Vector) := decoder Vector.decoder

end Reference

end Rulebook
