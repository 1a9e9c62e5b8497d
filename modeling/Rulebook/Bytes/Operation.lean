import Rulebook.Bytes.Value
import Rulebook.Condition
import Rulebook.Operation

/-! Conditions and operations as bytes. Every field is written, in the order of
its structure. -/
namespace Rulebook

/-- One of a list of choices, by its place. -/
def Bytes.ofChoice {α : Type} [DecidableEq α] (choices : List α) (choice : α) : Bytes :=
  Bytes.ofAlternative (choices.findIdx fun candidate => decide (candidate = choice))

def Decoder.choice {α : Type} (choices : List α) : Decoder α :=
  .alternative (choices.map pure)

namespace ScriptedCondition

def toBytes (question : ScriptedCondition) : Bytes :=
  Bytes.ofString question.expression ++ question.numberA.numberBytes ++
    question.numberB.numberBytes ++ question.boolA.boolBytes ++ question.boolB.boolBytes

def decoder : Decoder ScriptedCondition :=
  mk <$> .string <*> Reference.numberDecoder <*> Reference.numberDecoder <*>
    Reference.boolDecoder <*> Reference.boolDecoder

end ScriptedCondition

namespace Condition

def toBytes : Condition → Bytes
  | bool a equality b =>
    Bytes.ofAlternative 0 ++ a.boolBytes ++ Bytes.ofChoice Equality.all equality ++ b.boolBytes
  | number a comparison b =>
    Bytes.ofAlternative 1 ++ a.numberBytes ++ Bytes.ofChoice Comparison.all comparison ++
      b.numberBytes
  | vector a equality b =>
    Bytes.ofAlternative 2 ++ a.vectorBytes ++ Bytes.ofChoice Equality.all equality ++
      b.vectorBytes
  | .scripted question => Bytes.ofAlternative 3 ++ question.toBytes

def decoder : Decoder Condition :=
  .alternative [
    bool <$> Reference.boolDecoder <*> .choice Equality.all <*> Reference.boolDecoder,
    number <$> Reference.numberDecoder <*> .choice Comparison.all <*> Reference.numberDecoder,
    vector <$> Reference.vectorDecoder <*> .choice Equality.all <*> Reference.vectorDecoder,
    scripted <$> ScriptedCondition.decoder]

end Condition

namespace Operation

/-- The target stands first and the raise flag last; the formula is between. -/
def toBytes (operation : Operation) : Bytes :=
  match operation.formula with
  | .bool operator a b =>
    Bytes.ofAlternative 0 ++ operation.target.toBytes ++ Bytes.ofChoice Connective.all operator ++
      a.boolBytes ++ b.boolBytes ++ operation.raiseFlag.boolBytes
  | .number operator a b rounding =>
    Bytes.ofAlternative 1 ++ operation.target.toBytes ++ Bytes.ofChoice Arithmetic.all operator ++
      a.numberBytes ++ b.numberBytes ++ Bytes.ofChoice Rounding.all rounding ++
      operation.raiseFlag.boolBytes
  | .scripted expression b c rounding =>
    Bytes.ofAlternative 2 ++ operation.target.toBytes ++ Bytes.ofString expression ++
      b.numberBytes ++ c.numberBytes ++ Bytes.ofChoice Rounding.all rounding ++
      operation.raiseFlag.boolBytes
  | .vector operator a b rounding =>
    Bytes.ofAlternative 3 ++ operation.target.toBytes ++ Bytes.ofChoice Arithmetic.all operator ++
      a.vectorBytes ++ b.vectorBytes ++ Bytes.ofChoice Rounding.all rounding ++
      operation.raiseFlag.boolBytes

def decoder : Decoder Operation :=
  .alternative [
    (do
      let target ← VariableId.decoder
      let formula ← .bool <$> .choice Connective.all <*> Reference.boolDecoder <*>
        Reference.boolDecoder
      return ⟨target, formula, ← Reference.boolDecoder⟩),
    (do
      let target ← VariableId.decoder
      let formula ← .number <$> .choice Arithmetic.all <*> Reference.numberDecoder <*>
        Reference.numberDecoder <*> .choice Rounding.all
      return ⟨target, formula, ← Reference.boolDecoder⟩),
    (do
      let target ← VariableId.decoder
      let formula ← .scripted <$> .string <*> Reference.numberDecoder <*>
        Reference.numberDecoder <*> .choice Rounding.all
      return ⟨target, formula, ← Reference.boolDecoder⟩),
    (do
      let target ← VariableId.decoder
      let formula ← .vector <$> .choice Arithmetic.all <*> Reference.vectorDecoder <*>
        Reference.vectorDecoder <*> .choice Rounding.all
      return ⟨target, formula, ← Reference.boolDecoder⟩)]

end Operation

end Rulebook
