import Rulebook.Bytes.Operation
import Rulebook.RuleSet

/-! Rule sets as bytes. Every field is written, in the order of its structure,
and what follows the last one does not matter. -/
namespace Rulebook
open Script

namespace VariableDefinition

def toBytes (definition : VariableDefinition) : Bytes :=
  Bytes.ofString definition.name ++ definition.value.toBytes

def decoder : Decoder VariableDefinition :=
  mk <$> .string <*> Value.decoder

end VariableDefinition

namespace Rule

def toBytes (rule : Rule) : Bytes :=
  Bytes.ofString rule.name ++ Bytes.ofOption (Bytes.ofList Condition.toBytes) rule.gate ++
    Bytes.ofList (Bytes.ofList Operation.toBytes) rule.operations

def decoder : Decoder Rule :=
  mk <$> .string <*> .option (.list Condition.decoder) <*> .list (.list Operation.decoder)

end Rule

def limitsBytes (limits : Limits) : Bytes :=
  Bytes.ofUInt64 limits.maxLength ++ Bytes.ofUInt32 limits.maxDepth ++
    Bytes.ofUInt32 limits.maxSteps

def limitsDecoder : Decoder Limits :=
  .mk <$> .uint64 <*> .uint32 <*> .uint32

namespace RuleSet

def toBytes (ruleSet : RuleSet) : Bytes :=
  Bytes.ofUInt32 ruleSet.version ++ limitsBytes ruleSet.script ++
    Bytes.ofList VariableDefinition.toBytes ruleSet.definitions ++
    Bytes.ofList Rule.toBytes ruleSet.rules

def decoder : Decoder RuleSet :=
  mk <$> .uint32 <*> limitsDecoder <*> .list VariableDefinition.decoder <*> .list Rule.decoder

/-- The rule set at the front of some bytes, in the newest version. What comes
after it does not matter. -/
def ofBytes (bytes : Bytes) : Except RuleSetError Upgrade :=
  match decoder.run bytes with
  | .error error => .error (.binary error)
  | .ok (ruleSet, _) => ruleSet.upgrade

end RuleSet

end Rulebook
