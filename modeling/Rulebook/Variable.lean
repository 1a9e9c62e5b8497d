import Rulebook.Value

/-! Named values whose kind never changes. -/
namespace Rulebook
open Text

/-- The place of a variable in the order of declarations. -/
structure VariableId where
  index : UInt32
deriving DecidableEq, Hashable

def VariableId.display (id : VariableId) : String :=
  "Variable(" ++ toString id.index.toNat ++ ")"

structure Variable where
  name : String
  value : Value
deriving DecidableEq, BEq

namespace Variable

def kind (var : Variable) : Kind :=
  var.value.kind

def display (var : Variable) : String :=
  var.name ++ " = " ++ var.value.display

/-- The variable with its parts named. -/
def inspect (var : Variable) : String :=
  "Variable \x7b name: " ++ quoted var.name ++ ", value: " ++ var.value.inspect ++ " \x7d"

end Variable

end Rulebook
