import Rulebook.Store

/-! Operands of conditions and operations: constants, links to variables, or
nothing. Nothing stands for the zero of the operand's type; a link to a variable
of another type is an error. -/
namespace Rulebook
open Numeric

/-- A type of operands. -/
class Operand (α : Type) where
  /-- What stands for an operand that is not linked to anything. -/
  absent : α
  ofValue? : Value → Option α
  requirement : Requirement

instance : Operand Bool where
  absent := false
  ofValue? := Value.bool?
  requirement := .exactly .bool

instance : Operand Number where
  absent := .int 0
  ofValue? := Value.number?
  requirement := .anyNumber

instance : Operand Vector where
  absent := .int2 0 0
  ofValue? := Value.vector?
  requirement := .anyVector

inductive Reference (α : Type) where
  | unbound
  | literal (value : α)
  | bound (id : VariableId)
deriving DecidableEq, BEq

namespace Reference

variable {α : Type}

/-- The current value. -/
def resolve [Operand α] (store : Store) : Reference α → Except RuleError α
  | unbound => .ok Operand.absent
  | literal value => .ok value
  | bound id =>
    match store.get id with
    | .error error => .error error
    | .ok var =>
      match Operand.ofValue? var.value with
      | some value => .ok value
      | none => .error (var.mismatch (Operand.requirement α))

def target? : Reference α → Option VariableId
  | bound id => some id
  | _ => none

/-- The current number in 64 bits. -/
def resolveWide (store : Store) (reference : Reference Number) : Except RuleError Double :=
  (reference.resolve store).map Number.widen

end Reference

end Rulebook
