import Rulebook.Script.Datum
import Rulebook.Script.Token

/-! Expression trees and their measures. -/
namespace Rulebook.Script

/-- Operators written before their operand. -/
inductive UnaryOp where
  | negate
  | not
deriving DecidableEq

/-- Operators written between their operands. -/
inductive BinaryOp where
  | or
  | and
  | equal
  | notEqual
  | less
  | lessEqual
  | greater
  | greaterEqual
  | concat
  | add
  | subtract
  | multiply
  | divide
  | modulo
  | power
deriving DecidableEq

namespace UnaryOp

def symbol : UnaryOp → Symbol
  | negate => .minus
  | not => .not

end UnaryOp

namespace BinaryOp

def symbol : BinaryOp → Symbol
  | or => .or
  | and => .and
  | equal => .equal
  | notEqual => .notEqual
  | less => .less
  | lessEqual => .lessEqual
  | greater => .greater
  | greaterEqual => .greaterEqual
  | concat => .dotDot
  | add => .plus
  | subtract => .minus
  | multiply => .star
  | divide => .slash
  | modulo => .percent
  | power => .caret

def spelling (op : BinaryOp) : String :=
  op.symbol.spelling

def ofSymbol? : Symbol → Option BinaryOp
  | .or => some or
  | .and => some and
  | .equal => some equal
  | .notEqual => some notEqual
  | .less => some less
  | .lessEqual => some lessEqual
  | .greater => some greater
  | .greaterEqual => some greaterEqual
  | .dotDot => some concat
  | .plus => some add
  | .minus => some subtract
  | .star => some multiply
  | .slash => some divide
  | .percent => some modulo
  | .caret => some power
  | _ => none

theorem ofSymbol?_symbol (op : BinaryOp) : ofSymbol? op.symbol = some op := by
  cases op <;> rfl

end BinaryOp

inductive Expr where
  | literal (value : Datum)
  | name (name : String)
  | unary (op : UnaryOp) (operand : Expr)
  | binary (op : BinaryOp) (left right : Expr)
  | call (function : String) (arguments : List Expr)

namespace Expr

def children : Expr → List Expr
  | literal _ | name _ => []
  | unary _ operand => [operand]
  | binary _ left right => [left, right]
  | call _ arguments => arguments

mutual

/-- The number of nodes of a tree. -/
def nodes : Expr → Nat
  | literal _ | name _ => 1
  | unary _ operand => nodes operand + 1
  | binary _ left right => nodes left + nodes right + 1
  | call _ arguments => nodesOfAll arguments + 1

def nodesOfAll : List Expr → Nat
  | [] => 0
  | expr :: rest => nodes expr + nodesOfAll rest

end

theorem nodes_eq (expr : Expr) : nodes expr = nodesOfAll expr.children + 1 := by
  cases expr <;> simp [nodes, nodesOfAll, children]

theorem nodesOfAll_append (left right : List Expr) :
    nodesOfAll (left ++ right) = nodesOfAll left + nodesOfAll right := by
  induction left with
  | nil => simp [nodesOfAll]
  | cons expr rest ih => simp [nodesOfAll, ih, Nat.add_assoc]

/-- The greatest level found among pending subtrees, each given with its own
level, and a level found before. -/
def deepest (found : Nat) : List (Expr × Nat) → Nat
  | [] => found
  | (expr, level) :: pending =>
    deepest (max found level) (expr.children.map (fun child => (child, level + 1)) ++ pending)
termination_by pending => nodesOfAll (pending.map Prod.fst)
decreasing_by
  simp only [List.map_append, List.map_map, Function.comp_def, List.map_id', nodesOfAll_append,
    List.map_cons, nodesOfAll, nodes_eq expr]
  omega

/-- The number of levels of a tree. A list of pending subtrees takes the place
of recursion, so a tall tree is measured as easily as a wide one. -/
def depth (expr : Expr) : Nat :=
  deepest 0 [(expr, 1)]

end Expr

end Rulebook.Script
