import Rulebook.Script.Expr

/-! The grammar of expressions, independent of any way of reading them. Each
layer of the grammar binds more tightly than the one before it, from `or` down
to atoms; which layers an operator takes its operands from says how it groups.
Derivations relate tokens to trees, so a tree may be asked of given tokens
without a parser. -/
namespace Rulebook.Script

/-- The layers of the grammar, the one that binds least first. -/
inductive Layer where
  | disjunction
  | conjunction
  | comparison
  | concatenation
  | sum
  | product
  | prefixed
  | power
  | atom
deriving DecidableEq

namespace Layer

/-- The next layer, whose phrases count as phrases of this one too. -/
def tighter? : Layer → Option Layer
  | disjunction => some conjunction
  | conjunction => some comparison
  | comparison => some concatenation
  | concatenation => some sum
  | sum => some product
  | product => some prefixed
  | prefixed => some power
  | power => some atom
  | atom => none

/-- The place of a layer, counted from one. -/
def rank : Layer → Nat
  | disjunction => 1
  | conjunction => 2
  | comparison => 3
  | concatenation => 4
  | sum => 5
  | product => 6
  | prefixed => 7
  | power => 8
  | atom => 9

theorem rank_tighter {layer inner : Layer} (next : layer.tighter? = some inner) :
    inner.rank = layer.rank + 1 := by
  cases layer <;> cases next <;> rfl

theorem tighter_exists {layer inner : Layer} (looser : layer.rank < inner.rank) :
    ∃ next, layer.tighter? = some next := by
  cases layer with
  | atom => cases inner <;> simp [rank] at looser
  | _ => exact ⟨_, rfl⟩

theorem rank_injective {left right : Layer} (same : left.rank = right.rank) : left = right := by
  cases left <;> cases right <;> first | rfl | simp [rank] at same

end Layer

namespace BinaryOp

/-- The layer whose phrases an operator makes. -/
def layer : BinaryOp → Layer
  | or => .disjunction
  | and => .conjunction
  | equal | notEqual | less | lessEqual | greater | greaterEqual => .comparison
  | concat => .concatenation
  | add | subtract => .sum
  | multiply | divide | modulo => .product
  | power => .power

/-- The layer of a left operand. Operators that take it from their own layer
group to the left. -/
def leftLayer : BinaryOp → Layer
  | concat => .sum
  | power => .atom
  | op => op.layer

/-- The layer of a right operand. A concatenation takes it from its own layer
and so groups to the right; an exponent may begin with operators of its own,
which then cover the rest of the power. -/
def rightLayer : BinaryOp → Layer
  | or => .conjunction
  | and => .comparison
  | equal | notEqual | less | lessEqual | greater | greaterEqual => .concatenation
  | concat => .concatenation
  | add | subtract => .product
  | multiply | divide | modulo => .prefixed
  | power => .prefixed

end BinaryOp

/-- The value that a token writes by itself. -/
def Token.literal? : Token → Option Datum
  | .number value => some (.number value)
  | .text value => some (.text value)
  | .symbol .true => some (.boolean true)
  | .symbol .false => some (.boolean false)
  | .symbol .nil => some .nil
  | _ => none

/-- Token lists with commas between them, none after the last. -/
def commaSeparated (phrases : List (List Token)) : List Token :=
  [Token.symbol .comma].intercalate phrases

/-- Tokens are a phrase of a layer, and this is the tree they stand for. -/
inductive Derives : Layer → List Token → Expr → Prop where
  | tighter {inner : Layer} (next : layer.tighter? = some inner)
      (inside : Derives inner tokens expr) : Derives layer tokens expr
  | binary (op : BinaryOp) (left : Derives op.leftLayer before first)
      (right : Derives op.rightLayer after second) :
      Derives op.layer (before ++ .symbol op.symbol :: after) (.binary op first second)
  | unary (op : UnaryOp) (operand : Derives .prefixed tokens expr) :
      Derives .prefixed (.symbol op.symbol :: tokens) (.unary op expr)
  | literal (written : Token.literal? token = some value) :
      Derives .atom [token] (.literal value)
  | name (name : String) : Derives .atom [.name name] (.name name)
  | call (function : String) (arguments : List (List Token × Expr))
      (each : ∀ argument ∈ arguments, Derives .disjunction argument.1 argument.2) :
      Derives .atom
        (.name function :: .symbol .leftParen ::
          (commaSeparated (arguments.map Prod.fst) ++ [.symbol .rightParen]))
        (.call function (arguments.map Prod.snd))
  | group (inside : Derives .disjunction tokens expr) :
      Derives .atom (.symbol .leftParen :: (tokens ++ [.symbol .rightParen])) expr

/-- A phrase is a phrase of every layer that binds less. -/
theorem Derives.loosen {outer inner : Layer} (derives : Derives inner tokens expr)
    (looser : outer.rank ≤ inner.rank) : Derives outer tokens expr := by
  obtain ⟨distance, apart⟩ := Nat.exists_eq_add_of_le looser
  induction distance generalizing outer with
  | zero => exact Layer.rank_injective apart ▸ derives
  | succ distance ih =>
    obtain ⟨next, step⟩ := Layer.tighter_exists (by omega : outer.rank < inner.rank)
    have nextRank := Layer.rank_tighter step
    exact .tighter step (ih (by omega) (by omega))

end Rulebook.Script
