import Rulebook.Script.Combinators
import Rulebook.Script.Error

/-! Parsing of expressions, one parser for each level of precedence, from the operators that
bind least down to atoms. -/
namespace Rulebook.Script

/-- Operators before an operand, the outermost first. -/
def prefixed (ops : List UnaryOp) (operand : Expr) : Expr :=
  ops.foldr .unary operand

/-- A power with its exponents, which group to the right. Operators before an exponent cover
all powers behind them. -/
def foldPower (base : Expr) : List (List UnaryOp × Expr) → Expr
  | [] => base
  | (ops, operand) :: rest => .binary .power base (prefixed ops (foldPower operand rest))

/-- Operands under one operator that groups to the right. -/
def foldRight (op : BinaryOp) (first : Expr) : List Expr → Expr
  | [] => first
  | next :: rest => .binary op first (foldRight op next rest)

/-- Operands under operators that group to the left. -/
def foldLeft (first : Expr) (rest : List (BinaryOp × Expr)) : Expr :=
  rest.foldl (fun left (op, right) => .binary op left right) first

namespace Parser

def literal : Parser Expr := do
  let value ← select fun
    | .number value => some (.number value)
    | .text value => some (.text value)
    | .symbol .true => some (.boolean true)
    | .symbol .false => some (.boolean false)
    | .symbol .nil => some .nil
    | _ => none
  return .literal value

section

variable (expression : Parser Expr)

/-- A name, or a call when arguments in brackets follow. -/
def nameOrCall : Parser Expr := do
  let name ← select fun
    | .name name => some name
    | _ => none
  match ← (expression.separatedBy (just .comma)).parenthesized.orNot with
  | some arguments => return .call name arguments
  | none => return .name name

def atom : Parser Expr :=
  (choice [literal, nameOrCall expression, expression.parenthesized]).labelled "a value"

/-- An operator before an operand. -/
def unaryOp : Parser UnaryOp :=
  choice ([.negate, .not].map fun op => do just op.symbol; return op)

/-- One of some operators between operands. -/
def binaryOp (ops : List BinaryOp) : Parser BinaryOp :=
  choice (ops.map fun op => do just op.symbol; return op)

/-- What follows an operand: an operator and its right operand. -/
def operation (ops : List BinaryOp) (operand : Parser Expr) : Parser (BinaryOp × Expr) := do
  return (← binaryOp ops, ← operand)

/-- Operands with operators between them that group to the left. -/
def leftAssociative (ops : List BinaryOp) (operand : Parser Expr) : Parser Expr := do
  return foldLeft (← operand) (← (operation ops operand).repeated)

/-- An exponent, which may have operators before it. -/
def exponent : Parser (List UnaryOp × Expr) := do
  just .caret
  return (← unaryOp.repeated, ← atom expression)

def power : Parser Expr := do
  return foldPower (← atom expression) (← (exponent expression).repeated)

def unary : Parser Expr :=
  (do return prefixed (← unaryOp.repeated) (← power expression) : Parser Expr).labelled "a value"

def product : Parser Expr :=
  leftAssociative [.multiply, .divide, .modulo] (unary expression)

def sum : Parser Expr :=
  leftAssociative [.add, .subtract] (product expression)

def concatenation : Parser Expr := do
  return foldRight .concat (← sum expression) (← (do just .dotDot; sum expression).repeated)

def comparison : Parser Expr :=
  leftAssociative [.equal, .notEqual, .less, .lessEqual, .greater, .greaterEqual]
    (concatenation expression)

def conjunction : Parser Expr :=
  leftAssociative [.and] (comparison expression)

def disjunction : Parser Expr :=
  leftAssociative [.or] (conjunction expression)

end

def expression : Parser Expr :=
  recursive disjunction

/-- An expression and nothing after it. -/
def wholeExpression : Parser Expr := do
  let expr ← expression
  finish
  return expr

/-- Whether brackets open at any one time stay within a limit. A closing bracket
without an opening one counts for nothing. -/
def nestsWithin (limit : Nat) (opened : Nat) : List Located → Bool
  | [] => true
  | located :: rest =>
    match located.token with
    | .symbol .leftParen => decide (opened < limit) && nestsWithin limit (opened + 1) rest
    | .symbol .rightParen => nestsWithin limit (opened - 1) rest
    | _ => nestsWithin limit opened rest

end Parser

/-- What was expected at one place, in alphabetical order, each once. -/
def expectedList (expected : List Pattern) : String :=
  match (expected.map Pattern.text).mergeSort.eraseReps with
  | [] => "a valid expression"
  | texts => " or ".intercalate texts

/-- The error for the furthest place at which parsing got stuck, by the bytes of the
source. -/
def positioned (stuck? : Option Stuck) (tokens : List Located) : EvalError :=
  match stuck? with
  | none => .unexpectedEnd "an expression"
  | some stuck =>
    match stuck.found, tokens[stuck.position]? with
    | some found, some located =>
      .unexpectedToken located.start found.describe (expectedList stuck.expected)
    | _, _ => .unexpectedEnd (expectedList stuck.expected)

/-- The expression that tokens write. Brackets and the levels of the tree are
held to the same limit. -/
def parse (tokens : List Located) (maxDepth : Nat) : Except EvalError Expr :=
  if Parser.nestsWithin maxDepth 0 tokens then
    match Parser.wholeExpression ⟨0, tokens.map Located.token⟩ with
    | ⟨some (expr, _), _⟩ => if expr.depth ≤ maxDepth then .ok expr else .error (.tooDeep maxDepth)
    | ⟨none, stuck?⟩ => .error (positioned stuck? tokens)
  else .error (.tooDeep maxDepth)

end Rulebook.Script
