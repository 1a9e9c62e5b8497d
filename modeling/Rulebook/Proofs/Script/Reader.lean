import Rulebook.Proofs.Script.Grammar
import Rulebook.Script.Token

/-! Operator precedence reading, one token at a time. A state holds the operand
read last and the frames that still wait for something: an operator for its
right operand, a bracket for its end. Whether a token may come next depends on
the state alone, so the first token refused is the first that cannot continue
any expression, and what else could have stood there is read off the state. -/
namespace Rulebook.Script

/-- What could have stood at the place of a syntax error. -/
inductive Expectation where
  | symbol (which : Symbol)
  | operand
  | finish
deriving DecidableEq

def Expectation.text : Expectation → String
  | .symbol which => "'" ++ which.spelling ++ "'"
  | .operand => "a value"
  | .finish => "end of expression"

namespace BinaryOp

/-- How tightly an operator binds. -/
def level : BinaryOp → Nat
  | or => 1
  | and => 2
  | equal | notEqual | less | lessEqual | greater | greaterEqual => 3
  | concat => 4
  | add | subtract => 5
  | multiply | divide | modulo => 6
  | power => 8

/-- The level a right operand needs: one more than the operator's own where
operators of that level group to the left. The exponent of a power may carry
operators written before it. -/
def rightLevel : BinaryOp → Nat
  | concat => 4
  | power => 7
  | op => op.level + 1

end BinaryOp

/-- The level of operators written before their operand, which is also the
level that operand needs. -/
def UnaryOp.level : Nat := 7

/-- Something read whose end is still to come. -/
inductive Frame where
  | unary (op : UnaryOp)
  | binary (left : Expr) (op : BinaryOp)
  | group
  | call (function : String) (arguments : List Expr)

/-- What has been read: an operand is due, or one is complete, or a name is
complete that a bracket would turn into a call. -/
inductive ParseState where
  | operand (pending : List Frame)
  | complete (expr : Expr) (pending : List Frame)
  | name (name : String) (pending : List Frame)

theorem Layer.rank_pos (layer : Layer) : 1 ≤ layer.rank := by
  cases layer <;> decide

theorem BinaryOp.rank_layer (op : BinaryOp) : op.layer.rank = op.level := by
  cases op <;> rfl

theorem BinaryOp.rank_layer_le_leftLayer (op : BinaryOp) :
    op.layer.rank ≤ op.leftLayer.rank := by
  cases op <;> decide

theorem BinaryOp.rank_rightLayer (op : BinaryOp) : op.rightLayer.rank = op.rightLevel := by
  cases op <;> rfl

theorem BinaryOp.rank_rightLayer_le_prefixed (op : BinaryOp) :
    op.rightLayer.rank ≤ Layer.prefixed.rank := by
  cases op <;> decide

theorem BinaryOp.symbol_of_ofSymbol? {which : Symbol} {op : BinaryOp}
    (found : BinaryOp.ofSymbol? which = some op) : op.symbol = which := by
  cases which <;> cases found <;> rfl

/-- Operators below this level take a phrase of the layer as a whole; others may
take only its end. -/
def Layer.bound : Layer → Nat
  | disjunction => 2
  | conjunction => 3
  | comparison | concatenation => 4
  | sum => 6
  | product | prefixed | power => 7
  | atom => 9

theorem Layer.bound_tighter {layer inner : Layer} (next : layer.tighter? = some inner) :
    layer.bound ≤ inner.bound := by
  cases layer <;> cases next <;> decide

theorem BinaryOp.bound_layer (op : BinaryOp) : op.layer.bound = op.rightLevel := by
  cases op <;> rfl

theorem BinaryOp.level_lt_bound_leftLayer (op : BinaryOp) : op.level < op.leftLayer.bound := by
  cases op <;> decide

theorem BinaryOp.rightLevel_le_bound_rightLayer (op : BinaryOp) :
    op.rightLevel ≤ op.rightLayer.bound := by
  cases op <;> decide

theorem BinaryOp.rank_leftLayer_of_level_lt {layer : Layer} (op : BinaryOp)
    (below : op.level < layer.bound) : op.leftLayer.rank ≤ layer.rank := by
  cases op <;> cases layer <;> revert below <;> decide

namespace Reader

/-- Completes the operators that bind an operand more tightly than an operator
of the given level after it does. -/
def settle (level : Nat) (expr : Expr) : List Frame → Expr × List Frame
  | .unary op :: pending =>
    if level < UnaryOp.level then settle level (.unary op expr) pending
    else (expr, .unary op :: pending)
  | .binary left op :: pending =>
    if level < op.rightLevel then settle level (.binary op left expr) pending
    else (expr, .binary left op :: pending)
  | pending => (expr, pending)

/-- Reads a token where an operand is due. -/
def begin? (pending : List Frame) : Token → Option ParseState
  | .number value => some (.complete (.literal (.number value)) pending)
  | .text value => some (.complete (.literal (.text value)) pending)
  | .name name => some (.name name pending)
  | .symbol .true => some (.complete (.literal (.boolean true)) pending)
  | .symbol .false => some (.complete (.literal (.boolean false)) pending)
  | .symbol .nil => some (.complete (.literal .nil) pending)
  | .symbol .minus => some (.operand (.unary .negate :: pending))
  | .symbol .not => some (.operand (.unary .not :: pending))
  | .symbol .leftParen => some (.operand (.group :: pending))
  | .symbol .rightParen =>
    match pending with
    | .call function [] :: outer => some (.complete (.call function []) outer)
    | _ => none
  | .symbol _ => none

/-- Reads a token after a complete operand. -/
def continue? (expr : Expr) (pending : List Frame) : Token → Option ParseState
  | .symbol .rightParen =>
    match settle 0 expr pending with
    | (inner, .group :: outer) => some (.complete inner outer)
    | (last, .call function arguments :: outer) =>
      some (.complete (.call function (arguments ++ [last])) outer)
    | _ => none
  | .symbol .comma =>
    match settle 0 expr pending with
    | (argument, .call function arguments :: outer) =>
      some (.operand (.call function (arguments ++ [argument]) :: outer))
    | _ => none
  | .symbol which =>
    (BinaryOp.ofSymbol? which).map fun op =>
      let (left, outer) := settle op.level expr pending
      .operand (.binary left op :: outer)
  | _ => none

/-- Reads one token; `none` when no expression continues with it. -/
def step? : ParseState → Token → Option ParseState
  | .operand pending, token => begin? pending token
  | .complete expr pending, token => continue? expr pending token
  | .name function pending, .symbol .leftParen =>
    some (.operand (.call function [] :: pending))
  | .name name pending, token => continue? (.name name) pending token

/-- The expression that has been read, if it is whole. -/
def finish? : ParseState → Option Expr
  | .operand _ => none
  | .complete expr pending => whole? expr pending
  | .name name pending => whole? (.name name) pending
where
  whole? (expr : Expr) (pending : List Frame) : Option Expr :=
    match settle 0 expr pending with
    | (whole, []) => some whole
    | _ => none

/-- All symbols that may follow an operand, and the end, in the order of their
texts. -/
def continuations : List Expectation :=
  [.symbol .percent, .symbol .leftParen, .symbol .rightParen, .symbol .star, .symbol .plus,
    .symbol .comma, .symbol .minus, .symbol .dotDot, .symbol .slash, .symbol .less,
    .symbol .lessEqual, .symbol .equal, .symbol .greater, .symbol .greaterEqual, .symbol .caret,
    .symbol .and, .symbol .or, .symbol .notEqual, .finish]

/-- Whether something may come next in a state. -/
def admits (state : ParseState) : Expectation → Bool
  | .symbol which => (step? state (.symbol which)).isSome
  | .operand => match state with
    | .operand _ => true
    | _ => false
  | .finish => (finish? state).isSome

/-- What could come next, in the order of the texts. Operators before an operand
are named only after another such operator or a power sign; elsewhere they
count as the start of a value. -/
def expected (state : ParseState) : List Expectation :=
  match state with
  | .operand (.unary _ :: _) | .operand (.binary _ .power :: _) =>
    [.symbol .minus, .symbol .not, .operand]
  | .operand (.call _ [] :: _) => [.symbol .rightParen, .operand]
  | .operand _ => [.operand]
  | _ => continuations.filter (admits state)

/-- Reads several tokens. -/
def advance? : ParseState → List Token → Option ParseState
  | state, [] => some state
  | state, token :: rest => (step? state token).bind (advance? · rest)

/-- The expression that all tokens make, if they make one. -/
def read? (words : List Token) : Option Expr :=
  (advance? (.operand []) words).bind finish?

theorem advance?_append (state : ParseState) (first second : List Token) :
    advance? state (first ++ second) = (advance? state first).bind (advance? · second) := by
  induction first generalizing state with
  | nil => rfl
  | cons token rest ih =>
    simp only [List.cons_append, advance?, ih, Option.bind_assoc]

/-- The place of the layer that the operand due next has to belong to. Inside
brackets every phrase will do. -/
def required : List Frame → Nat
  | .unary _ :: _ => Layer.prefixed.rank
  | .binary _ op :: _ => op.rightLayer.rank
  | _ => Layer.disjunction.rank

theorem required_le_prefixed (pending : List Frame) : required pending ≤ Layer.prefixed.rank := by
  cases pending with
  | nil => decide
  | cons frame outer =>
    cases frame with
    | binary left op => exact op.rank_rightLayer_le_prefixed
    | unary op => exact Nat.le_refl _
    | group => exact Nat.le_add_left 1 6
    | call function arguments => exact Nat.le_add_left 1 6

/-- The operand that a state has read last, and the frames around it. -/
def held? : ParseState → Option (Expr × List Frame)
  | .operand _ => none
  | .complete expr pending => some (expr, pending)
  | .name name pending => some (.name name, pending)

/-- Every operator below a level meets the state as if the tree were its whole
last operand. -/
def Holds (state : ParseState) (expr : Expr) (pending : List Frame) (bound : Nat) : Prop :=
  ∃ last frames, held? state = some (last, frames) ∧
    ∀ level < bound, settle level last frames = settle level expr pending

theorem step?_of_held (held : held? state = some (last, frames))
    (other : token ≠ .symbol .leftParen) : step? state token = continue? last frames token := by
  cases state with
  | operand pending => cases held
  | complete expr pending => cases held; rfl
  | name name pending =>
    cases held
    cases token with
    | symbol which => cases which <;> first | rfl | exact absurd rfl other
    | _ => rfl

theorem settle_of_required (enough : required pending ≤ level) :
    settle level expr pending = (expr, pending) := by
  cases pending with
  | nil => rfl
  | cons frame outer =>
    cases frame with
    | unary op =>
      have high : ¬ level < UnaryOp.level := Nat.not_lt.mpr enough
      simp [settle, high]
    | binary left op =>
      have high : ¬ level < op.rightLevel := op.rank_rightLayer ▸ Nat.not_lt.mpr enough
      simp [settle, high]
    | group => rfl
    | call function arguments => rfl

theorem continue?_operator (op : BinaryOp) :
    continue? expr pending (.symbol op.symbol) =
      some (.operand (.binary (settle op.level expr pending).1 op ::
        (settle op.level expr pending).2)) := by
  cases op <;> rfl

theorem Holds.weaken (holds : Holds state expr pending bound) (lower : least ≤ bound) :
    Holds state expr pending least := by
  obtain ⟨last, frames, held, same⟩ := holds
  exact ⟨last, frames, held, fun level below => same level (by omega)⟩

theorem Holds.step_operator {op : BinaryOp} (holds : Holds state expr pending bound)
    (below : op.level < bound) (enough : required pending ≤ op.level) :
    step? state (.symbol op.symbol) = some (.operand (.binary expr op :: pending)) := by
  obtain ⟨last, frames, held, same⟩ := holds
  have notBracket : Token.symbol op.symbol ≠ .symbol .leftParen := by cases op <;> decide
  rw [step?_of_held held notBracket, continue?_operator, same op.level below,
    settle_of_required enough]

theorem Holds.step_group (holds : Holds state expr (.group :: outer) bound)
    (positive : 0 < bound) : step? state (.symbol .rightParen) = some (.complete expr outer) := by
  obtain ⟨last, frames, held, same⟩ := holds
  rw [step?_of_held held (by decide), continue?, same 0 positive]
  rfl

theorem Holds.step_lastArgument (holds : Holds state expr (.call function done :: outer) bound)
    (positive : 0 < bound) : step? state (.symbol .rightParen) =
      some (.complete (.call function (done ++ [expr])) outer) := by
  obtain ⟨last, frames, held, same⟩ := holds
  rw [step?_of_held held (by decide), continue?, same 0 positive]
  rfl

theorem Holds.step_comma (holds : Holds state expr (.call function done :: outer) bound)
    (positive : 0 < bound) : step? state (.symbol .comma) =
      some (.operand (.call function (done ++ [expr]) :: outer)) := by
  obtain ⟨last, frames, held, same⟩ := holds
  rw [step?_of_held held (by decide), continue?, same 0 positive]
  rfl

theorem Holds.finish (holds : Holds state expr [] bound) (positive : 0 < bound) :
    finish? state = some expr := by
  obtain ⟨last, frames, held, same⟩ := holds
  have whole : settle 0 last frames = (expr, []) := same 0 positive
  cases state with
  | operand pending => cases held
  | complete expr pending => cases held; simp [finish?, finish?.whole?, whole]
  | name name pending => cases held; simp [finish?, finish?.whole?, whole]

theorem begin?_literal (written : Token.literal? token = some value) :
    begin? pending token = some (.complete (.literal value) pending) := by
  cases token with
  | symbol which => cases which <;> cases written <;> rfl
  | name name => cases written
  | number number => cases written; rfl
  | text text => cases written; rfl

theorem holds_complete (expr : Expr) (pending : List Frame) (bound : Nat) :
    Holds (.complete expr pending) expr pending bound :=
  ⟨expr, pending, rfl, fun _ _ => rfl⟩

theorem Holds.unary (holds : Holds state expr (.unary op :: pending) bound)
    (enough : UnaryOp.level ≤ bound) :
    Holds state (.unary op expr) pending UnaryOp.level := by
  obtain ⟨last, frames, held, same⟩ := holds
  refine ⟨last, frames, held, fun level below => ?_⟩
  rw [same level (by omega), settle, if_pos below]

theorem Holds.binary (holds : Holds state second (.binary first op :: pending) bound)
    (enough : op.rightLevel ≤ bound) :
    Holds state (.binary op first second) pending op.rightLevel := by
  obtain ⟨last, frames, held, same⟩ := holds
  refine ⟨last, frames, held, fun level below => ?_⟩
  rw [same level (by omega), settle, if_pos below]

/-- The four ways in which reading goes on after an operand. -/
theorem continue?_cases (continued : continue? expr pending token = some next) :
    (∃ op : BinaryOp, token = .symbol op.symbol ∧
      next = .operand (.binary (settle op.level expr pending).1 op ::
        (settle op.level expr pending).2)) ∨
    (∃ inner outer, token = .symbol .rightParen ∧
      settle 0 expr pending = (inner, .group :: outer) ∧ next = .complete inner outer) ∨
    (∃ last function arguments outer, token = .symbol .rightParen ∧
      settle 0 expr pending = (last, .call function arguments :: outer) ∧
      next = .complete (.call function (arguments ++ [last])) outer) ∨
    (∃ argument function arguments outer, token = .symbol .comma ∧
      settle 0 expr pending = (argument, .call function arguments :: outer) ∧
      next = .operand (.call function (arguments ++ [argument]) :: outer)) := by
  unfold continue? at continued
  split at continued
  · split at continued
    · rename_i inner outer settled
      cases continued
      exact .inr (.inl ⟨inner, outer, rfl, settled, rfl⟩)
    · rename_i last function arguments outer settled
      cases continued
      exact .inr (.inr (.inl ⟨last, function, arguments, outer, rfl, settled, rfl⟩))
    · cases continued
  · split at continued
    · rename_i argument function arguments outer settled
      cases continued
      exact .inr (.inr (.inr ⟨argument, function, arguments, outer, rfl, settled, rfl⟩))
    · cases continued
  · rename_i which _ _
    obtain ⟨op, isOperator, rfl⟩ := Option.map_eq_some_iff.mp continued
    exact .inl ⟨op, by rw [BinaryOp.symbol_of_ofSymbol? isOperator], rfl⟩
  · cases continued

/-- The ways in which reading goes on where an operand is due. -/
theorem begin?_cases (begun : begin? pending token = some next) :
    (∃ value, token.literal? = some value ∧ next = .complete (.literal value) pending) ∨
    (∃ name, token = .name name ∧ next = .name name pending) ∨
    (∃ op : UnaryOp, token = .symbol op.symbol ∧ next = .operand (.unary op :: pending)) ∨
    (token = .symbol .leftParen ∧ next = .operand (.group :: pending)) ∨
    (∃ function outer, token = .symbol .rightParen ∧ pending = .call function [] :: outer ∧
      next = .complete (.call function []) outer) := by
  unfold begin? at begun
  split at begun
  case h_7 => cases begun; exact .inr (.inr (.inl ⟨.negate, rfl, rfl⟩))
  case h_8 => cases begun; exact .inr (.inr (.inl ⟨.not, rfl, rfl⟩))
  case h_9 => cases begun; exact .inr (.inr (.inr (.inl ⟨rfl, rfl⟩)))
  case h_10 =>
    split at begun
    · rename_i function outer
      cases begun
      exact .inr (.inr (.inr (.inr ⟨function, outer, rfl, rfl, rfl⟩)))
    · cases begun
  case h_3 name => cases begun; exact .inr (.inl ⟨name, rfl, rfl⟩)
  case h_11 => cases begun
  all_goals
    cases begun
    exact .inl ⟨_, rfl, rfl⟩

theorem held_complete (expr : Expr) (pending : List Frame) :
    held? (.complete expr pending) = some (expr, pending) := rfl

theorem held_name (name : String) (pending : List Frame) :
    held? (.name name pending) = some (.name name, pending) := rfl

/-- The three ways of reading a token. -/
theorem step?_cases {state : ParseState} (stepped : step? state token = some next) :
    (∃ pending, state = .operand pending ∧ begin? pending token = some next) ∨
    (∃ name pending, state = .name name pending ∧ token = .symbol .leftParen ∧
      next = .operand (.call name [] :: pending)) ∨
    (∃ last frames, held? state = some (last, frames) ∧
      continue? last frames token = some next) := by
  cases state with
  | operand pending => exact .inl ⟨pending, rfl, stepped⟩
  | complete expr pending => exact .inr (.inr ⟨expr, pending, rfl, stepped⟩)
  | name name pending =>
    by_cases bracket : token = .symbol .leftParen
    · subst bracket
      cases stepped
      exact .inr (.inl ⟨name, pending, rfl, rfl, rfl⟩)
    · rw [step?_of_held rfl bracket] at stepped
      exact .inr (.inr ⟨_, pending, rfl, stepped⟩)

/-- The innermost frame is an operator whose operand may begin with further
operators. -/
def Prefixed (pending : List Frame) : Prop :=
  (∃ op outer, pending = .unary op :: outer) ∨ ∃ left outer, pending = .binary left .power :: outer

theorem ascending_continuations :
    (continuations.map Expectation.text).Pairwise (· < ·) := by
  decide

theorem ascending_expected (state : ParseState) :
    ((expected state).map Expectation.text).Pairwise (· < ·) := by
  unfold expected
  split
  · decide
  · decide
  · decide
  · decide
  · exact ascending_continuations.sublist ((List.filter_sublist).map _)

theorem expected_of_held (held : held? state = some (last, frames)) :
    expected state = continuations.filter (admits state) := by
  cases state with
  | operand pending => cases held
  | complete expr pending => rfl
  | name name pending => rfl

theorem mem_expected_operand (pending : List Frame) (expectation : Expectation) :
    expectation ∈ expected (.operand pending) ↔
      expectation = .operand ∨
      (∃ op : UnaryOp, expectation = .symbol op.symbol) ∧ Prefixed pending ∨
      expectation = .symbol .rightParen ∧
        ∃ function outer, pending = .call function [] :: outer := by
  have operators : (∃ op : UnaryOp, expectation = .symbol op.symbol) ↔
      expectation = .symbol .minus ∨ expectation = .symbol .not := by
    constructor
    · rintro ⟨op, rfl⟩
      cases op <;> simp [UnaryOp.symbol]
    · rintro (rfl | rfl)
      · exact ⟨.negate, rfl⟩
      · exact ⟨.not, rfl⟩
  rw [operators]
  unfold expected Prefixed
  split <;> simp_all <;> grind

/-- After an operand only symbols can come, and all of them are listed. -/
theorem symbol_of_step? (held : held? state = some (last, frames))
    (stepped : step? state token = some next) :
    ∃ which, token = .symbol which ∧ .symbol which ∈ continuations := by
  by_cases bracket : token = .symbol .leftParen
  · exact ⟨.leftParen, bracket, by decide⟩
  · rw [step?_of_held held bracket] at stepped
    rcases continue?_cases stepped with ⟨op, rfl, -⟩ | ⟨_, _, rfl, -⟩ | ⟨_, _, _, _, rfl, -⟩ |
      ⟨_, _, _, _, rfl, -⟩
    · exact ⟨op.symbol, rfl, by cases op <;> decide⟩
    · exact ⟨.rightParen, rfl, by decide⟩
    · exact ⟨.rightParen, rfl, by decide⟩
    · exact ⟨.comma, rfl, by decide⟩

theorem symbol_mem_expected (held : held? state = some (last, frames)) (which : Symbol) :
    .symbol which ∈ expected state ↔ ∃ next, step? state (.symbol which) = some next := by
  rw [expected_of_held held, List.mem_filter, admits, Option.isSome_iff_exists]
  constructor
  · exact And.right
  · rintro ⟨next, stepped⟩
    obtain ⟨_, same, listed⟩ := symbol_of_step? held stepped
    cases same
    exact ⟨listed, next, stepped⟩

theorem operand_mem_expected (state : ParseState) :
    .operand ∈ expected state ↔ ∃ pending, state = .operand pending := by
  cases state with
  | operand pending => simp [mem_expected_operand]
  | complete expr pending => simp [expected_of_held (held_complete expr pending), admits]
  | name name pending => simp [expected_of_held (held_name name pending), admits]

theorem finish_mem_expected (state : ParseState) :
    .finish ∈ expected state ↔ (finish? state).isSome := by
  have listed : Expectation.finish ∈ continuations := by decide
  cases state with
  | operand pending => simp [mem_expected_operand, finish?]
  | complete expr pending =>
    simp [expected_of_held (held_complete expr pending), admits, listed]
  | name name pending =>
    simp [expected_of_held (held_name name pending), admits, listed]

end Reader

end Rulebook.Script
