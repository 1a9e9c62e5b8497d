import Rulebook.Proofs.Script.Height
import Rulebook.Proofs.Script.Layers
import Rulebook.Proofs.Script.Reading

/-! Parsing is exact: it gives the tree that the grammar gives, refuses
everything else, and reports depth only where brackets or the tree are too
deep. The parser follows the reader, and what is known of the reader is brought
together here with the two checks around the parser. -/
namespace Rulebook.Script
open Rulebook.Script.Parser Rulebook.Script.Reader

/-- The brackets still open after a token. A closing bracket without an opening
one counts for nothing. -/
def bracketsAfter (opened : Nat) : Token → Nat
  | .symbol .leftParen => opened + 1
  | .symbol .rightParen => opened - 1
  | _ => opened

/-- From left to right, brackets open at one time never exceed a limit. -/
def BracketsWithin (limit : Nat) (tokens : List Token) : Prop :=
  ∀ before, before <+: tokens → before.foldl bracketsAfter 0 ≤ limit

private theorem every_prefix_cons (within : opened ≤ limit) (token : Token) (rest : List Token) :
    (∀ before, before <+: token :: rest → before.foldl bracketsAfter opened ≤ limit) ↔
      ∀ before, before <+: rest →
        before.foldl bracketsAfter (bracketsAfter opened token) ≤ limit := by
  constructor
  · intro every before shorter
    exact every (token :: before) (List.cons_prefix_cons.mpr ⟨rfl, shorter⟩)
  · intro every before shorter
    cases before with
    | nil => exact within
    | cons first before =>
      obtain ⟨rfl, inside⟩ := List.cons_prefix_cons.mp shorter
      exact every before inside

private theorem nestsWithin_iff (tokens : List Located) (within : opened ≤ limit) :
    nestsWithin limit opened tokens = true ↔
      ∀ before, before <+: tokens.map Located.token →
        before.foldl bracketsAfter opened ≤ limit := by
  induction tokens generalizing opened with
  | nil =>
    simp only [nestsWithin, List.map_nil, List.prefix_nil, true_iff]
    rintro before rfl
    exact within
  | cons located rest ih =>
    rw [List.map_cons, every_prefix_cons within]
    unfold nestsWithin
    split
    · rename_i bracket
      simp only [bracket, bracketsAfter, Bool.and_eq_true, decide_eq_true_eq]
      constructor
      · rintro ⟨room, nested⟩
        exact (ih room).mp nested
      · intro every
        have room : opened + 1 ≤ limit := every [] List.nil_prefix
        exact ⟨room, (ih room).mpr every⟩
    · rename_i bracket
      simp only [bracket, bracketsAfter]
      exact ih (by omega)
    · rename_i noOpening noClosing
      have unchanged : bracketsAfter opened located.token = opened := by
        unfold bracketsAfter
        split <;> first | rfl | contradiction
      rw [unchanged]
      exact ih within

theorem nestsWithin_iff_bracketsWithin (limit : Nat) (tokens : List Located) :
    nestsWithin limit 0 tokens = true ↔ BracketsWithin limit (tokens.map Located.token) :=
  nestsWithin_iff tokens (Nat.zero_le limit)

theorem parse_of_read {tokens : List Located} {maxDepth : Nat}
    (nested : nestsWithin maxDepth 0 tokens = true)
    (read : read? (tokens.map Located.token) = some expr) :
    parse tokens maxDepth =
      if expr.depth ≤ maxDepth then .ok expr else .error (.tooDeep maxDepth) := by
  rw [parse, if_pos nested]
  rcases wholeExpression_cases (tokens.map Located.token) with
    ⟨other, next, same, given⟩ | ⟨_, -, count, -, final, advanced, refuses, -⟩
  · cases same.symm.trans read
    split
    · rename_i found
      rw [found] at given
      cases given
      rfl
    · rename_i found
      rw [found] at given
      cases given
  · have unread := read?_of_refuses advanced refuses
    rw [List.take_append_drop, read] at unread
    cases unread

/-- Where the reader does not get to the end, the error is where it stops, and what the
parser names there is what the reader expects. -/
theorem parse_of_unread {tokens : List Located} {maxDepth : Nat}
    (nested : nestsWithin maxDepth 0 tokens = true)
    (unread : read? (tokens.map Located.token) = none) :
    ∃ stuck?, parse tokens maxDepth = .error (positioned stuck? tokens) ∧
      Halts (tokens.map Located.token) stuck? := by
  rcases wholeExpression_cases (tokens.map Located.token) with
    ⟨expr, next, read, -⟩ | ⟨stuck?, failed, facts⟩
  · cases read.symm.trans unread
  · refine ⟨stuck?, ?_, facts⟩
    rw [parse, if_pos nested, failed]

theorem parse_eq_ok_iff (tokens : List Located) (maxDepth : Nat) (expr : Expr) :
    parse tokens maxDepth = .ok expr ↔
      nestsWithin maxDepth 0 tokens = true ∧ read? (tokens.map Located.token) = some expr ∧
        expr.depth ≤ maxDepth := by
  by_cases nested : nestsWithin maxDepth 0 tokens = true
  · cases read : read? (tokens.map Located.token) with
    | none =>
      obtain ⟨stuck?, failed, -⟩ := parse_of_unread nested read
      simp [failed]
    | some found =>
      rw [parse_of_read nested read]
      by_cases shallow : found.depth ≤ maxDepth
      · simp only [if_pos shallow, nested, Except.ok.injEq, Option.some.injEq, true_and,
          iff_self_and]
        rintro rfl
        exact shallow
      · simp only [if_neg shallow, reduceCtorEq, nested, Option.some.injEq, true_and, false_iff,
          not_and]
        rintro rfl
        exact shallow
  · simp [parse, nested]

/-- Reading finds a token that does not fit, or the end where more is due. -/
theorem positioned_cases (stuck? : Option Stuck) (tokens : List Located) :
    (∃ position found expected,
      positioned stuck? tokens = .unexpectedToken position found expected) ∨
      ∃ expected, positioned stuck? tokens = .unexpectedEnd expected := by
  unfold positioned
  split
  · exact .inr ⟨_, rfl⟩
  · split
    · exact .inl ⟨_, _, _, rfl⟩
    · exact .inr ⟨_, rfl⟩

theorem parse_eq_tooDeep_iff (tokens : List Located) (maxDepth : Nat) :
    parse tokens maxDepth = .error (.tooDeep maxDepth) ↔
      nestsWithin maxDepth 0 tokens = false ∨
        ∃ expr, read? (tokens.map Located.token) = some expr ∧ maxDepth < expr.depth := by
  by_cases nested : nestsWithin maxDepth 0 tokens = true
  · cases read : read? (tokens.map Located.token) with
    | none =>
      obtain ⟨stuck?, failed, -⟩ := parse_of_unread nested read
      -- reading by itself knows no limit
      obtain ⟨_, _, _, same⟩ | ⟨_, same⟩ := positioned_cases stuck? tokens <;>
        simp [failed, same, nested]
    | some found =>
      rw [parse_of_read nested read]
      by_cases shallow : found.depth ≤ maxDepth
      · simp [nested, shallow]
      · simp [nested, shallow, Nat.not_le.mp shallow]
  · simp [parse, nested]

/-- What parsing answers, in terms of the grammar alone: it gives a tree exactly
if brackets stay within the limit, the tokens derive that tree, and the tree is
no taller than the limit. Tokens derive at most one tree, and the depth error
stands for a bracket or a tree over the limit and for nothing else. -/
theorem parse_exact (tokens : List Located) (maxDepth : Nat) :
    let words := tokens.map Located.token
    (∀ expr, parse tokens maxDepth = .ok expr ↔
      BracketsWithin maxDepth words ∧ Derives .disjunction words expr ∧ expr.height ≤ maxDepth) ∧
    (∀ first second, Derives .disjunction words first → Derives .disjunction words second →
      first = second) ∧
    (parse tokens maxDepth = .error (.tooDeep maxDepth) ↔
      ¬ BracketsWithin maxDepth words ∨
        ∃ expr, Derives .disjunction words expr ∧ maxDepth < expr.height) := by
  refine ⟨fun expr => ?_, fun first second derivesFirst derivesSecond => ?_, ?_⟩
  · rw [parse_eq_ok_iff, nestsWithin_iff_bracketsWithin, read?_eq_some_iff_derives,
      Expr.depth_le_iff]
  · have readFirst := (read?_eq_some_iff_derives _ first).mpr derivesFirst
    have readSecond := (read?_eq_some_iff_derives _ second).mpr derivesSecond
    exact Option.some.inj (readFirst.symm.trans readSecond)
  · rw [parse_eq_tooDeep_iff, ← Bool.not_eq_true, nestsWithin_iff_bracketsWithin]
    refine or_congr Iff.rfl (exists_congr fun expr => ?_)
    rw [read?_eq_some_iff_derives, ← Nat.not_le, Expr.depth_le_iff, Nat.not_le]

end Rulebook.Script
