import Mathlib.Data.List.Sort
import Mathlib.Data.String.Basic
import Rulebook.Proofs.Script.ParserExactness

/-! Syntax errors are exact. A list of tokens is viable if some expression begins
with it; reading gets through exactly the viable lists, so it stops at the first
token that leaves none. What an error lists is what could have stood at its
place, in terms of the grammar alone. -/
namespace Rulebook.Script
open Rulebook.Numeric Rulebook.Script.Reader Rulebook.Text

/-- Some expression begins with these tokens. -/
def Viable (tokens : List Token) : Prop :=
  ∃ rest expr, Derives .disjunction (tokens ++ rest) expr

/-- A value may come next: there is a literal that keeps the tokens viable. -/
def OperandDue (before : List Token) : Prop :=
  ∃ token value, Token.literal? token = some value ∧ Viable (before ++ [token])

/-- The last token is an operator written before its operand, or a power sign. A
minus is such an operator where an operand was due. -/
def AfterPrefix (before : List Token) : Prop :=
  (∃ (earlier : List Token) (op : UnaryOp), before = earlier ++ [.symbol op.symbol] ∧
    OperandDue earlier) ∨
  ∃ earlier, before = earlier ++ [.symbol BinaryOp.power.symbol]

/-- The tokens that an expectation stands for. A value stands for all tokens
that an expression can begin with. -/
def Expectation.StandsFor : Expectation → Token → Prop
  | .symbol which, token => token = .symbol which
  | .operand, token => Viable [token]
  | .finish, _ => False

/-- A list names what may follow some tokens, and nothing else. -/
structure NamesContinuations (before : List Token) (expected : List Expectation) : Prop where
  /-- The texts ascend, so none comes twice. -/
  ascending : (expected.map Expectation.text).Pairwise (· < ·)
  /-- What is named are the tokens that keep the list viable. -/
  tokens : ∀ token, (∃ expectation ∈ expected, expectation.StandsFor token) ↔
    Viable (before ++ [token])
  /-- A value is named where one may stand. -/
  operand : .operand ∈ expected ↔ OperandDue before
  /-- Of the symbols that begin a value, beside a value only prefix operators are
  named, and those after a prefix operator or a power sign only. -/
  beside : .operand ∈ expected → ∀ which : Symbol, Viable [.symbol which] →
    (.symbol which ∈ expected ↔
      (∃ op : UnaryOp, which = op.symbol) ∧ AfterPrefix before)
  /-- The end is named after a whole expression. -/
  finish : .finish ∈ expected ↔ ∃ expr, Derives .disjunction before expr

/-- What begins a viable list is viable. -/
theorem Viable.take {tokens : List Token} (viable : Viable tokens) (count : Nat) :
    Viable (tokens.take count) := by
  obtain ⟨rest, expr, derives⟩ := viable
  refine ⟨tokens.drop count ++ rest, expr, ?_⟩
  rwa [← List.append_assoc, List.take_append_drop]

namespace Reader

/-- Completing all operators leads to a bracket or to the outside. -/
theorem settle_zero (expr : Expr) (frames : List Frame) :
    ∃ whole pending, settle 0 expr frames = settle 0 whole pending ∧
      (pending = [] ∨ ∃ outer, outer.length < frames.length ∧
        (pending = .group :: outer ∨ ∃ function done, pending = .call function done :: outer)) := by
  induction frames generalizing expr with
  | nil => exact ⟨expr, [], rfl, .inl rfl⟩
  | cons frame outer ih =>
    have longer {length : Nat} (shorter : length < outer.length) :
        length < (frame :: outer).length := Nat.lt_succ_of_lt shorter
    cases frame with
    | group => exact ⟨expr, _, rfl, .inr ⟨outer, Nat.lt_succ_self _, .inl rfl⟩⟩
    | call function done =>
      exact ⟨expr, _, rfl, .inr ⟨outer, Nat.lt_succ_self _, .inr ⟨function, done, rfl⟩⟩⟩
    | unary op =>
      obtain ⟨whole, pending, same, ended⟩ := ih (.unary op expr)
      refine ⟨whole, pending, same, ended.imp_right ?_⟩
      rintro ⟨inner, shorter, bracket⟩
      exact ⟨inner, longer shorter, bracket⟩
    | binary left op =>
      have positive : 0 < op.rightLevel := by cases op <;> decide
      obtain ⟨whole, pending, same, ended⟩ := ih (.binary op left expr)
      refine ⟨whole, pending, by rw [settle, if_pos positive, same], ended.imp_right ?_⟩
      rintro ⟨inner, shorter, bracket⟩
      exact ⟨inner, longer shorter, bracket⟩

theorem Holds.of_held (held : held? state = some (last, frames)) :
    ∃ whole pending, Holds state whole pending 1 ∧
      (pending = [] ∨ ∃ outer, outer.length < frames.length ∧
        (pending = .group :: outer ∨ ∃ function done, pending = .call function done :: outer)) := by
  obtain ⟨whole, pending, same, ended⟩ := settle_zero last frames
  refine ⟨whole, pending, ⟨last, frames, held, fun level below => ?_⟩, ended⟩
  obtain rfl : level = 0 := Nat.lt_one_iff.mp below
  exact same

/-- Where an operand is complete, closing the open brackets completes the
expression. -/
theorem completable_of_held (held : held? state = some (last, frames)) :
    ∃ rest final expr, advance? state rest = some final ∧ finish? final = some expr := by
  induction length : frames.length using Nat.strongRecOn generalizing state last frames with
  | ind length ih =>
    obtain ⟨whole, pending, holds, ended⟩ := Holds.of_held held
    rcases ended with rfl | ⟨outer, shorter, rfl | ⟨function, done, rfl⟩⟩
    · exact ⟨[], state, whole, rfl, holds.finish Nat.one_pos⟩
    · obtain ⟨rest, final, expr, read, finished⟩ :=
        ih outer.length (length ▸ shorter) (held_complete whole outer) rfl
      refine ⟨.symbol .rightParen :: rest, final, expr, ?_, finished⟩
      rw [advance?, holds.step_group Nat.one_pos, Option.bind_some, read]
    · obtain ⟨rest, final, expr, read, finished⟩ := ih outer.length (length ▸ shorter)
        (held_complete (.call function (done ++ [whole])) outer) rfl
      refine ⟨.symbol .rightParen :: rest, final, expr, ?_, finished⟩
      rw [advance?, holds.step_lastArgument Nat.one_pos, Option.bind_some, read]

/-- No state is a dead end. -/
theorem completable (state : ParseState) :
    ∃ rest final expr, advance? state rest = some final ∧ finish? final = some expr := by
  cases state with
  | complete expr pending => exact completable_of_held (held_complete expr pending)
  | name name pending => exact completable_of_held (held_name name pending)
  | operand pending =>
    obtain ⟨rest, final, expr, read, finished⟩ :=
      completable_of_held (held_complete (.literal .nil) pending)
    exact ⟨.symbol .nil :: rest, final, expr, read, finished⟩

/-- Reading gets through the viable lists and no others. -/
theorem viable_iff_advance? (tokens : List Token) :
    Viable tokens ↔ ∃ state, advance? (.operand []) tokens = some state := by
  constructor
  · rintro ⟨rest, expr, derives⟩
    obtain ⟨final, advanced, -⟩ := (derives_iff_advance? ..).mp derives
    rw [advance?_append] at advanced
    obtain ⟨state, read, -⟩ := Option.bind_eq_some_iff.mp advanced
    exact ⟨state, read⟩
  · rintro ⟨state, read⟩
    obtain ⟨rest, final, expr, advanced, finished⟩ := completable state
    refine ⟨rest, expr, (derives_iff_advance? ..).mpr ⟨final, ?_, finished⟩⟩
    rw [advance?_append, read, Option.bind_some, advanced]

section State

variable {before : List Token} {state : ParseState}

theorem viable_concat_iff (read : advance? (.operand []) before = some state) (token : Token) :
    Viable (before ++ [token]) ↔ ∃ next, step? state token = some next := by
  rw [viable_iff_advance?, advance?_append, read]
  simp [advance?]

theorem derivable_iff_finish? (read : advance? (.operand []) before = some state) :
    (∃ expr, Derives .disjunction before expr) ↔ (finish? state).isSome := by
  simp [derives_iff_advance?, read, Option.isSome_iff_exists]

/-- An expression can begin with a token exactly if an operand can. -/
theorem viable_singleton_iff (token : Token) : Viable [token] ↔ (begin? [] token).isSome := by
  have read : advance? (.operand []) [] = some (.operand []) := rfl
  rw [← List.nil_append [token], viable_concat_iff read, Option.isSome_iff_exists]
  rfl

/-- After an operand come operators, commas and closing brackets only. -/
theorem begin?_of_continue? (continued : continue? expr pending token = some next) :
    token = .symbol .minus ∨ begin? [] token = none := by
  rcases continue?_cases continued with ⟨op, rfl, -⟩ | ⟨_, _, rfl, -⟩ | ⟨_, _, _, _, rfl, -⟩ |
    ⟨_, _, _, _, rfl, -⟩
  · cases op <;> first | exact .inl rfl | exact .inr rfl
  all_goals exact .inr rfl

theorem operandDue_iff (read : advance? (.operand []) before = some state) :
    OperandDue before ↔ ∃ pending, state = .operand pending := by
  constructor
  · rintro ⟨token, value, written, viable⟩
    obtain ⟨next, stepped⟩ := (viable_concat_iff read token).mp viable
    rcases step?_cases stepped with ⟨pending, same, -⟩ | ⟨_, _, -, rfl, -⟩ | ⟨_, _, -, continued⟩
    · exact ⟨pending, same⟩
    · cases written
    · rcases begin?_of_continue? continued with rfl | refused
      · cases written
      · rw [begin?_literal written] at refused
        cases refused
  · rintro ⟨pending, rfl⟩
    exact ⟨.symbol .nil, .nil, rfl, (viable_concat_iff read _).mpr ⟨_, rfl⟩⟩

theorem prefixed_of_afterPrefix (read : advance? (.operand []) before = some state)
    (after : AfterPrefix before) : ∃ pending, state = .operand pending ∧ Prefixed pending := by
  rcases after with ⟨earlier, op, rfl, due⟩ | ⟨earlier, rfl⟩
  · rw [advance?_append] at read
    obtain ⟨between, readEarlier, last⟩ := Option.bind_eq_some_iff.mp read
    obtain ⟨pending, rfl⟩ := (operandDue_iff readEarlier).mp due
    have stepped : state = .operand (.unary op :: pending) := by
      cases op <;> exact (Option.some.inj last).symm
    exact ⟨_, stepped, .inl ⟨op, pending, rfl⟩⟩
  · rw [advance?_append] at read
    obtain ⟨between, readEarlier, last⟩ := Option.bind_eq_some_iff.mp read
    obtain ⟨next, stepped, same⟩ := Option.bind_eq_some_iff.mp last
    obtain rfl : next = state := Option.some.inj same
    rcases step?_cases stepped with ⟨pending, -, begun⟩ | ⟨_, _, -, bracket, -⟩ |
      ⟨left, frames, -, continued⟩
    · cases begun
    · cases bracket
    · rw [continue?_operator .power] at continued
      cases continued
      exact ⟨_, rfl, .inr ⟨_, _, rfl⟩⟩

theorem afterPrefix_of_prefixed (read : advance? (.operand []) before = some (.operand pending))
    (leading : Prefixed pending) : AfterPrefix before := by
  rcases List.eq_nil_or_concat before with rfl | ⟨earlier, token, rfl⟩
  · cases read
    rcases leading with ⟨_, _, empty⟩ | ⟨_, _, empty⟩ <;> cases empty
  · rw [List.concat_eq_append, advance?_append] at *
    obtain ⟨between, readEarlier, last⟩ := Option.bind_eq_some_iff.mp read
    obtain ⟨next, stepped, same⟩ := Option.bind_eq_some_iff.mp last
    obtain rfl : next = .operand pending := Option.some.inj same
    rcases step?_cases stepped with ⟨outer, rfl, begun⟩ | ⟨name, outer, -, -, called⟩ |
      ⟨left, frames, -, continued⟩
    · rcases begin?_cases begun with ⟨_, -, other⟩ | ⟨_, -, other⟩ | ⟨op, rfl, -⟩ | ⟨-, other⟩ |
        ⟨_, _, -, -, other⟩
      · cases other
      · cases other
      · exact .inl ⟨earlier, op, rfl, (operandDue_iff readEarlier).mpr ⟨outer, rfl⟩⟩
      · cases other
        rcases leading with ⟨_, _, other⟩ | ⟨_, _, other⟩ <;> cases other
      · cases other
    · cases called
      rcases leading with ⟨_, _, other⟩ | ⟨_, _, other⟩ <;> cases other
    · rcases continue?_cases continued with ⟨op, rfl, same⟩ | ⟨_, _, -, -, other⟩ |
        ⟨_, _, _, _, -, -, other⟩ | ⟨_, _, _, _, -, -, same⟩
      · cases same
        rcases leading with ⟨_, _, other⟩ | ⟨_, _, same⟩
        · cases other
        · cases same
          exact .inr ⟨earlier, rfl⟩
      · cases other
      · cases other
      · cases same
        rcases leading with ⟨_, _, other⟩ | ⟨_, _, other⟩ <;> cases other

end State

theorem tokens_expected_of_held (held : held? state = some (last, frames)) (token : Token) :
    (∃ expectation ∈ expected state, expectation.StandsFor token) ↔
      ∃ next, step? state token = some next := by
  constructor
  · rintro ⟨expectation, member, stands⟩
    cases expectation with
    | symbol which =>
      obtain rfl : token = .symbol which := stands
      exact (symbol_mem_expected held which).mp member
    | operand =>
      obtain ⟨pending, rfl⟩ := (operand_mem_expected state).mp member
      cases held
    | finish => exact stands.elim
  · rintro ⟨next, stepped⟩
    obtain ⟨which, rfl, -⟩ := symbol_of_step? held stepped
    exact ⟨.symbol which, (symbol_mem_expected held which).mpr ⟨next, stepped⟩, rfl⟩

theorem tokens_expected_operand (pending : List Frame) (token : Token) :
    (∃ expectation ∈ expected (.operand pending), expectation.StandsFor token) ↔
      ∃ next, step? (.operand pending) token = some next := by
  have begun : (∃ next, step? (.operand pending) token = some next) ↔
      (begin? pending token).isSome := Option.isSome_iff_exists.symm
  rw [begun, begin?_isSome_iff, ← viable_singleton_iff]
  constructor
  · rintro ⟨expectation, member, stands⟩
    rcases (mem_expected_operand ..).mp member with rfl | ⟨⟨op, rfl⟩, -⟩ | ⟨rfl, call⟩
    · exact .inl stands
    · obtain rfl : token = .symbol op.symbol := stands
      exact .inl ((viable_singleton_iff _).mpr (by cases op <;> rfl))
    · exact .inr ⟨stands, call⟩
  · rintro (starts | ⟨rfl, call⟩)
    · exact ⟨.operand, (mem_expected_operand ..).mpr (.inl rfl), starts⟩
    · exact ⟨.symbol .rightParen, (mem_expected_operand ..).mpr (.inr (.inr ⟨rfl, call⟩)), rfl⟩

/-- What a state expects names what may follow the tokens read. -/
theorem namesContinuations_expected (read : advance? (.operand []) before = some state) :
    NamesContinuations before (expected state) where
  ascending := ascending_expected state
  tokens token := by
    rw [viable_concat_iff read]
    cases state with
    | operand pending => exact tokens_expected_operand pending token
    | complete expr pending => exact tokens_expected_of_held (held_complete expr pending) token
    | name name pending => exact tokens_expected_of_held (held_name name pending) token
  operand := (operand_mem_expected state).trans (operandDue_iff read).symm
  beside member which starts := by
    obtain ⟨pending, rfl⟩ := (operand_mem_expected state).mp member
    have noEnd : which ≠ .rightParen := by
      rintro rfl
      cases (viable_singleton_iff _).mp starts
    have leading : AfterPrefix before ↔ Prefixed pending := by
      refine ⟨fun after => ?_, afterPrefix_of_prefixed read⟩
      obtain ⟨_, same, leading⟩ := prefixed_of_afterPrefix read after
      cases same
      exact leading
    simp [mem_expected_operand, noEnd, leading]
  finish := (finish_mem_expected state).trans (derivable_iff_finish? read).symm

/-- A token that is refused makes the tokens so far begin nothing. -/
theorem not_viable_of_refuses {words : List Token} {count : Nat} (inside : count < words.length)
    (read : advance? (.operand []) (words.take count) = some state)
    (refuses : Refuses state (words.drop count)) : ¬ Viable (words.take (count + 1)) := by
  rw [List.drop_eq_getElem_cons inside] at refuses
  have refused : step? state words[count] = none := refuses
  rw [List.take_succ_eq_append_getElem inside, viable_concat_iff read]
  rintro ⟨next, stepped⟩
  cases refused.symm.trans stepped

/-- There is always something that could come next. -/
theorem expected_ne_nil (read : advance? (.operand []) before = some state) :
    expected state ≠ [] := by
  have names := namesContinuations_expected read
  obtain ⟨rest, final, expr, advanced, finished⟩ := completable state
  intro empty
  rw [empty] at names
  cases rest with
  | nil =>
    cases advanced
    have whole := (derivable_iff_finish? read).mpr (Option.isSome_iff_exists.mpr ⟨expr, finished⟩)
    exact List.not_mem_nil (names.finish.mpr whole)
  | cons token rest =>
    obtain ⟨next, stepped, -⟩ := Option.bind_eq_some_iff.mp advanced
    have viable := (viable_concat_iff read token).mpr ⟨next, stepped⟩
    obtain ⟨_, member, -⟩ := (names.tokens token).mpr viable
    exact List.not_mem_nil member

end Reader

section Lists

variable {α : Type} [LinearOrder α] [BEq α] [LawfulBEq α]

private theorem eraseRepsBy_loop (rest : List α) (last : α) (kept : List α)
    (sorted : (last :: rest).Pairwise (· ≤ ·))
    (ascending : (kept.reverse ++ [last]).Pairwise (· < ·)) :
    (List.eraseRepsBy.loop (· == ·) last rest kept).Pairwise (· < ·) ∧
      ∀ element, element ∈ List.eraseRepsBy.loop (· == ·) last rest kept ↔
        element ∈ kept ∨ element = last ∨ element ∈ rest := by
  induction rest generalizing last kept with
  | nil => exact ⟨by simpa [List.eraseRepsBy.loop] using ascending, by
      simp [List.eraseRepsBy.loop, or_comm]⟩
  | cons next rest ih =>
    rw [List.pairwise_cons] at sorted
    by_cases same : last = next
    · subst same
      obtain ⟨still, members⟩ := ih last kept sorted.2 ascending
      simp only [List.eraseRepsBy.loop, BEq.rfl]
      exact ⟨still, fun element => by rw [members]; simp⟩
    · have less : last < next := lt_of_le_of_ne (sorted.1 next (by simp)) same
      have longer : ((last :: kept).reverse ++ [next]).Pairwise (· < ·) := by
        rw [List.reverse_cons, List.pairwise_append]
        refine ⟨ascending, List.pairwise_singleton .., fun element member => ?_⟩
        rw [List.pairwise_append] at ascending
        rcases List.mem_append.mp member with earlier | final
        · simpa using lt_trans (ascending.2.2 element earlier last (by simp)) less
        · simpa [List.mem_singleton.mp final] using less
      obtain ⟨still, members⟩ := ih next (last :: kept) sorted.2 longer
      simp only [List.eraseRepsBy.loop, beq_false_of_ne same]
      exact ⟨still, fun element => by rw [members]; simp [or_assoc, or_left_comm]⟩

/-- Of a sorted list without repetitions each element is left once. -/
theorem pairwise_lt_eraseReps {list : List α} (sorted : list.Pairwise (· ≤ ·)) :
    list.eraseReps.Pairwise (· < ·) ∧ ∀ element, element ∈ list.eraseReps ↔ element ∈ list := by
  cases list with
  | nil => exact ⟨.nil, fun _ => Iff.rfl⟩
  | cons first rest =>
    obtain ⟨ascending, members⟩ := eraseRepsBy_loop rest first [] sorted (by simp)
    exact ⟨ascending, fun element => (members element).trans (by simp)⟩

end Lists

/-- The text of what a parser names is the text of what it stands for. -/
theorem Expectation.text_pattern (expectation : Expectation) :
    expectation.pattern.text = expectation.text := by
  cases expectation <;> rfl

/-- However often and in whatever order parsers named what could have gone on, the list has
each text once, in alphabetical order. -/
theorem expectedList_eq {patterns : List Pattern} {expectations : List Expectation}
    (ascending : (expectations.map Expectation.text).Pairwise (· < ·)) (some : expectations ≠ [])
    (same : ∀ pattern, pattern ∈ patterns ↔ ∃ each ∈ expectations, pattern = each.pattern) :
    expectedList patterns = " or ".intercalate (expectations.map Expectation.text) := by
  have sorted : (patterns.map Pattern.text).mergeSort.Pairwise (· ≤ ·) := by
    refine (List.pairwise_mergeSort ?_ ?_ (patterns.map Pattern.text)).imp of_decide_eq_true
    · intro first second third
      simp only [decide_eq_true_eq]
      exact le_trans
    · intro first second
      simpa using le_total first second
  obtain ⟨strict, members⟩ := pairwise_lt_eraseReps sorted
  have texts : (patterns.map Pattern.text).mergeSort.eraseReps =
      expectations.map Expectation.text := by
    refine strict.eq_of_mem_iff ascending fun text => ?_
    rw [members, List.mem_mergeSort]
    simp only [List.mem_map, same]
    constructor
    · rintro ⟨_, ⟨each, member, rfl⟩, rfl⟩
      exact ⟨each, member, each.text_pattern.symm⟩
    · rintro ⟨each, member, rfl⟩
      exact ⟨_, ⟨each, member, rfl⟩, each.text_pattern⟩
  rw [expectedList, texts]
  split
  · rename_i empty
    exact absurd (List.map_eq_nil_iff.mp empty) some
  · rfl

/-- The error for a place where a parser got stuck and what a reader expects there. -/
theorem positioned_of_marks {tokens : List Located} {stuck? : Option Stuck} {count : Nat}
    {before : List Token} {final : ParseState} (within : count ≤ tokens.length)
    (read : advance? (.operand []) before = some final)
    (marks : Marks stuck? ⟨count, (tokens.map Located.token).drop count⟩ (Names final)) :
    positioned stuck? tokens =
      let texts := " or ".intercalate ((expected final).map Expectation.text)
      match tokens[count]? with
      | some located => .unexpectedToken located.start located.token.describe texts
      | none => .unexpectedEnd texts := by
  obtain ⟨first, others, listed⟩ := List.exists_cons_of_ne_nil (expected_ne_nil read)
  obtain ⟨stuck, got, here, -⟩ := (marks.patterns first.pattern).mp
    ⟨first, by rw [listed]; exact List.mem_cons_self .., rfl⟩
  obtain rfl : stuck? = some stuck := got
  have list : expectedList stuck.expected =
      " or ".intercalate ((expected final).map Expectation.text) := by
    refine expectedList_eq (ascending_expected final) (expected_ne_nil read) fun pattern => ?_
    refine Iff.trans ?_ (marks.patterns pattern).symm
    simp [here]
  have found : stuck.found = tokens[count]?.map Located.token := by
    rw [marks.found stuck rfl here, List.head?_drop, List.getElem?_map]
  obtain rfl : stuck.position = count := here
  rw [positioned, found, list]
  cases tokens[stuck.position]? <;> rfl

/-- How errors show a token: a symbol and a name as they are written, a number by its shortest
text, a text in quotes. -/
inductive Token.ShownAs : Token → String → Prop where
  | symbol (which : Symbol) : ShownAs (.symbol which) which.spelling
  | number (value : Double) : ShownAs (.number value) value.text
  | text (value : String) : ShownAs (.text value) (quoted value)
  | name (value : String) : ShownAs (.name value) value

theorem Token.shownAs_describe (token : Token) : token.ShownAs token.describe := by
  cases token <;> constructor

/-- What parsing answers where brackets stay within the limit and the tokens
derive no tree. If some tokens at the front begin no expression, the error is at
the first token that completes such a front; else it is at the end, which cuts an
expression short. Either way the error lists exactly what could have stood at
its place. -/
theorem syntax_error_exact (tokens : List Located) (maxDepth : Nat)
    (within : BracketsWithin maxDepth (tokens.map Located.token))
    (underivable : ∀ expr, ¬ Derives .disjunction (tokens.map Located.token) expr) :
    let words := tokens.map Located.token
    (∀ k (inside : k < tokens.length), ¬ Viable (words.take (k + 1)) →
      (∀ earlier < k, Viable (words.take (earlier + 1))) →
      ∃ found expectations, tokens[k].token.ShownAs found ∧
        NamesContinuations (words.take k) expectations ∧
        parse tokens maxDepth = .error (.unexpectedToken tokens[k].start found
          (" or ".intercalate (expectations.map Expectation.text)))) ∧
    ((∀ k < tokens.length, Viable (words.take (k + 1))) →
      (∃ rest expr, rest ≠ [] ∧ Derives .disjunction (words ++ rest) expr) ∧
      ∃ expectations, NamesContinuations words expectations ∧
        parse tokens maxDepth = .error (.unexpectedEnd
          (" or ".intercalate (expectations.map Expectation.text)))) := by
  intro words
  have nested := (nestsWithin_iff_bracketsWithin maxDepth tokens).mpr within
  have unread : read? words = none := by
    rw [Option.eq_none_iff_forall_ne_some]
    exact fun expr read => underivable expr ((read?_eq_some_iff_derives ..).mp read)
  obtain ⟨stuck?, failed, count, inside, final, read, refuses, marks⟩ :=
    parse_of_unread nested unread
  rw [List.length_map] at inside
  have error := positioned_of_marks inside read marks
  have names := namesContinuations_expected read
  have viable : Viable (words.take count) := (viable_iff_advance? _).mpr ⟨final, read⟩
  have dead (before : count < tokens.length) : ¬ Viable (words.take (count + 1)) :=
    not_viable_of_refuses (by simpa [words] using before) read refuses
  constructor
  · intro k before notViable earlier
    -- what is viable ends at the place where the parser got stuck, neither before nor behind it
    obtain rfl : count = k := by
      refine Nat.le_antisymm (Nat.not_lt.mp fun less => notViable ?_)
        (Nat.not_lt.mp fun less => dead (by omega) (earlier count less))
      simpa [List.take_take, Nat.min_eq_left less] using viable.take (k + 1)
    rw [error, List.getElem?_eq_getElem before] at failed
    exact ⟨_, expected final, Token.shownAs_describe _, names, failed⟩
  · intro all
    obtain rfl : count = tokens.length :=
      Nat.le_antisymm inside (Nat.not_lt.mp fun less => dead less (all count less))
    have whole : words.take tokens.length = words := List.take_of_length_le (by simp [words])
    rw [whole] at viable names
    rw [error, List.getElem?_eq_none (Nat.le_refl _)] at failed
    refine ⟨?_, expected final, names, failed⟩
    obtain ⟨rest, expr, derives⟩ := viable
    refine ⟨rest, expr, ?_, derives⟩
    rintro rfl
    exact underivable expr (by simpa using derives)

/-- The tokens of `max(nA,)`. -/
def trailingComma : List Located :=
  [⟨.name "max", 0, 3⟩, ⟨.symbol .leftParen, 3, 4⟩, ⟨.name "nA", 4, 6⟩, ⟨.symbol .comma, 6, 7⟩,
    ⟨.symbol .rightParen, 7, 8⟩]

theorem syntax_error_exact_trailingComma :
    BracketsWithin 64 (trailingComma.map Located.token) ∧
    (∀ expr, ¬ Derives .disjunction (trailingComma.map Located.token) expr) ∧
    ∃ found expectations, (Token.symbol .rightParen).ShownAs found ∧
      NamesContinuations ((trailingComma.map Located.token).take 4) expectations ∧
      parse trailingComma 64 = .error (.unexpectedToken 7 found
        (" or ".intercalate (expectations.map Expectation.text))) := by
  have within : BracketsWithin 64 (trailingComma.map Located.token) :=
    (nestsWithin_iff_bracketsWithin ..).mp rfl
  have underivable : ∀ expr, ¬ Derives .disjunction (trailingComma.map Located.token) expr := by
    intro expr derives
    cases (read?_eq_some_iff_derives ..).mpr derives
  refine ⟨within, underivable, ?_⟩
  refine (syntax_error_exact trailingComma 64 within underivable).1 4 (by decide) ?_ ?_
  · intro viable
    obtain ⟨state, read⟩ := (viable_iff_advance? _).mp viable
    cases read
  · intro earlier below
    obtain rfl | rfl | rfl | rfl : earlier = 0 ∨ earlier = 1 ∨ earlier = 2 ∨ earlier = 3 := by omega
    all_goals exact (viable_iff_advance? _).mpr ⟨_, rfl⟩

end Rulebook.Script
