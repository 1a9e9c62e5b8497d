import Rulebook.Proofs.Script.Combinators
import Rulebook.Proofs.Script.Reader
import Rulebook.Script.Expr.Parser

/-! How a parser goes, told by the reader. A parser that begins something either reads it as
the reader does, or it is halted: the reader gets to a token that no expression goes on with,
the parser got stuck there and nowhere further, and whatever value it still gives ends
earlier, before a token that nothing around takes either. Parsers that repeat or enclose
others go as those do. -/
namespace Rulebook.Script

/-- What a parser names where this could have stood. -/
def Expectation.pattern : Expectation → Pattern
  | .symbol which => .token (.symbol which)
  | .operand => .label "a value"
  | .finish => .finish

namespace Reader

/-- Reading leads from one place to another. -/
inductive Leads : Cursor → ParseState → Cursor → ParseState → Prop where
  | refl (cursor : Cursor) (state : ParseState) : Leads cursor state cursor state
  | step (stepped : step? state token = some between)
      (onward : Leads ⟨position + 1, rest⟩ between next final) :
      Leads ⟨position, token :: rest⟩ state next final

namespace Leads

theorem one {cursor : Cursor} (here : cursor.rest = token :: rest)
    (stepped : step? state token = some next) :
    Leads cursor state ⟨cursor.position + 1, rest⟩ next := by
  obtain ⟨position, tokens⟩ := cursor
  obtain rfl : tokens = token :: rest := here
  exact .step stepped (.refl ..)

theorem trans (first : Leads cursor state next between) (second : Leads next between last final) :
    Leads cursor state last final := by
  induction first with
  | refl cursor state => exact second
  | step stepped onward ih => exact .step stepped (ih second)

theorem position_le (leads : Leads cursor state next final) : cursor.position ≤ next.position := by
  induction leads with
  | refl cursor state => exact Nat.le_refl _
  | step stepped onward ih => exact Nat.le_of_succ_le ih

/-- What is read is no longer left. -/
theorem position_add_length (leads : Leads cursor state next final) :
    cursor.position + cursor.rest.length = next.position + next.rest.length := by
  induction leads with
  | refl cursor state => rfl
  | step stepped onward ih =>
    rw [← ih]
    simp only [List.length_cons]
    omega

theorem of_position_eq (leads : Leads cursor state next final)
    (same : next.position = cursor.position) : next = cursor ∧ final = state := by
  cases leads with
  | refl => exact ⟨rfl, rfl⟩
  | step stepped onward => exact absurd same (Nat.ne_of_gt onward.position_le)

theorem length_lt (leads : Leads cursor state next final)
    (further : cursor.position < next.position) : next.rest.length < cursor.rest.length := by
  have same := leads.position_add_length
  omega

/-- Reading that leads somewhere reads the tokens in between. -/
theorem advance? {words : List Token} (leads : Leads ⟨position, words⟩ state next final) :
    ∃ count ≤ words.length, next = ⟨position + count, words.drop count⟩ ∧
      Reader.advance? state (words.take count) = some final := by
  generalize same : Cursor.mk position words = cursor at leads
  induction leads generalizing position words with
  | refl cursor state =>
    subst same
    exact ⟨0, Nat.zero_le _, rfl, rfl⟩
  | step stepped onward ih =>
    cases same
    obtain ⟨count, within, place, read⟩ := ih rfl
    refine ⟨count + 1, Nat.succ_le_succ within, ?_, ?_⟩
    · rw [place, Nat.add_assoc, Nat.add_comm 1, List.drop_succ_cons]
    · rw [List.take_succ_cons, Reader.advance?, stepped, Option.bind_some, read]

end Leads

/-- No expression goes on with what is left. -/
def Refuses (state : ParseState) : List Token → Prop
  | [] => finish? state = none
  | token :: _ => step? state token = none

/-- What could come next in a state, as parsers name it. -/
def Names (state : ParseState) (pattern : Pattern) : Prop :=
  ∃ expectation ∈ expected state, pattern = expectation.pattern

/-- Tokens that a phrase of a layer goes on with. -/
def Takes (layer : Layer) (state : ParseState) (token : Token) : Prop :=
  (token = .symbol .leftParen ∧ ∃ name pending, state = .name name pending) ∨
    ∃ op : BinaryOp, layer.rank ≤ op.level ∧ token = .symbol op.symbol

/-- Tokens that stay behind where a phrase of a layer was given up: no phrase around it goes
on with them. -/
def Hinders (layer : Layer) (token : Token) : Prop :=
  token = .symbol .leftParen ∨ ∃ op : BinaryOp, layer.rank ≤ op.level ∧ token = .symbol op.symbol

/-- A value begins here. -/
def Begins (cursor : Cursor) : Prop :=
  ∃ token, cursor.rest.head? = some token ∧ (begin? [] token).isSome

/-- The tokens after which a bracket, if there is one, goes on. -/
def Closes : List Frame → Token → Prop
  | .group :: _, token => token = .symbol .rightParen
  | .call _ _ :: _, token => token = .symbol .rightParen ∨ token = .symbol .comma
  | _, _ => False

/-- How reading something may go that has begun. -/
inductive Goes {α : Type} (sought : ParseState → Token → Prop) (hinders : Token → Prop)
    (keeps : α → ParseState → Prop) (start : Nat) (cursor : Cursor) (state : ParseState)
    (attempt : Attempt α) : Prop where
  /-- It is read, and what could have been more of it does not come next. -/
  | read {value : α} {next : Cursor} {final : ParseState}
      (given : attempt.value? = some (value, next)) (leads : Leads cursor state next final)
      (further : start < next.position) (kept : keeps value final)
      (missed : Missed (sought final) attempt.stuck? next)
  /-- No expression goes on with a later token. A value that is given in spite of it ends
  earlier, where nothing can be made of it. -/
  | halted {place : Cursor} {final : ParseState} (leads : Leads cursor state place final)
      (further : start < place.position) (refuses : Refuses final place.rest)
      (marks : Marks attempt.stuck? place (Names final))
      (short : ∀ value next, attempt.value? = some (value, next) →
        next.position < place.position ∧
          ∃ token, next.rest.head? = some token ∧ hinders token)

/-- How reading a phrase of a layer may go where an operand is due. -/
inductive Attempted (layer : Layer) (pending : List Frame) (cursor : Cursor)
    (attempt : Attempt Expr) : Prop where
  | idle (blank : ¬ Begins cursor) (none : attempt.value? = none)
      (marks : Marks attempt.stuck? cursor (· = .label "a value"))
  | begun (begins : Begins cursor)
      (goes : Goes (Takes layer) (Hinders layer)
        (fun expr final => Holds final expr pending layer.bound) cursor.position cursor
        (.operand pending) attempt)

/-- A parser reads the phrases of a layer wherever not too many tokens are left. Layers below
the operators before an operand leave those to others. -/
def Follows (layer : Layer) (bound : Nat) (parser : Parser Expr) : Prop :=
  ∀ pending cursor, required pending ≤ layer.rank → cursor.rest.length < bound →
    (Layer.prefixed.rank < layer.rank →
      ∀ op : UnaryOp, cursor.rest.head? ≠ some (.symbol op.symbol)) →
    Attempted layer pending cursor (parser cursor)

section State

variable {state : ParseState} {expr : Expr} {pending : List Frame} {token : Token}

theorem begin?_isSome_iff (pending : List Frame) (token : Token) :
    (begin? pending token).isSome ↔ (begin? [] token).isSome ∨
      (token = .symbol .rightParen ∧ ∃ function outer, pending = .call function [] :: outer) := by
  cases token with
  | symbol which =>
    cases which with
    | rightParen =>
      simp only [begin?]
      split <;> simp_all
    | _ => simp [begin?]
  | number value => simp [begin?]
  | text value => simp [begin?]
  | name name => simp [begin?]

theorem refuses_operand {cursor : Cursor} (blank : ¬ Begins cursor)
    (noEnd : cursor.rest.head? = some (.symbol .rightParen) →
      ∀ function outer, pending ≠ .call function [] :: outer) :
    Refuses (.operand pending) cursor.rest := by
  obtain ⟨position, rest⟩ := cursor
  cases rest with
  | nil => rfl
  | cons token rest =>
    change begin? pending token = none
    rw [← Option.not_isSome_iff_eq_none, begin?_isSome_iff]
    rintro (begins | ⟨rfl, function, outer, same⟩)
    · exact blank ⟨token, rfl, begins⟩
    · exact noEnd rfl function outer same

theorem names_operand (pending : List Frame) (pattern : Pattern) :
    Names (.operand pending) pattern ↔
      pattern = .label "a value" ∨
      (∃ op : UnaryOp, pattern = .token (.symbol op.symbol)) ∧ Prefixed pending ∨
      pattern = .token (.symbol .rightParen) ∧
        ∃ function outer, pending = .call function [] :: outer := by
  unfold Names
  constructor
  · rintro ⟨expectation, member, rfl⟩
    rcases (mem_expected_operand ..).mp member with rfl | ⟨⟨op, rfl⟩, leading⟩ | ⟨rfl, call⟩
    · exact .inl rfl
    · exact .inr (.inl ⟨⟨op, rfl⟩, leading⟩)
    · exact .inr (.inr ⟨rfl, call⟩)
  · rintro (rfl | ⟨⟨op, rfl⟩, leading⟩ | ⟨rfl, call⟩)
    · exact ⟨.operand, (mem_expected_operand ..).mpr (.inl rfl), rfl⟩
    · exact ⟨.symbol op.symbol, (mem_expected_operand ..).mpr (.inr (.inl ⟨⟨op, rfl⟩, leading⟩)),
        rfl⟩
    · exact ⟨.symbol .rightParen, (mem_expected_operand ..).mpr (.inr (.inr ⟨rfl, call⟩)), rfl⟩

/-- What comes after a phrase that a bracket encloses, or nothing does. -/
theorem Holds.step?_iff (holds : Holds state expr pending bound) (positive : 0 < bound)
    (settled : settle 0 expr pending = (expr, pending)) (token : Token) :
    (∃ next, step? state token = some next) ↔
      Takes .disjunction state token ∨ Closes pending token := by
  constructor
  · rintro ⟨next, stepped⟩
    obtain ⟨last, frames, held, same⟩ := holds
    have inside : settle 0 last frames = (expr, pending) := (same 0 positive).trans settled
    rcases step?_cases stepped with ⟨_, rfl, -⟩ | ⟨name, outer, rfl, rfl, -⟩ |
      ⟨last', frames', held', continued⟩
    · cases held
    · exact .inl (.inl ⟨rfl, name, outer, rfl⟩)
    · cases held.symm.trans held'
      rcases continue?_cases continued with ⟨op, rfl, -⟩ | ⟨_, _, rfl, ends, -⟩ |
        ⟨_, _, _, _, rfl, ends, -⟩ | ⟨_, _, _, _, rfl, ends, -⟩
      · exact .inl (.inr ⟨op, op.rank_layer ▸ op.layer.rank_pos, rfl⟩)
      · cases inside.symm.trans ends
        exact .inr rfl
      · cases inside.symm.trans ends
        exact .inr (.inl rfl)
      · cases inside.symm.trans ends
        exact .inr (.inr rfl)
  · rintro ((⟨rfl, name, outer, rfl⟩ | ⟨op, -, rfl⟩) | closes)
    · exact ⟨_, rfl⟩
    · obtain ⟨last, frames, held, -⟩ := holds
      have notBracket : Token.symbol op.symbol ≠ .symbol .leftParen := by cases op <;> decide
      exact ⟨_, (step?_of_held held notBracket).trans (continue?_operator op)⟩
    · cases pending with
      | nil => exact closes.elim
      | cons frame outer =>
        cases frame with
        | unary op => exact closes.elim
        | binary left op => exact closes.elim
        | group =>
          obtain rfl : token = .symbol .rightParen := closes
          exact ⟨_, holds.step_group positive⟩
        | call function done =>
          rcases closes with rfl | rfl
          · exact ⟨_, holds.step_lastArgument positive⟩
          · exact ⟨_, holds.step_comma positive⟩

theorem Holds.finish?_isSome_iff (holds : Holds state expr pending bound) (positive : 0 < bound)
    (settled : settle 0 expr pending = (expr, pending)) :
    (finish? state).isSome ↔ pending = [] := by
  obtain ⟨last, frames, held, same⟩ := holds
  have inside : settle 0 last frames = (expr, pending) := (same 0 positive).trans settled
  have whole : (finish?.whole? last frames).isSome ↔ pending = [] := by
    rw [finish?.whole?, inside]
    cases pending <;> simp
  cases state with
  | operand pending => cases held
  | complete expr pending => cases held; exact whole
  | name name pending => cases held; exact whole

theorem Holds.names_iff (holds : Holds state expr pending bound) (positive : 0 < bound)
    (settled : settle 0 expr pending = (expr, pending)) (pattern : Pattern) :
    Names state pattern ↔
      (∃ token, (Takes .disjunction state token ∨ Closes pending token) ∧
        pattern = .token token) ∨ (pending = [] ∧ pattern = .finish) := by
  have comes := holds.step?_iff positive settled
  have ends := holds.finish?_isSome_iff positive settled
  obtain ⟨last, frames, held, -⟩ := holds
  constructor
  · rintro ⟨expectation, member, rfl⟩
    cases expectation with
    | symbol which =>
      exact .inl ⟨.symbol which, (comes _).mp ((symbol_mem_expected held which).mp member), rfl⟩
    | operand =>
      obtain ⟨_, rfl⟩ := (operand_mem_expected state).mp member
      cases held
    | finish => exact .inr ⟨ends.mp ((finish_mem_expected state).mp member), rfl⟩
  · rintro (⟨token, may, rfl⟩ | ⟨none, rfl⟩)
    · obtain ⟨next, stepped⟩ := (comes token).mpr may
      obtain ⟨which, rfl, -⟩ := symbol_of_step? held stepped
      exact ⟨.symbol which, (symbol_mem_expected held which).mpr ⟨next, stepped⟩, rfl⟩
    · exact ⟨.finish, (finish_mem_expected state).mpr (ends.mpr none), rfl⟩

theorem Holds.refuses {rest : List Token} (holds : Holds state expr pending bound)
    (positive : 0 < bound) (settled : settle 0 expr pending = (expr, pending))
    (absent : ∀ token, rest.head? = some token →
      ¬ (Takes .disjunction state token ∨ Closes pending token))
    (more : pending = [] → rest ≠ []) : Refuses state rest := by
  cases rest with
  | nil =>
    change finish? state = none
    rw [← Option.not_isSome_iff_eq_none, holds.finish?_isSome_iff positive settled]
    exact fun empty => more empty rfl
  | cons token rest =>
    change step? state token = none
    rw [Option.eq_none_iff_forall_ne_some]
    intro next stepped
    exact absent token rfl ((holds.step?_iff positive settled token).mp ⟨next, stepped⟩)

end State

namespace Goes

variable {α β : Type} {sought : ParseState → Token → Prop} {hinders : Token → Prop}
  {keeps : α → ParseState → Prop} {start : Nat} {cursor : Cursor} {state : ParseState}
  {attempt : Attempt α}

theorem weaken (goes : Goes sought hinders keeps start cursor state attempt)
    (earlier : first ≤ start) : Goes sought hinders keeps first cursor state attempt := by
  cases goes with
  | read given leads further kept missed =>
    exact .read given leads (Nat.lt_of_le_of_lt earlier further) kept missed
  | halted leads further refuses marks short =>
    exact .halted leads (Nat.lt_of_le_of_lt earlier further) refuses marks short

theorem behind (goes : Goes sought hinders keeps start cursor state attempt)
    (leads : Leads before begun cursor state) :
    Goes sought hinders keeps start before begun attempt := by
  cases goes with
  | read given onward further kept missed =>
    exact .read given (leads.trans onward) further kept missed
  | halted onward further refuses marks short =>
    exact .halted (leads.trans onward) further refuses marks short

theorem imp (goes : Goes sought hinders keeps start cursor state attempt)
    {more : α → ParseState → Prop} (kept : ∀ value final, keeps value final → more value final) :
    Goes sought hinders more start cursor state attempt := by
  cases goes with
  | read given leads further keep missed =>
    exact .read given leads further (kept _ _ keep) missed
  | halted leads further refuses marks short =>
    exact .halted leads further refuses marks short

theorem map (goes : Goes sought hinders keeps start cursor state attempt) (make : α → β)
    {more : β → ParseState → Prop}
    (kept : ∀ value final, keeps value final → more (make value) final) :
    Goes sought hinders more start cursor state
      ⟨attempt.value?.map (Prod.map make id), attempt.stuck?⟩ := by
  cases goes with
  | read given leads further keep missed =>
    exact .read (by rw [given]; rfl) leads further (kept _ _ keep) missed
  | halted leads further refuses marks short =>
    refine .halted leads further refuses marks fun value next made => ?_
    obtain ⟨⟨source, _⟩, given, same⟩ := Option.map_eq_some_iff.mp made
    cases same
    exact short source _ given

/-- What got stuck before does not count. -/
theorem after {known : Option Stuck} (goes : Goes sought hinders keeps start cursor state attempt)
    (within : Stuck.Within start known) :
    Goes sought hinders keeps start cursor state
      ⟨attempt.value?, Stuck.furthest known attempt.stuck?⟩ := by
  cases goes with
  | read given leads further kept missed =>
    exact .read given leads further kept (missed.after within further)
  | halted leads further refuses marks short =>
    exact .halted leads further refuses (marks.after within further) short

/-- A label does not show behind the first token. -/
theorem labelled {parser : Parser α} (label : String)
    (goes : Goes sought hinders keeps cursor.position cursor state (parser cursor)) :
    Goes sought hinders keeps cursor.position cursor state (parser.labelled label cursor) := by
  cases goes with
  | read given leads further kept missed =>
    exact .read given leads further kept
      ⟨missed.absent, Parser.marks_labelled_further missed.marks further⟩
  | halted leads further refuses marks short =>
    exact .halted leads further refuses (Parser.marks_labelled_further marks further) short

end Goes

/-- Where only a value could come, not even beginning one is an end too. -/
theorem Attempted.goes {layer : Layer} {pending : List Frame} {next : Cursor}
    {attempt : Attempt Expr} {known : Option Stuck} {named : Pattern → Prop}
    (attempted : Attempted layer pending next attempt)
    (leads : Leads cursor state next (.operand pending)) (further : start < next.position)
    (marks : Marks known next named)
    (names : ∀ pattern,
      Names (.operand pending) pattern ↔ named pattern ∨ pattern = .label "a value")
    (plain : ∀ function outer, pending ≠ .call function [] :: outer) :
    Goes (Takes layer) (Hinders layer) (fun expr final => Holds final expr pending layer.bound)
      start cursor state ⟨attempt.value?, Stuck.furthest known attempt.stuck?⟩ := by
  cases attempted with
  | idle blank none labelled =>
    refine .halted leads further (refuses_operand blank fun _ => plain)
      ((marks.furthest labelled).congr names) fun value next given => ?_
    rw [none] at given
    cases given
  | begun begins goes =>
    exact ((goes.after marks.within).behind leads).weaken (Nat.le_of_lt further)

/-- Where no value begins, a parser with a label says so. -/
theorem Attempted.of_refused {layer : Layer} {pending : List Frame} {cursor : Cursor}
    {body : Parser Expr} {stuck? : Option Stuck} {named : Pattern → Prop}
    (blank : ¬ Begins cursor) (refused : body cursor = ⟨none, stuck?⟩)
    (marks : Marks stuck? cursor named) (any : ∃ pattern, named pattern) :
    Attempted layer pending cursor (body.labelled "a value" cursor) := by
  refine .idle blank (congrArg Attempt.value? refused) (Parser.marks_labelled_here ?_ any)
  rw [refused]
  exact marks

section Repetition

variable {α β : Type} {item : Parser α} {own : Token → Prop}
  {sought : ParseState → Token → Prop} {hinders : Token → Prop}
  {good : (List α → β) → ParseState → Prop} {bound : Nat}

/-- Items that come one after another. Each begins with a token of its own and goes on from
what was kept of those before it; where one is given up, no other begins. -/
structure Items (item : Parser α) (own : Token → Prop) (sought : ParseState → Token → Prop)
    (hinders : Token → Prop) (good : (List α → β) → ParseState → Prop) (bound : Nat) : Prop where
  skips : ∀ cursor, (∀ token, cursor.rest.head? = some token → ¬ own token) →
    (item cursor).value? = none ∧ Missed own (item cursor).stuck? cursor
  rounds : ∀ make cursor state token, cursor.rest.length < bound →
    cursor.rest.head? = some token → own token → good make state →
    Goes sought hinders (fun value final => good (fun more => make (value :: more)) final)
      cursor.position cursor state (item cursor)
  apart : ∀ token, hinders token → ¬ own token

/-- Before a token that no item begins with, a repetition reads nothing. -/
theorem repeatedWithin_of_blocked {token : Token}
    (items : Items item own sought hinders good bound)
    (there : cursor.rest.head? = some token) (other : ¬ own token) (fuel : Nat) :
    (item.repeatedWithin fuel cursor).value? = some ([], cursor) ∧
      Stuck.Within cursor.position (item.repeatedWithin fuel cursor).stuck? := by
  cases fuel with
  | zero => exact ⟨rfl, .none⟩
  | succ fuel =>
    obtain ⟨none, missed⟩ := items.skips cursor (by simp [there, other])
    rw [Parser.repeatedWithin_of_none fuel none]
    exact ⟨rfl, missed.marks.within⟩

/-- A repetition goes as its items do. What the items read so far make of those to come is kept
from one to the next. -/
theorem repeatedWithin_goes
    (items : Items item own sought hinders good bound)
    {make : List α → β} {cursor : Cursor} {state : ParseState} {known : Option Stuck}
    (fuel : Nat) (enough : cursor.rest.length < fuel) (room : cursor.rest.length < bound)
    (begun : start < cursor.position) (kept : good make state)
    (missed : Missed (sought state) known cursor) :
    Goes (fun final token => sought final token ∨ own token)
      (fun token => hinders token ∨ own token)
      (fun values final => good (fun more => make (values ++ more)) final) start cursor state
      ⟨(item.repeatedWithin fuel cursor).value?,
        Stuck.furthest known (item.repeatedWithin fuel cursor).stuck?⟩ := by
  induction fuel generalizing make cursor state known start with
  | zero => cases enough
  | succ fuel ih =>
    by_cases comes : ∃ token, cursor.rest.head? = some token ∧ own token
    · obtain ⟨token, here, wanted⟩ := comes
      have within := missed.marks.within
      cases items.rounds make cursor state token room here wanted kept with
      | read given leads further still past =>
        rename_i value next final
        have shorter := leads.length_lt further
        have rest := ih (by omega) (by omega) (Nat.lt_trans begun further) still
          (past.after within further)
        rw [Parser.repeatedWithin_of_some fuel given]
        simp only [← Stuck.furthest_assoc]
        exact (rest.behind leads).map (value :: ·) fun values final kept => kept
      | halted leads further refuses marks short =>
        rename_i place final
        have later := Nat.lt_trans begun further
        cases given : (item cursor).value? with
        | none =>
          rw [Parser.repeatedWithin_of_none fuel given]
          refine .halted leads later refuses (marks.after within further) ?_
          rintro values next ⟨⟩
          exact ⟨further, token, here, .inr wanted⟩
        | some read =>
          obtain ⟨value, next⟩ := read
          obtain ⟨early, blocked, there, hindered⟩ := short value next given
          -- what is left behind is no item either, so the repetition ends with this one
          obtain ⟨nothing, places⟩ :=
            repeatedWithin_of_blocked items there (items.apart blocked hindered) fuel
          rw [Parser.repeatedWithin_of_some fuel given, nothing]
          refine .halted leads later refuses ((marks.before places early).after within further) ?_
          rintro values last ⟨⟩
          exact ⟨early, blocked, there, .inl hindered⟩
    · obtain ⟨none, past⟩ :=
        items.skips cursor fun token here wanted => comes ⟨token, here, wanted⟩
      rw [Parser.repeatedWithin_of_none fuel none]
      exact .read rfl (.refl ..) begun kept (missed.furthest past)

/-- A first operand and then a repetition. -/
theorem repeated_goes {γ : Type} {operand : Parser γ} {fold : γ → List α → β}
    (items : Items item own sought hinders good bound)
    {cursor : Cursor} {state : ParseState} (room : cursor.rest.length < bound)
    (goes : Goes sought hinders (fun first final => good (fold first) final) cursor.position cursor
      state (operand cursor)) :
    Goes (fun final token => sought final token ∨ own token)
      (fun token => hinders token ∨ own token)
      (fun whole final => ∃ make, good make final ∧ whole = make []) cursor.position cursor state
      ((do return fold (← operand) (← item.repeated) : Parser β) cursor) := by
  cases goes with
  | read given leads further kept missed =>
    rename_i first between state
    have shorter := leads.length_lt further
    have rest := repeatedWithin_goes items (between.rest.length + 1)
      (Nat.lt_succ_self _) (by omega) further kept missed
    rw [Parser.both_apply fold given]
    refine (rest.behind leads).map (fold first) fun values final kept => ?_
    exact ⟨_, kept, by rw [List.append_nil]⟩
  | halted leads further refuses marks short =>
    cases given : (operand cursor).value? with
    | none =>
      rw [Parser.bind_of_none given]
      exact .halted leads further refuses marks nofun
    | some read =>
      obtain ⟨first, next⟩ := read
      obtain ⟨early, blocked, there, hindered⟩ := short first next given
      obtain ⟨nothing, places⟩ :=
        repeatedWithin_of_blocked items there (items.apart blocked hindered) (next.rest.length + 1)
      rw [Parser.both_apply fold given]
      refine .halted leads further refuses (marks.before places early) fun values last given => ?_
      change ((item.repeatedWithin (next.rest.length + 1) next).value?.map _) = _ at given
      rw [nothing] at given
      cases given
      exact ⟨early, blocked, there, .inl hindered⟩

end Repetition

section Brackets

variable {α : Type} {body : Parser α} {attempt : Attempt α} {keeps : α → ParseState → Prop}
  {cursor : Cursor} {state inside : ParseState} {rest : List Token}

/-- Where something in brackets is read up to where it may end, the closing bracket comes, or
reading is halted there. -/
theorem parenthesized_of_read {value : α} {between : Cursor} {last closed : ParseState}
    {named : Pattern → Prop} (here : cursor.rest = .symbol .leftParen :: rest)
    (opened : step? state (.symbol .leftParen) = some inside)
    (same : body ⟨cursor.position + 1, rest⟩ = attempt)
    (given : attempt.value? = some (value, between))
    (leads : Leads ⟨cursor.position + 1, rest⟩ inside between last)
    (marks : Marks attempt.stuck? between named)
    (closes : step? last (.symbol .rightParen) = some closed) (kept : keeps value closed)
    (names : ∀ pattern, Names last pattern ↔
      named pattern ∨ pattern = .token (.symbol .rightParen))
    (refuses : between.rest.head? ≠ some (.symbol .rightParen) → Refuses last between.rest) :
    Goes (fun _ _ => False) (fun _ => False) keeps cursor.position cursor state
      (body.parenthesized cursor) := by
  subst same
  have begun : cursor.position < between.position := leads.position_le
  have arrives := (Leads.one here opened).trans leads
  rw [Parser.parenthesized, Parser.just_bind_of_here here, Parser.bind_of_some given,
    Parser.map_apply]
  rcases Parser.just_cases .rightParen between with ⟨after, there, read⟩ | ⟨failed, missed⟩
  · rw [read]
    refine .read rfl (arrives.trans (.one there closes)) (Nat.lt_succ_of_lt begun) kept ?_
    rw [Stuck.furthest_none]
    exact .of_within marks.within (Nat.lt_succ_self _)
  · rw [failed]
    have absent : between.rest.head? ≠ some (.symbol .rightParen) :=
      fun same => missed.absent _ same rfl
    refine .halted arrives begun (refuses absent) ?_ nofun
    exact (marks.furthest missed.marks).congr fun pattern => by rw [names]; simp

/-- Where reading is halted inside brackets, they are not closed. -/
theorem parenthesized_of_halted {place : Cursor} {final : ParseState} (hinders : Token → Prop)
    (here : cursor.rest = .symbol .leftParen :: rest)
    (opened : step? state (.symbol .leftParen) = some inside)
    (same : body ⟨cursor.position + 1, rest⟩ = attempt)
    (leads : Leads ⟨cursor.position + 1, rest⟩ inside place final)
    (refuses : Refuses final place.rest) (marks : Marks attempt.stuck? place (Names final))
    (short : ∀ value next, attempt.value? = some (value, next) →
      next.position < place.position ∧ ∃ token, next.rest.head? = some token ∧ hinders token)
    (apart : ¬ hinders (.symbol .rightParen)) :
    Goes (fun _ _ => False) (fun _ => False) keeps cursor.position cursor state
      (body.parenthesized cursor) := by
  subst same
  have begun : cursor.position < place.position := leads.position_le
  have arrives := (Leads.one here opened).trans leads
  rw [Parser.parenthesized, Parser.just_bind_of_here here]
  cases given : (body ⟨cursor.position + 1, rest⟩).value? with
  | none =>
    rw [Parser.bind_of_none given]
    exact .halted arrives begun refuses marks nofun
  | some read =>
    obtain ⟨value, next⟩ := read
    obtain ⟨early, blocked, there, hindered⟩ := short value next given
    rw [Parser.bind_of_some given, Parser.map_apply]
    rcases Parser.just_cases .rightParen next with ⟨after, same, -⟩ | ⟨failed, missed⟩
    · rw [same] at there
      cases there
      exact absurd hindered apart
    · rw [failed]
      exact .halted arrives begun refuses (marks.before missed.marks.within early) nofun

end Brackets

end Reader

end Rulebook.Script
