import Rulebook.Proofs.Script.Following

/-! The parsers of expressions follow the reader, one layer after the other. A repetition keeps
how the operands still to come are put together: operators that group to the left leave one
tree behind, those that group to the right leave frames that wait for the end. -/
namespace Rulebook.Script

namespace Reader

/-- The operators that make the phrases of a layer. -/
def Own (layer : Layer) (token : Token) : Prop :=
  ∃ op : BinaryOp, op.layer = layer ∧ token = .symbol op.symbol

theorem symbol_injective {op other : BinaryOp} (same : op.symbol = other.symbol) : op = other := by
  have found := congrArg BinaryOp.ofSymbol? same
  rwa [BinaryOp.ofSymbol?_symbol, BinaryOp.ofSymbol?_symbol, Option.some.injEq] at found

/-- The phrases of a layer with one operator are made by that one. -/
theorem own_layer_iff (op : BinaryOp) (single : ∀ other, other.layer = op.layer → other = op)
    (token : Token) : Own op.layer token ↔ token = .symbol op.symbol := by
  constructor
  · rintro ⟨other, same, rfl⟩
    rw [single other same]
  · rintro rfl
    exact ⟨op, rfl, rfl⟩

section Tighter

variable {layer inner : Layer}

theorem rank_le_level_iff (next : layer.tighter? = some inner) (op : BinaryOp) :
    layer.rank ≤ op.level ↔ inner.rank ≤ op.level ∨ op.layer = layer := by
  rw [Layer.rank_tighter next]
  constructor
  · intro reaches
    rcases Nat.lt_or_eq_of_le reaches with above | same
    · exact .inl above
    · exact .inr (Layer.rank_injective (op.rank_layer.trans same.symm))
  · rintro (above | rfl)
    · exact Nat.le_of_succ_le above
    · exact Nat.le_of_eq op.rank_layer

theorem takes_iff (next : layer.tighter? = some inner) :
    Takes layer = fun state token => Takes inner state token ∨ Own layer token := by
  funext state token
  simp only [Takes, Own, rank_le_level_iff next, or_and_right, exists_or, or_assoc]

theorem hinders_iff (next : layer.tighter? = some inner) :
    Hinders layer = fun token => Hinders inner token ∨ Own layer token := by
  funext token
  simp only [Hinders, Own, rank_le_level_iff next, or_and_right, exists_or, or_assoc]

theorem not_own_of_hinders (next : layer.tighter? = some inner) (token : Token)
    (hinders : Hinders inner token) : ¬ Own layer token := by
  rintro ⟨op, rfl, rfl⟩
  rcases hinders with same | ⟨other, above, same⟩
  · revert same
    cases op <;> decide
  · rw [Token.symbol.injEq] at same
    obtain rfl := symbol_injective same
    rw [Layer.rank_tighter next, op.rank_layer] at above
    omega

end Tighter

/-- What a repetition of a layer keeps: an operand was read, frames wait around it, and putting
in what they lead to gives the tree that the items still to come are folded into. -/
def Folds {β : Type} (layer : Layer) (fold : Expr → List β → Expr) (pending : List Frame)
    (kept : Nat) (make : List β → Expr) (state : ParseState) : Prop :=
  ∃ (expr : Expr) (frames : List Frame) (wrap : Expr → Expr), Holds state expr frames kept ∧
    required frames ≤ layer.rank ∧ (∀ items, make items = wrap (fold expr items)) ∧
    ∀ final whole, Holds final whole frames layer.bound →
      Holds final (wrap whole) pending layer.bound

/-- A layer whose phrases are operands of the next with items after them. -/
theorem Follows.chained {β : Type} {operand : Parser Expr} {item : Parser β}
    {fold : Expr → List β → Expr} {layer inner : Layer} {bound : Nat} (kept : Nat)
    (next : layer.tighter? = some inner) (other : layer ≠ .prefixed)
    (least : layer.bound ≤ kept) (most : kept ≤ inner.bound) (ends : ∀ expr, fold expr [] = expr)
    (followed : Follows inner bound operand)
    (items : ∀ pending, Items item (Own layer) (Takes inner) (Hinders inner)
      (Folds layer fold pending kept) bound) :
    Follows layer bound (do return fold (← operand) (← item.repeated)) := by
  intro pending cursor fits room noPrefix
  have rank := Layer.rank_tighter next
  have noPrefixInside : Layer.prefixed.rank < inner.rank →
      ∀ op : UnaryOp, cursor.rest.head? ≠ some (.symbol op.symbol) := by
    intro below
    refine noPrefix (Nat.lt_of_le_of_ne (by omega) fun same => ?_)
    exact other (Layer.rank_injective same.symm)
  cases followed pending cursor (by omega) room noPrefixInside with
  | idle blank none marks =>
    refine .idle blank ?_ ?_
    · rw [Parser.bind_of_none none]
    · rwa [Parser.bind_of_none none]
  | begun begins goes =>
    refine .begun begins ?_
    rw [takes_iff next, hinders_iff next]
    have first : Goes (Takes inner) (Hinders inner)
        (fun expr final => Folds layer fold pending kept (fold expr) final) cursor.position cursor
        (.operand pending) (operand cursor) :=
      goes.imp fun expr final holds =>
        ⟨expr, pending, id, holds.weaken most, fits, fun _ => rfl, fun _ _ => id⟩
    refine (repeated_goes (items pending) room first).imp ?_
    rintro whole final ⟨make, ⟨expr, frames, wrap, holds, -, made, onward⟩, rfl⟩
    rw [made, ends]
    exact onward final expr (holds.weaken least)

/-- Frames of operators before an operand, the outermost first. -/
def prefixFrames (ops : List UnaryOp) (pending : List Frame) : List Frame :=
  ops.foldl (fun frames op => .unary op :: frames) pending

theorem prefixFrames_cases (ops : List UnaryOp) (pending : List Frame) :
    ops = [] ∨ ∃ op outer, prefixFrames ops pending = .unary op :: outer := by
  rcases List.eq_nil_or_concat ops with rfl | ⟨earlier, op, rfl⟩
  · exact .inl rfl
  · exact .inr ⟨op, prefixFrames earlier pending, by simp [prefixFrames]⟩

theorem required_prefixFrames (ops : List UnaryOp) (pending : List Frame) :
    required (prefixFrames ops pending) ≤ Layer.prefixed.rank := by
  rcases prefixFrames_cases ops pending with rfl | ⟨op, outer, same⟩
  · exact required_le_prefixed pending
  · rw [same]
    exact Nat.le_refl _

/-- Operators before an operand cover it and leave what is outside alone. -/
theorem Holds.prefixed {ops : List UnaryOp} {pending : List Frame}
    (holds : Holds state expr (prefixFrames ops pending) UnaryOp.level) :
    Holds state (Rulebook.Script.prefixed ops expr) pending UnaryOp.level := by
  induction ops generalizing pending with
  | nil => exact holds
  | cons op ops ih => exact (ih holds).unary (Nat.le_refl _)

/-- The operators that may come before an operand. -/
def Leading (token : Token) : Prop :=
  ∃ op : UnaryOp, token = .symbol op.symbol

theorem unaryOp_cases (cursor : Cursor) :
    (∃ op : UnaryOp, ∃ rest, cursor.rest = .symbol op.symbol :: rest ∧
      (Parser.unaryOp cursor).value? = some (op, ⟨cursor.position + 1, rest⟩) ∧
      Stuck.Within cursor.position (Parser.unaryOp cursor).stuck?) ∨
    ((Parser.unaryOp cursor).value? = none ∧
      Missed Leading (Parser.unaryOp cursor).stuck? cursor) := by
  rcases Parser.choice_just_cases UnaryOp.symbol [.negate, .not] cursor with
    ⟨op, -, read⟩ | ⟨none, missed⟩
  · exact .inl ⟨op, read⟩
  · refine .inr ⟨none, missed.congr fun token => exists_congr fun op => ?_⟩
    cases op <;> simp

private theorem unaryOps_readWithin (fuel : Nat) (cursor : Cursor)
    (enough : cursor.rest.length < fuel) (pending : List Frame) :
    ∃ ops next, (Parser.unaryOp.repeatedWithin fuel cursor).value? = some (ops, next) ∧
      Leads cursor (.operand pending) next (.operand (prefixFrames ops pending)) ∧
      next.position = cursor.position + ops.length ∧ (ops = [] ∨ Begins cursor) ∧
      Missed Leading (Parser.unaryOp.repeatedWithin fuel cursor).stuck? next := by
  induction fuel generalizing cursor pending with
  | zero => cases enough
  | succ fuel ih =>
    rcases unaryOp_cases cursor with ⟨op, rest, here, read, within⟩ | ⟨none, missed⟩
    · have stepped : step? (.operand pending) (.symbol op.symbol) =
          some (.operand (.unary op :: pending)) := by cases op <;> rfl
      have one := Leads.one here stepped
      have shorter := one.length_lt (Nat.lt_succ_self _)
      obtain ⟨ops, next, given, leads, place, -, missed⟩ :=
        ih ⟨cursor.position + 1, rest⟩ (by omega) (.unary op :: pending)
      rw [Parser.repeatedWithin_of_some fuel read, given]
      refine ⟨op :: ops, next, rfl, one.trans leads, ?_, .inr ?_, missed.after within ?_⟩
      · simp only [place, List.length_cons]
        omega
      · exact ⟨_, congrArg List.head? here, by cases op <;> rfl⟩
      · simp only [place]
        omega
    · rw [Parser.repeatedWithin_of_none fuel none]
      exact ⟨[], cursor, rfl, .refl .., rfl, .inl rfl, missed⟩

/-- All operators before an operand are read. -/
theorem unaryOps_read (cursor : Cursor) (pending : List Frame) :
    ∃ ops next, (Parser.unaryOp.repeated cursor).value? = some (ops, next) ∧
      Leads cursor (.operand pending) next (.operand (prefixFrames ops pending)) ∧
      next.position = cursor.position + ops.length ∧ (ops = [] ∨ Begins cursor) ∧
      Missed Leading (Parser.unaryOp.repeated cursor).stuck? next :=
  unaryOps_readWithin (cursor.rest.length + 1) cursor (Nat.lt_succ_self _) pending

/-- Behind an operator before an operand, further ones are named beside the value. -/
theorem names_prefixed (leading : Prefixed pending) (pattern : Pattern) :
    Names (.operand pending) pattern ↔
      (∃ token, Leading token ∧ pattern = .token token) ∨ pattern = .label "a value" := by
  have noCall : ¬ ∃ function outer, pending = .call function [] :: outer := by
    rintro ⟨function, outer, rfl⟩
    rcases leading with ⟨_, _, same⟩ | ⟨_, _, same⟩ <;> cases same
  simp only [names_operand, leading, noCall, and_true, and_false, or_false, Leading]
  constructor
  · rintro (same | ⟨op, rfl⟩)
    · exact .inr same
    · exact .inl ⟨_, ⟨op, rfl⟩, rfl⟩
  · rintro (⟨_, ⟨op, rfl⟩, rfl⟩ | same)
    · exact .inr ⟨op, rfl⟩
    · exact .inl same

theorem not_call_of_prefixed (leading : Prefixed pending) (function : String)
    (outer : List Frame) : pending ≠ .call function [] :: outer := by
  rintro rfl
  rcases leading with ⟨_, _, same⟩ | ⟨_, _, same⟩ <;> cases same

theorem not_own_prefixed (token : Token) : ¬ Own .prefixed token := by
  rintro ⟨op, same, -⟩
  cases op <;> cases same

theorem takes_prefixed : Takes .prefixed = Takes .power := by
  rw [takes_iff (rfl : Layer.prefixed.tighter? = some .power)]
  simp only [not_own_prefixed, or_false]

theorem hinders_prefixed : Hinders .prefixed = Hinders .power := by
  rw [hinders_iff (rfl : Layer.prefixed.tighter? = some .power)]
  simp only [not_own_prefixed, or_false]

/-- Operators before a power, all in one phrase. -/
theorem follows_unary {expression : Parser Expr} {bound : Nat}
    (followed : Follows .power bound (Parser.power expression)) :
    Follows .prefixed bound (Parser.unary expression) := by
  intro pending cursor fits room _
  obtain ⟨ops, next, given, leads, place, begins, missed⟩ := unaryOps_read cursor pending
  have short : next.rest.length < bound := by
    have same := leads.position_add_length
    omega
  have attempted := followed (prefixFrames ops pending) next
    (Nat.le_trans (required_prefixFrames ops pending) (by decide)) short
    fun _ op same => missed.absent _ same ⟨op, rfl⟩
  have read : (do return prefixed (← Parser.unaryOp.repeated) (← Parser.power expression) :
      Parser Expr) cursor = _ := Parser.both_apply prefixed given
  -- with or without operators, what the power is read as is covered by them
  have whole (begins : Begins cursor) (goes : Goes (Takes .power) (Hinders .power)
      (fun expr final => Holds final expr (prefixFrames ops pending) Layer.power.bound)
      cursor.position cursor (.operand pending) ⟨(Parser.power expression next).value?,
        Stuck.furthest (Parser.unaryOp.repeated cursor).stuck?
          (Parser.power expression next).stuck?⟩) :
      Attempted .prefixed pending cursor (Parser.unary expression cursor) := by
    refine .begun begins ?_
    rw [takes_prefixed, hinders_prefixed]
    refine Goes.labelled "a value" ?_
    rw [read]
    exact goes.map (prefixed ops) fun expr final holds => Holds.prefixed holds
  by_cases none : ops = []
  · subst none
    obtain ⟨rfl, -⟩ := leads.of_position_eq place
    cases attempted with
    | idle blank none marks =>
      rw [none] at read
      exact .of_refused blank read (missed.marks.furthest marks) ⟨.label "a value", .inr rfl⟩
    | begun begins goes => exact whole begins (goes.after missed.marks.within)
  · have leading : Prefixed (prefixFrames ops pending) :=
      .inl ((prefixFrames_cases ops pending).resolve_left none)
    have further : cursor.position < next.position := by
      have some := List.length_pos_iff.mpr none
      omega
    exact whole (begins.resolve_left none) (attempted.goes leads further missed.marks
      (names_prefixed leading) (not_call_of_prefixed leading))

theorem binaryOp_cases (ops : List BinaryOp) (cursor : Cursor) :
    (∃ op ∈ ops, ∃ rest, cursor.rest = .symbol op.symbol :: rest ∧
      (Parser.binaryOp ops cursor).value? = some (op, ⟨cursor.position + 1, rest⟩) ∧
      Stuck.Within cursor.position (Parser.binaryOp ops cursor).stuck?) ∨
    ((Parser.binaryOp ops cursor).value? = none ∧
      Missed (fun token => ∃ op ∈ ops, token = .symbol op.symbol)
        (Parser.binaryOp ops cursor).stuck? cursor) :=
  Parser.choice_just_cases BinaryOp.symbol ops cursor

/-- Operands under operators that group to the left. -/
theorem follows_leftAssociative {ops : List BinaryOp} {operand : Parser Expr}
    {layer inner : Layer} {bound : Nat} (next : layer.tighter? = some inner)
    (above : inner.rank ≤ Layer.prefixed.rank) (own : ∀ op, op ∈ ops ↔ op.layer = layer)
    (left : ∀ op ∈ ops, op.leftLayer = layer) (right : ∀ op ∈ ops, op.rightLayer = inner)
    (followed : Follows inner bound operand) :
    Follows layer bound (Parser.leftAssociative ops operand) := by
  have rank := Layer.rank_tighter next
  have other : layer ≠ .prefixed := by
    rintro rfl
    omega
  refine .chained layer.bound next other (Nat.le_refl _) (Layer.bound_tighter next) (fun _ => rfl)
    followed fun pending => ⟨?_, ?_, not_own_of_hinders next⟩
  · intro cursor absent
    rcases binaryOp_cases ops cursor with
      ⟨op, member, rest, here, -⟩ | ⟨none, missed⟩
    · have comes : cursor.rest.head? = some (.symbol op.symbol) := congrArg List.head? here
      exact absurd ⟨op, (own op).mp member, rfl⟩ (absent _ comes)
    · rw [Parser.operation, Parser.bind_of_none none]
      exact ⟨rfl, missed.congr fun token => by simp only [Own, own]⟩
  · intro make cursor state token room here wanted folds
    obtain ⟨expr, frames, wrap, holds, fits, made, onward⟩ := folds
    rcases binaryOp_cases ops cursor with
      ⟨op, member, rest, there, given, within⟩ | ⟨-, missed⟩
    · obtain rfl := (own op).mp member
      have below : op.level < op.layer.bound := left op member ▸ op.level_lt_bound_leftLayer
      have leads := Leads.one there (holds.step_operator below (op.rank_layer ▸ fits))
      have shorter := leads.length_lt (Nat.lt_succ_self _)
      have attempted := followed (.binary expr op :: frames) ⟨cursor.position + 1, rest⟩
        (Nat.le_of_eq (congrArg Layer.rank (right op member))) (by omega)
        fun deeper => absurd deeper (Nat.not_lt.mpr above)
      have single : op ≠ .power := by
        rintro rfl
        have inside := right _ member
        cases next
        cases inside
      have goes := attempted.goes leads (Nat.lt_succ_self _)
        (Marks.of_within within (Nat.lt_succ_self _)) (fun pattern => by
          simp [names_operand, Prefixed, single]) nofun
      rw [Parser.operation, Parser.both_apply Prod.mk given]
      refine goes.map (op, ·) fun value final holds => ?_
      have whole := holds.binary (op.bound_layer ▸ Layer.bound_tighter next)
      exact ⟨_, frames, wrap, op.bound_layer ▸ whole, fits, fun items => made _, onward⟩
    · exact absurd (wanted.imp fun op facts => ⟨(own op).mpr facts.1, facts.2⟩)
        (missed.absent token here)

theorem follows_concatenation {expression : Parser Expr} {bound : Nat}
    (followed : Follows .sum bound (Parser.sum expression)) :
    Follows .concatenation bound (Parser.concatenation expression) := by
  have own : ∀ token, Own .concatenation token ↔ token = .symbol .dotDot :=
    own_layer_iff .concat fun other same => by cases other <;> first | rfl | cases same
  refine .chained Layer.sum.bound rfl (by decide) (by decide) (Nat.le_refl _) (fun _ => rfl)
    followed fun pending => ⟨?_, ?_, not_own_of_hinders rfl⟩
  · exact fun cursor => Parser.just_bind_of_absent own
  · intro make cursor state token room here wanted folds
    obtain ⟨expr, frames, wrap, holds, fits, made, onward⟩ := folds
    obtain rfl := (own token).mp wanted
    obtain ⟨rest, there⟩ := List.head?_eq_some_iff.mp here
    have stepped : step? state (.symbol BinaryOp.concat.symbol) =
        some (.operand (.binary expr .concat :: frames)) := holds.step_operator (by decide) fits
    have leads := Leads.one there stepped
    have shorter := leads.length_lt (Nat.lt_succ_self _)
    have attempted := followed (.binary expr .concat :: frames) ⟨cursor.position + 1, rest⟩
      (Nat.le_succ _) (by omega) (fun deeper => absurd deeper (by decide))
    have goes := attempted.goes leads (Nat.lt_succ_self _) (Marks.none _)
      (fun pattern => by simp [names_operand, Prefixed]) nofun
    rw [Parser.just_bind_of_here there]
    refine goes.imp fun value final holds => ?_
    refine ⟨value, _, fun whole => wrap (.binary .concat expr whole), holds, Nat.le_refl _,
      fun items => made _, fun final whole inside => onward _ _ ?_⟩
    exact inside.binary (Nat.le_refl _)

theorem follows_power {expression : Parser Expr} {bound : Nat}
    (followed : Follows .atom bound (Parser.atom expression)) :
    Follows .power bound (Parser.power expression) := by
  have own : ∀ token, Own .power token ↔ token = .symbol .caret :=
    own_layer_iff .power fun other same => by cases other <;> first | rfl | cases same
  refine .chained Layer.atom.bound rfl (by decide) (by decide) (Nat.le_refl _)
    (fun _ => rfl) followed fun pending => ⟨?_, ?_, not_own_of_hinders rfl⟩
  · exact fun cursor => Parser.just_bind_of_absent own
  · intro make cursor state token room here wanted folds
    obtain ⟨expr, frames, wrap, holds, fits, made, onward⟩ := folds
    obtain rfl := (own token).mp wanted
    obtain ⟨rest, there⟩ := List.head?_eq_some_iff.mp here
    have stepped : step? state (.symbol BinaryOp.power.symbol) =
        some (.operand (.binary expr .power :: frames)) := holds.step_operator (by decide) fits
    have leads := Leads.one there stepped
    obtain ⟨ops, next, given, inward, place, -, missed⟩ :=
      unaryOps_read ⟨cursor.position + 1, rest⟩ (.binary expr .power :: frames)
    have further : cursor.position < next.position := inward.position_le
    have arrives := leads.trans inward
    have shorter := arrives.length_lt further
    have leading : Prefixed (prefixFrames ops (.binary expr .power :: frames)) := by
      rcases prefixFrames_cases ops (.binary expr .power :: frames) with rfl | unary
      · exact .inr ⟨expr, frames, rfl⟩
      · exact .inl unary
    have required := required_prefixFrames ops (.binary expr .power :: frames)
    have attempted := followed (prefixFrames ops (.binary expr .power :: frames)) next
      (Nat.le_trans required (by decide)) (by omega)
      fun _ op same => missed.absent _ same ⟨op, rfl⟩
    have goes := attempted.goes arrives further missed.marks (names_prefixed leading)
      (not_call_of_prefixed leading)
    rw [Parser.exponent, Parser.just_bind_of_here there, Parser.both_apply Prod.mk given]
    refine goes.map (ops, ·) fun value final holds => ?_
    refine ⟨value, _, fun whole => wrap (.binary .power expr (prefixed ops whole)), holds,
      Nat.le_trans required (by decide), fun items => made _,
      fun final whole inside => onward _ _ ?_⟩
    exact (Holds.prefixed inside).binary (Nat.le_refl _)

section Atoms

variable {expression : Parser Expr} {bound : Nat} {cursor : Cursor} {rest : List Token}

/-- What is neither an operator nor an opening bracket stops nobody. -/
theorem not_hinders (layer : Layer) (which : Symbol) (noOperator : BinaryOp.ofSymbol? which = none)
    (noBracket : which ≠ .leftParen) : ¬ Hinders layer (.symbol which) := by
  rintro (same | ⟨op, -, same⟩)
  · exact noBracket (Token.symbol.inj same)
  · rw [Token.symbol.inj same, BinaryOp.ofSymbol?_symbol] at noOperator
    cases noOperator

theorem takes_atom (state : ParseState) (token : Token) :
    Takes .atom state token ↔
      token = .symbol .leftParen ∧ ∃ name pending, state = .name name pending := by
  refine or_iff_left ?_
  rintro ⟨op, above, -⟩
  revert above
  cases op <;> decide

/-- An expression in brackets stands for itself. -/
theorem group_goes (followed : Follows .disjunction bound expression) (pending : List Frame)
    (here : cursor.rest = .symbol .leftParen :: rest) (room : rest.length < bound) :
    Goes (fun _ _ => False) (fun _ => False) (fun expr final => final = .complete expr pending)
      cursor.position cursor (.operand pending) (expression.parenthesized cursor) := by
  have opened : step? (.operand pending) (.symbol .leftParen) =
      some (.operand (.group :: pending)) := rfl
  cases followed (.group :: pending) ⟨cursor.position + 1, rest⟩ (Nat.le_refl _) room
    (fun deeper => absurd deeper (by decide)) with
  | idle blank none marks =>
    refine parenthesized_of_halted (fun _ => False) here opened rfl (.refl ..)
      (refuses_operand blank nofun) (marks.congr fun pattern => ?_) (fun value next given => ?_) id
    · simp [names_operand, Prefixed]
    · rw [none] at given
      cases given
  | begun begins goes =>
    cases goes with
    | read given leads further kept missed =>
      refine parenthesized_of_read here opened rfl given leads missed.marks
        (kept.step_group (by decide)) rfl (fun pattern => ?_) fun absent => ?_
      · rw [kept.names_iff (by decide) rfl]
        simp [Closes, or_and_right, exists_or]
      · refine kept.refuses (by decide) rfl (fun token comes => ?_) nofun
        rintro (taken | closes)
        · exact missed.absent token comes taken
        · exact absent (comes.trans (congrArg some closes))
    | halted leads further refuses marks short =>
      exact parenthesized_of_halted _ here opened rfl leads refuses marks short
        (not_hinders .disjunction .rightParen rfl nofun)

/-- What a list of arguments keeps: the last one was read, and those before it are with the
name. -/
def Listing (function : String) (outer : List Frame) (make : List Expr → List Expr)
    (state : ParseState) : Prop :=
  ∃ done expr, Holds state expr (.call function done :: outer) Layer.disjunction.bound ∧
    ∀ more, make more = done ++ expr :: more

/-- Arguments with commas between them are read where the first one begins. -/
theorem arguments_go (followed : Follows .disjunction bound expression) (function : String)
    (outer : List Frame) (room : cursor.rest.length < bound)
    (goes : Goes (Takes .disjunction) (Hinders .disjunction)
      (fun expr final => Holds final expr (.call function [] :: outer) Layer.disjunction.bound)
      cursor.position cursor (.operand (.call function [] :: outer)) (expression cursor)) :
    Goes (fun final token => Takes .disjunction final token ∨ token = .symbol .comma)
      (fun token => Hinders .disjunction token ∨ token = .symbol .comma)
      (fun arguments final => ∃ make, Listing function outer make final ∧ arguments = make [])
      cursor.position cursor (.operand (.call function [] :: outer))
      ((do return (← expression) :: (← (do Parser.just .comma; expression).repeated) :
        Parser (List Expr)) cursor) := by
  have first : Goes (Takes .disjunction) (Hinders .disjunction)
      (fun expr final => Listing function outer (expr :: ·) final) cursor.position cursor
      (.operand (.call function [] :: outer)) (expression cursor) :=
    goes.imp fun expr final holds => ⟨[], expr, holds, fun _ => rfl⟩
  refine repeated_goes ⟨?_, ?_, ?_⟩ room first
  · exact fun cursor => Parser.just_bind_of_absent fun token => Iff.rfl
  · rintro make cursor state token room here rfl ⟨done, expr, holds, made⟩
    obtain ⟨rest, there⟩ := List.head?_eq_some_iff.mp here
    have leads := Leads.one there (holds.step_comma (by decide))
    have shorter := leads.length_lt (Nat.lt_succ_self _)
    have attempted := followed (.call function (done ++ [expr]) :: outer)
      ⟨cursor.position + 1, rest⟩ (Nat.le_refl _) (by omega)
      (fun deeper => absurd deeper (by decide))
    have goes := attempted.goes leads (Nat.lt_succ_self _) (Marks.none _)
      (fun pattern => by simp [names_operand, Prefixed]) (by simp)
    rw [Parser.just_bind_of_here there]
    refine goes.imp fun value final holds => ⟨done ++ [expr], value, holds, fun more => ?_⟩
    simp [made]
  · rintro token hinders rfl
    exact not_hinders _ .comma rfl nofun hinders

/-- Arguments that begin are enclosed as they go: behind the last one the bracket closes. -/
theorem enclosed_arguments_go {arguments : Parser (List Expr)} (function : String)
    (outer : List Frame) (here : cursor.rest = .symbol .leftParen :: rest)
    (goes : Goes (fun final token => Takes .disjunction final token ∨ token = .symbol .comma)
      (fun token => Hinders .disjunction token ∨ token = .symbol .comma)
      (fun arguments final => ∃ make, Listing function outer make final ∧ arguments = make [])
      (cursor.position + 1) ⟨cursor.position + 1, rest⟩
      (.operand (.call function [] :: outer)) (arguments ⟨cursor.position + 1, rest⟩)) :
    Goes (fun _ _ => False) (fun _ => False)
      (fun arguments final => final = .complete (.call function arguments) outer) cursor.position
      cursor (.name function outer) (arguments.parenthesized cursor) := by
  have opened : step? (.name function outer) (.symbol .leftParen) =
      some (.operand (.call function [] :: outer)) := rfl
  cases goes with
  | read given leads further kept missed =>
    obtain ⟨make, ⟨done, expr, holds, made⟩, rfl⟩ := kept
    refine parenthesized_of_read here opened rfl given leads missed.marks
      (holds.step_lastArgument (by decide)) (by rw [made]) (fun pattern => ?_) fun absent => ?_
    · rw [holds.names_iff (by decide) rfl]
      simp [Closes, or_and_right, exists_or, or_assoc, or_left_comm, or_comm]
    · refine holds.refuses (by decide) rfl (fun token comes => ?_) nofun
      rintro (taken | rfl | rfl)
      · exact missed.absent token comes (.inl taken)
      · exact absent comes
      · exact missed.absent _ comes (.inr rfl)
  | halted leads further refuses marks short =>
    refine parenthesized_of_halted _ here opened rfl leads refuses marks short ?_
    rintro (hinders | same)
    · exact not_hinders _ .rightParen rfl nofun hinders
    · cases same

/-- Arguments in brackets after a name make a call. -/
theorem call_goes (followed : Follows .disjunction bound expression) (function : String)
    (outer : List Frame) (here : cursor.rest = .symbol .leftParen :: rest)
    (room : rest.length < bound) :
    Goes (fun _ _ => False) (fun _ => False)
      (fun arguments final => final = .complete (.call function arguments) outer) cursor.position
      cursor (.name function outer)
      ((expression.separatedBy (Parser.just .comma)).parenthesized cursor) := by
  have opened : step? (.name function outer) (.symbol .leftParen) =
      some (.operand (.call function [] :: outer)) := rfl
  cases followed (.call function [] :: outer) ⟨cursor.position + 1, rest⟩ (Nat.le_refl _) room
    (fun deeper => absurd deeper (by decide)) with
  | idle blank none marks =>
    have empty : expression.separatedBy (Parser.just .comma) ⟨cursor.position + 1, rest⟩ = _ :=
      Parser.separatedBy_of_none none
    have closes : step? (.operand (.call function [] :: outer)) (.symbol .rightParen) =
        some (.complete (.call function []) outer) := rfl
    refine parenthesized_of_read here opened empty rfl (.refl ..) marks closes rfl
      (fun pattern => ?_) fun absent => ?_
    · simp [names_operand, Prefixed]
    · exact refuses_operand blank fun comes => absurd comes absent
  | begun begins goes =>
    cases given : (expression ⟨cursor.position + 1, rest⟩).value? with
    | none =>
      -- an argument that begins but is not read leaves its first token behind, which is no bracket
      have empty : expression.separatedBy (Parser.just .comma) ⟨cursor.position + 1, rest⟩ = _ :=
        Parser.separatedBy_of_none given
      obtain ⟨first, comes, starts⟩ := begins
      have noEnd : first ≠ .symbol .rightParen := by
        rintro rfl
        cases starts
      cases goes with
      | read given' => exact absurd (given.symm.trans given') nofun
      | halted leads further refuses marks short =>
        refine parenthesized_of_halted (· ≠ .symbol .rightParen) here opened empty leads refuses
          marks ?_ (absurd rfl)
        rintro values next ⟨⟩
        exact ⟨further, first, comes, noEnd⟩
    | some read =>
      refine enclosed_arguments_go function outer here ?_
      rw [Parser.separatedBy_of_some given]
      exact arguments_go followed function outer room goes

/-- A literal is read, or the parser got stuck at once. -/
theorem literal_cases (cursor : Cursor) :
    (∃ token rest value, cursor.rest = token :: rest ∧ token.literal? = some value ∧
      Parser.literal cursor = ⟨some (.literal value, ⟨cursor.position + 1, rest⟩), none⟩) ∨
    ((∀ token, cursor.rest.head? = some token → token.literal? = none) ∧
      (Parser.literal cursor).value? = none ∧
      Marks (Parser.literal cursor).stuck? cursor (· = .somethingElse)) := by
  have same : Parser.literal =
      (Parser.accept Token.literal? .somethingElse >>= fun value => pure (.literal value)) := by
    refine congrArg (· >>= _) (congrArg (Parser.accept · _) (funext fun token => ?_))
    cases token with
    | symbol which => cases which <;> rfl
    | _ => rfl
  rw [same, Parser.map_apply]
  rcases Parser.accept_cases Token.literal? .somethingElse cursor with
    ⟨token, rest, value, here, written, read⟩ | ⟨other, refused⟩
  · exact .inl ⟨token, rest, value, here, written, by rw [read]; rfl⟩
  · rw [refused]
    exact .inr ⟨other, rfl, .refuse ..⟩

/-- The name that a token writes. -/
def nameOf? : Token → Option String
  | .name name => some name
  | _ => none

theorem nameOrCall_eq (expression : Parser Expr) :
    Parser.nameOrCall expression = (Parser.accept nameOf? .somethingElse >>= fun name =>
      (expression.separatedBy (Parser.just .comma)).parenthesized.orNot >>= fun arguments? =>
        pure (arguments?.elim (.name name) (.call name))) := by
  have named : Parser.nameOrCall expression = (Parser.accept nameOf? .somethingElse >>= _) :=
    congrArg (· >>= _) (congrArg (Parser.accept · _) (funext fun token => by cases token <;> rfl))
  rw [named]
  refine congrArg (_ >>= ·) (funext fun name => congrArg (_ >>= ·) (funext fun arguments? => ?_))
  cases arguments? <;> rfl

/-- Behind a name arguments in brackets are read if a bracket opens; where they are halted, the
bracket stays behind. -/
theorem afterName_goes (followed : Follows .disjunction bound expression) (name : String)
    (pending : List Frame) (room : cursor.rest.length < bound + 1)
    (begun : start < cursor.position) :
    Goes (Takes .atom) (Hinders .atom)
      (fun arguments? final =>
        Holds final (arguments?.elim (.name name) (.call name)) pending Layer.atom.bound)
      start cursor (.name name pending)
      ((expression.separatedBy (Parser.just .comma)).parenthesized.orNot cursor) := by
  rcases Parser.just_cases .leftParen cursor with ⟨rest, here, -⟩ | ⟨failed, missed⟩
  · rw [here] at room
    cases call_goes followed name pending here (Nat.lt_of_succ_lt_succ room) with
    | read given leads further kept missed =>
      obtain rfl := kept
      rw [Parser.orNot_of_some given]
      exact .read rfl leads (Nat.lt_trans begun further) (holds_complete ..)
        (missed.congr fun token => by simp [takes_atom])
    | halted leads further refuses marks short =>
      have none : ((expression.separatedBy (Parser.just .comma)).parenthesized cursor).value? =
          none := by
        rw [Option.eq_none_iff_forall_ne_some]
        rintro ⟨value, next⟩ given
        obtain ⟨-, _, -, hindered⟩ := short value next given
        exact hindered
      rw [Parser.orNot_of_none none]
      refine .halted leads (Nat.lt_trans begun further) refuses marks ?_
      rintro value next ⟨⟩
      exact ⟨further, _, congrArg List.head? here, .inl rfl⟩
  · have none : ((expression.separatedBy (Parser.just .comma)).parenthesized cursor) =
        ⟨none, (Parser.just .leftParen cursor).stuck?⟩ := Parser.bind_of_none failed
    rw [Parser.orNot_of_none (congrArg Attempt.value? none), none]
    exact .read rfl (.refl ..) begun ⟨_, _, rfl, fun _ _ => rfl⟩
      (missed.congr fun token => by simp [takes_atom])

/-- A name is a phrase by itself, and with arguments in brackets it is a call. -/
theorem nameOrCall_goes (followed : Follows .disjunction bound expression) (pending : List Frame)
    (room : cursor.rest.length < bound + 1) :
    ((∃ name, cursor.rest.head? = some (.name name)) ∧
      (∃ read, (Parser.nameOrCall expression cursor).value? = some read) ∧
      Goes (Takes .atom) (Hinders .atom)
        (fun expr final => Holds final expr pending Layer.atom.bound) cursor.position cursor
        (.operand pending) (Parser.nameOrCall expression cursor)) ∨
    ((∀ name, cursor.rest.head? ≠ some (.name name)) ∧
      (Parser.nameOrCall expression cursor).value? = none ∧
      Marks (Parser.nameOrCall expression cursor).stuck? cursor (· = .somethingElse)) := by
  rw [nameOrCall_eq]
  rcases Parser.accept_cases nameOf? .somethingElse cursor with
    ⟨token, rest, name, here, named, read⟩ | ⟨other, refused⟩
  · obtain rfl : token = .name name := by
      cases token with
      | name text => cases named; rfl
      | _ => cases named
    have one : Leads cursor (.operand pending) ⟨cursor.position + 1, rest⟩ (.name name pending) :=
      .one here rfl
    have shorter := one.length_lt (Nat.lt_succ_self _)
    have goes := afterName_goes followed name pending (Nat.lt_trans shorter room)
      (Nat.lt_succ_self _)
    obtain ⟨some, given⟩ := Parser.orNot_isSome
      (expression.separatedBy (Parser.just .comma)).parenthesized ⟨cursor.position + 1, rest⟩
    rw [Parser.bind_of_some (congrArg Attempt.value? read), read, Parser.map_apply]
    exact .inl ⟨⟨name, congrArg List.head? here⟩, ⟨_, congrArg (Option.map _) given⟩,
      (goes.behind one).map _ fun _ _ => id⟩
  · refine .inr ⟨fun name comes => (nomatch other _ comes), ?_⟩
    rw [Parser.bind_of_none (congrArg Attempt.value? refused), refused]
    exact ⟨rfl, .refuse ..⟩

theorem begins_of_literal {token : Token} (written : token.literal? = some value) :
    (begin? [] token).isSome := by
  rw [begin?_literal written]
  rfl

/-- A value begins with a literal, a name, a bracket or an operator, and with nothing else. -/
theorem not_begins
    (noLiteral : ∀ token, cursor.rest.head? = some token → token.literal? = none)
    (noName : ∀ name, cursor.rest.head? ≠ some (.name name))
    (noBracket : cursor.rest.head? ≠ some (.symbol .leftParen))
    (noPrefix : ∀ op : UnaryOp, cursor.rest.head? ≠ some (.symbol op.symbol)) :
    ¬ Begins cursor := by
  rintro ⟨token, comes, starts⟩
  obtain ⟨next, begun⟩ := Option.isSome_iff_exists.mp starts
  rcases begin?_cases begun with ⟨value, written, -⟩ | ⟨name, rfl, -⟩ | ⟨op, rfl, -⟩ |
    ⟨rfl, -⟩ | ⟨_, _, -, same, -⟩
  · cases (noLiteral token comes).symm.trans written
  · exact noName name comes
  · exact noPrefix op comes
  · exact noBracket comes
  · cases same

/-- An expression in brackets is an atom. -/
theorem group_goes_atom (followed : Follows .disjunction bound expression) (pending : List Frame)
    (here : cursor.rest = .symbol .leftParen :: rest) (room : rest.length < bound) :
    Goes (Takes .atom) (Hinders .atom)
      (fun expr final => Holds final expr pending Layer.atom.bound) cursor.position cursor
      (.operand pending) (expression.parenthesized cursor) := by
  cases group_goes followed pending here room with
  | read given leads further kept missed =>
    obtain rfl := kept
    exact .read given leads further (holds_complete ..)
      (missed.congr fun token => by simp [takes_atom])
  | halted leads further refuses marks short =>
    refine .halted leads further refuses marks fun value next given => ?_
    obtain ⟨-, _, -, hindered⟩ := short value next given
    exact hindered.elim

/-- Atoms, where no operator comes before them. -/
theorem follows_atom (followed : Follows .disjunction bound expression) :
    Follows .atom (bound + 1) (Parser.atom expression) := by
  intro pending cursor _ room noPrefix
  rcases literal_cases cursor with ⟨token, rest, value, here, written, read⟩ |
    ⟨noLiteral, noValue, marks⟩
  · refine .begun ⟨token, congrArg List.head? here, begins_of_literal written⟩ (.labelled _ ?_)
    rw [Parser.choice_cons_of_some (congrArg Attempt.value? read), read]
    exact .read rfl (.one here (begin?_literal written)) (Nat.lt_succ_self _)
      (holds_complete ..) ((Missed.of_within .none (Nat.lt_succ_self _)).congr fun token => by
        simp [takes_atom])
  rcases nameOrCall_goes followed pending room with ⟨⟨name, here⟩, ⟨read, given⟩, goes⟩ |
    ⟨noName, noCall, others⟩
  · refine .begun ⟨_, here, rfl⟩ (.labelled _ ?_)
    rw [Parser.choice_cons_of_none noValue, Parser.choice_cons_of_some given]
    exact goes.after marks.within
  have tried : Parser.choice [Parser.literal, Parser.nameOrCall expression,
      expression.parenthesized] cursor = ⟨(expression.parenthesized cursor).value?,
        Stuck.furthest (Parser.literal cursor).stuck?
          (Stuck.furthest (Parser.nameOrCall expression cursor).stuck?
            (expression.parenthesized cursor).stuck?)⟩ := by
    rw [Parser.choice_cons_of_none noValue, Parser.choice_cons_of_none noCall,
      Parser.choice_singleton]
  rcases Parser.just_cases .leftParen cursor with ⟨rest, here, -⟩ | ⟨failed, missed⟩
  · refine .begun ⟨_, congrArg List.head? here, rfl⟩ (.labelled _ ?_)
    rw [here] at room
    rw [tried]
    exact ((group_goes_atom followed pending here (Nat.lt_of_succ_lt_succ room)).after
      others.within).after marks.within
  · have none : expression.parenthesized cursor =
        ⟨none, (Parser.just .leftParen cursor).stuck?⟩ := Parser.bind_of_none failed
    rw [none] at tried
    have blank : ¬ Begins cursor :=
      not_begins noLiteral noName (fun comes => missed.absent _ comes rfl) (noPrefix (by decide))
    exact .of_refused blank tried (marks.furthest (others.furthest missed.marks))
      ⟨.somethingElse, .inl rfl⟩

end Atoms

/-- The parsers of all layers go as those of the next one do, and those of atoms go as the
expressions inside them. -/
theorem follows_disjunction {expression : Parser Expr} {bound : Nat}
    (followed : Follows .disjunction bound expression) :
    Follows .disjunction (bound + 1) (Parser.disjunction expression) := by
  have product : Follows .product (bound + 1) (Parser.product expression) :=
    follows_leftAssociative rfl (by decide) (by rintro ⟨⟩ <;> decide)
      (by rintro ⟨⟩ <;> decide) (by rintro ⟨⟩ <;> decide)
      (follows_unary (follows_power (follows_atom followed)))
  have sum : Follows .sum (bound + 1) (Parser.sum expression) :=
    follows_leftAssociative rfl (by decide) (by rintro ⟨⟩ <;> decide)
      (by rintro ⟨⟩ <;> decide) (by rintro ⟨⟩ <;> decide) product
  have comparison : Follows .comparison (bound + 1) (Parser.comparison expression) :=
    follows_leftAssociative rfl (by decide) (by rintro ⟨⟩ <;> decide)
      (by rintro ⟨⟩ <;> decide) (by rintro ⟨⟩ <;> decide) (follows_concatenation sum)
  have conjunction : Follows .conjunction (bound + 1) (Parser.conjunction expression) :=
    follows_leftAssociative rfl (by decide) (by rintro ⟨⟩ <;> decide)
      (by rintro ⟨⟩ <;> decide) (by rintro ⟨⟩ <;> decide) comparison
  exact follows_leftAssociative rfl (by decide) (by rintro ⟨⟩ <;> decide)
    (by rintro ⟨⟩ <;> decide) (by rintro ⟨⟩ <;> decide) conjunction

theorem follows_recursiveWithin (bound : Nat) :
    Follows .disjunction bound (Parser.recursiveWithin Parser.disjunction bound) := by
  induction bound with
  | zero => exact fun _ _ _ room => absurd room (Nat.not_lt_zero _)
  | succ bound ih => exact follows_disjunction ih

theorem wholeExpression_of_none {cursor : Cursor}
    (failed : (Parser.expression cursor).value? = none) :
    Parser.wholeExpression cursor = ⟨none, (Parser.expression cursor).stuck?⟩ :=
  Parser.bind_of_none failed

theorem wholeExpression_of_some {cursor between : Cursor}
    (read : (Parser.expression cursor).value? = some (expr, between)) :
    Parser.wholeExpression cursor =
      ⟨(Parser.finish between).value?.map (Prod.map (fun _ => expr) id),
        Stuck.furthest (Parser.expression cursor).stuck? (Parser.finish between).stuck?⟩ := by
  rw [Parser.wholeExpression, Parser.bind_of_some read, Parser.map_apply]

/-- What the reader refuses to go on with, it does not read. -/
theorem read?_of_refuses {before rest : List Token}
    (read : advance? (.operand []) before = some final) (refuses : Refuses final rest) :
    read? (before ++ rest) = none := by
  rw [read?, advance?_append, read, Option.bind_some]
  cases rest with
  | nil => exact refuses
  | cons token rest =>
    have refused : step? final token = none := refuses
    rw [advance?, refused]
    rfl

/-- The reader gets through some tokens and refuses to go on with the others, and it is there
that a parser got stuck. -/
def Halts (words : List Token) (stuck? : Option Stuck) : Prop :=
  ∃ count ≤ words.length, ∃ final, advance? (.operand []) (words.take count) = some final ∧
    Refuses final (words.drop count) ∧ Marks stuck? ⟨count, words.drop count⟩ (Names final)

theorem Leads.halts {words : List Token} {place : Cursor} {stuck? : Option Stuck}
    (leads : Leads ⟨0, words⟩ (.operand []) place final) (refuses : Refuses final place.rest)
    (marks : Marks stuck? place (Names final)) : Halts words stuck? := by
  obtain ⟨count, within, rfl, read⟩ := leads.advance?
  rw [Nat.zero_add] at marks
  exact ⟨count, within, final, read, refuses, marks⟩

/-- Behind an expression nothing may be left. -/
theorem finish_cases_of_read {words : List Token} {next : Cursor}
    (given : (Parser.expression ⟨0, words⟩).value? = some (expr, next))
    (leads : Leads ⟨0, words⟩ (.operand []) next final)
    (kept : Holds final expr [] Layer.disjunction.bound)
    (missed : Missed (Takes .disjunction final) (Parser.expression ⟨0, words⟩).stuck? next) :
    (read? words = some expr ∧
      (Parser.wholeExpression ⟨0, words⟩).value? = some (expr, next)) ∨
    ∃ stuck?, Parser.wholeExpression ⟨0, words⟩ = ⟨none, stuck?⟩ ∧ Halts words stuck? := by
  have whole := wholeExpression_of_some given
  rcases Parser.finish_cases next with ⟨ended, read⟩ | ⟨more, refused⟩
  · rw [read] at whole
    obtain ⟨count, within, rfl, advanced⟩ := leads.advance?
    rw [List.take_of_length_le (List.drop_eq_nil_iff.mp ended)] at advanced
    have finished : read? words = some expr := by
      rw [read?, advanced, Option.bind_some, kept.finish (by decide)]
    exact .inl ⟨finished, congrArg Attempt.value? whole⟩
  · rw [refused] at whole
    refine .inr ⟨_, whole, leads.halts ?_ ((missed.marks.furthest (.refuse ..)).congr ?_)⟩
    · refine kept.refuses (by decide) rfl (fun token comes => ?_) fun _ => more
      rintro (taken | closes)
      · exact missed.absent token comes taken
      · exact closes
    · intro pattern
      rw [kept.names_iff (by decide) rfl]
      simp [Closes]

/-- A whole expression is what the reader reads. Else the parser got stuck where the reader
refuses to go on, and names what could come next there. -/
theorem wholeExpression_cases (words : List Token) :
    (∃ expr next, read? words = some expr ∧
      (Parser.wholeExpression ⟨0, words⟩).value? = some (expr, next)) ∨
    ∃ stuck?, Parser.wholeExpression ⟨0, words⟩ = ⟨none, stuck?⟩ ∧ Halts words stuck? := by
  have attempted : Attempted .disjunction [] ⟨0, words⟩ (Parser.expression ⟨0, words⟩) :=
    follows_recursiveWithin (words.length + 1) [] ⟨0, words⟩ (Nat.le_refl _) (Nat.lt_succ_self _)
      fun deeper => absurd deeper (by decide)
  cases attempted with
  | idle blank none marks =>
    have names := marks.congr fun pattern =>
      show Names (.operand []) pattern ↔ _ by simp [names_operand, Prefixed]
    exact .inr ⟨_, wholeExpression_of_none none,
      (Leads.refl ..).halts (refuses_operand blank nofun) names⟩
  | begun begins goes =>
    cases goes with
    | read given leads further kept missed =>
      exact (finish_cases_of_read given leads kept missed).imp_left fun read => ⟨_, _, read⟩
    | halted leads further refuses marks short =>
      cases given : (Parser.expression ⟨0, words⟩).value? with
      | none => exact .inr ⟨_, wholeExpression_of_none given, leads.halts refuses marks⟩
      | some read =>
        obtain ⟨expr, next⟩ := read
        obtain ⟨early, blocked, there, -⟩ := short expr next given
        have whole := wholeExpression_of_some given
        rcases Parser.finish_cases next with ⟨ended, -⟩ | ⟨-, refused⟩
        · rw [ended] at there
          cases there
        · rw [refused] at whole
          exact .inr ⟨_, whole,
            leads.halts refuses (marks.before (.some (Nat.le_refl _)) early)⟩

end Reader

end Rulebook.Script
