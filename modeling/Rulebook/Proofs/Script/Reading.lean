import Rulebook.Proofs.Script.Reader

/-! The reader accepts the phrases of the grammar and nothing else. For one
direction, every phrase is read to its end and leaves its tree behind: operators
that bind less than the phrase find the state as if the tree were one operand.
For the other, every state stands for the tokens read so far: the frames still
open account for a first part, and what remains is a phrase. -/
namespace Rulebook.Script

namespace Reader

/-- Wherever a phrase may stand as an operand, its tokens are read to the end
and leave its tree behind. -/
def Reads (layer : Layer) (tokens : List Token) (expr : Expr) : Prop :=
  ∀ pending, required pending ≤ layer.rank →
    ∃ state, advance? (.operand pending) tokens = some state ∧
      Holds state expr pending layer.bound

private theorem reads_arguments (function : String) (outer : List Frame)
    (first : List Token × Expr) (rest : List (List Token × Expr)) (done : List Expr)
    (each : ∀ argument ∈ first :: rest, Reads .disjunction argument.1 argument.2) :
    advance? (.operand (.call function done :: outer))
        (commaSeparated ((first :: rest).map Prod.fst) ++ [.symbol .rightParen]) =
      some (.complete (.call function (done ++ (first :: rest).map Prod.snd)) outer) := by
  obtain ⟨state, read, holds⟩ := each first (by simp) (.call function done :: outer) (Nat.le_refl _)
  induction rest generalizing first done state with
  | nil =>
    have closed := holds.step_lastArgument (by decide)
    simp [commaSeparated, advance?_append, read, advance?, closed]
  | cons second rest ih =>
    obtain ⟨next, nextRead, nextHolds⟩ := each second (by simp)
      (.call function (done ++ [first.2]) :: outer) (Nat.le_refl _)
    have continued := ih second (done ++ [first.2])
      (fun argument member => each argument (List.mem_cons_of_mem _ member)) next nextRead nextHolds
    have passed := holds.step_comma (by decide)
    simpa [commaSeparated, List.intercalate, advance?_append, read, advance?, passed]
      using continued

theorem reads_of_derives (derives : Derives layer tokens expr) : Reads layer tokens expr := by
  induction derives with
  | tighter next inside ih =>
    intro pending fits
    have deeper := Layer.rank_tighter next
    obtain ⟨state, read, holds⟩ := ih pending (by omega)
    exact ⟨state, read, holds.weaken (Layer.bound_tighter next)⟩
  | binary op left right leftReads rightReads =>
    intro pending fits
    have level := op.rank_layer
    obtain ⟨between, readLeft, holdsLeft⟩ := leftReads pending
      (Nat.le_trans fits op.rank_layer_le_leftLayer)
    -- the operator settles its left operand and leaves the frames outside alone
    have taken := holdsLeft.step_operator op.level_lt_bound_leftLayer (level ▸ fits)
    obtain ⟨state, readRight, holdsRight⟩ := rightReads (.binary _ op :: pending) (Nat.le_refl _)
    refine ⟨state, ?_, op.bound_layer ▸ holdsRight.binary op.rightLevel_le_bound_rightLayer⟩
    simp [advance?_append, advance?, readLeft, taken, readRight]
  | unary op operand ih =>
    intro pending fits
    obtain ⟨state, read, holds⟩ := ih (.unary op :: pending) (Nat.le_refl _)
    refine ⟨state, ?_, holds.unary (Nat.le_refl _)⟩
    have taken : step? (.operand pending) (.symbol op.symbol) =
        some (.operand (.unary op :: pending)) := by cases op <;> rfl
    simp [advance?, taken, read]
  | literal written =>
    intro pending fits
    refine ⟨_, ?_, holds_complete _ pending _⟩
    simp [advance?, step?, begin?_literal written]
  | name name =>
    intro pending fits
    exact ⟨.name name pending, rfl, _, _, rfl, fun _ _ => rfl⟩
  | call function arguments each ih =>
    intro pending fits
    refine ⟨_, ?_, holds_complete _ pending _⟩
    cases arguments with
    | nil => rfl
    | cons first rest => exact reads_arguments function pending first rest [] ih
  | group inside ih =>
    intro pending fits
    obtain ⟨state, read, holds⟩ := ih (.group :: pending) (Nat.le_refl _)
    refine ⟨_, ?_, holds_complete _ pending _⟩
    have opened : step? (.operand pending) (.symbol .leftParen) =
      some (.operand (.group :: pending)) := rfl
    simp [advance?, opened, advance?_append, read, holds.step_group (by decide)]

/-- Frames that reading these tokens may have left behind. The left operand of
a pending operator is already a phrase of the layer the operator asks for. -/
inductive Opened : List Token → List Frame → Prop where
  | start : Opened [] []
  | unary (op : UnaryOp) (outer : Opened before pending) :
      Opened (before ++ [.symbol op.symbol]) (.unary op :: pending)
  | binary (op : BinaryOp) (outer : Opened before pending)
      (left : Derives op.leftLayer tokens first) (fits : required pending ≤ op.layer.rank) :
      Opened (before ++ (tokens ++ [.symbol op.symbol])) (.binary first op :: pending)
  | group (outer : Opened before pending) :
      Opened (before ++ [.symbol .leftParen]) (.group :: pending)
  | call (function : String) (arguments : List (List Token × Expr))
      (outer : Opened before pending)
      (each : ∀ argument ∈ arguments, Derives .disjunction argument.1 argument.2) :
      Opened (before ++ .name function :: .symbol .leftParen ::
          arguments.flatMap fun argument => argument.1 ++ [.symbol .comma])
        (.call function (arguments.map Prod.snd) :: pending)

/-- What a state says about the tokens read so far. -/
def Represents (read : List Token) : ParseState → Prop
  | .operand pending => Opened read pending
  | .complete expr pending =>
    ∃ before tokens, read = before ++ tokens ∧ Opened before pending ∧ Derives .atom tokens expr
  | .name name pending => ∃ before, read = before ++ [.name name] ∧ Opened before pending

theorem required_le_atom (pending : List Frame) : required pending ≤ Layer.atom.rank :=
  Nat.le_trans (required_le_prefixed pending) (by decide)

/-- Completing operators keeps the tokens: those that belonged to the frames
completed now belong to the phrase. -/
theorem settle_sound (level : Nat) (opened : Opened before pending)
    (derives : Derives layer tokens expr) (fits : required pending ≤ layer.rank)
    (below : level < layer.bound) :
    ∃ outside inside wider, before ++ tokens = outside ++ inside ∧
      Opened outside (settle level expr pending).2 ∧
      Derives wider inside (settle level expr pending).1 ∧ level < wider.bound ∧
      required (settle level expr pending).2 ≤ max level Layer.disjunction.rank := by
  induction opened generalizing layer tokens expr with
  | start => exact ⟨_, _, _, rfl, .start, derives, below, Nat.le_max_right ..⟩
  | @unary before pending op outer ih =>
    by_cases settles : level < UnaryOp.level
    · have phrase := Derives.unary op (derives.loosen fits)
      obtain ⟨outside, inside, wider, same, facts⟩ :=
        ih phrase (required_le_prefixed pending) settles
      refine ⟨outside, inside, wider, by simpa using same, ?_⟩
      simpa only [settle, if_pos settles] using facts
    · simp only [settle, if_neg settles]
      exact ⟨_, _, _, rfl, .unary op outer, derives, below,
        Nat.le_trans (Nat.not_lt.mp settles) (Nat.le_max_left ..)⟩
  | @binary before pending leftTokens first op outer left outerFits ih =>
    by_cases settles : level < op.rightLevel
    · have phrase := Derives.binary op left (derives.loosen fits)
      obtain ⟨outside, inside, wider, same, facts⟩ :=
        ih phrase outerFits (op.bound_layer ▸ settles)
      refine ⟨outside, inside, wider, by simpa using same, ?_⟩
      simpa only [settle, if_pos settles] using facts
    · have stays : op.rightLayer.rank ≤ level := op.rank_rightLayer ▸ Nat.not_lt.mp settles
      simp only [settle, if_neg settles]
      exact ⟨_, _, _, rfl, .binary op outer left outerFits, derives, below,
        Nat.le_trans stays (Nat.le_max_left ..)⟩
  | group outer => exact ⟨_, _, _, rfl, .group outer, derives, below, Nat.le_max_right ..⟩
  | call function arguments outer each =>
    exact ⟨_, _, _, rfl, .call function arguments outer each, derives, below, Nat.le_max_right ..⟩

theorem Opened.group_inv (opened : Opened soFar (.group :: outer)) :
    ∃ before, soFar = before ++ [.symbol .leftParen] ∧ Opened before outer := by
  cases opened with
  | group inner => exact ⟨_, rfl, inner⟩

theorem Opened.call_inv (opened : Opened soFar (.call function done :: outer)) :
    ∃ (before : List Token) (arguments : List (List Token × Expr)),
      Opened before outer ∧ done = arguments.map Prod.snd ∧
      (∀ argument ∈ arguments, Derives .disjunction argument.1 argument.2) ∧
      soFar = before ++ .name function :: .symbol .leftParen ::
        arguments.flatMap fun argument => argument.1 ++ [.symbol .comma] := by
  cases opened with
  | call function arguments inner each => exact ⟨_, arguments, inner, rfl, each, rfl⟩

theorem commaSeparated_concat (phrases : List (List Token)) (last : List Token) :
    commaSeparated (phrases ++ [last]) =
      (phrases.flatMap fun phrase => phrase ++ [.symbol .comma]) ++ last := by
  induction phrases with
  | nil => simp [commaSeparated]
  | cons first rest ih =>
    cases rest with
    | nil => simp [commaSeparated, List.intercalate]
    | cons second rest =>
      simp only [List.cons_append, commaSeparated, List.intercalate_cons_cons,
        List.flatMap_cons] at ih ⊢
      rw [ih]
      simp

theorem each_concat {arguments : List (List Token × Expr)}
    (each : ∀ argument ∈ arguments, Derives .disjunction argument.1 argument.2)
    (last : Derives .disjunction tokens expr) :
    ∀ argument ∈ arguments ++ [(tokens, expr)], Derives .disjunction argument.1 argument.2 := by
  intro argument member
  rcases List.mem_append.mp member with earlier | final
  · exact each argument earlier
  · exact List.mem_singleton.mp final ▸ last

/-- Closing a call makes an atom of its tokens. -/
theorem derives_call (function : String) (arguments : List (List Token × Expr))
    (each : ∀ argument ∈ arguments, Derives .disjunction argument.1 argument.2)
    (last : Derives .disjunction tokens expr) :
    Derives .atom
      (.name function :: .symbol .leftParen ::
        ((arguments.flatMap fun argument => argument.1 ++ [.symbol .comma]) ++ tokens ++
          [.symbol .rightParen]))
      (.call function (arguments.map Prod.snd ++ [expr])) := by
  have call := Derives.call function (arguments ++ [(tokens, expr)]) (each_concat each last)
  simpa [commaSeparated_concat, List.flatMap_map] using call

/-- Completing all operators inside a bracket leaves a phrase that reaches from
the bracket to the end. -/
theorem settle_zero_sound (opened : Opened before pending) (derives : Derives .atom tokens expr)
    (settled : settle 0 expr pending = (whole, frames)) :
    ∃ outside inside, before ++ tokens = outside ++ inside ∧ Opened outside frames ∧
      Derives .disjunction inside whole := by
  obtain ⟨outside, inside, layer, same, stillOpened, phrase, -⟩ :=
    settle_sound 0 opened derives (required_le_atom pending) (by decide)
  rw [settled] at stillOpened phrase
  exact ⟨outside, inside, same, stillOpened, phrase.loosen layer.rank_pos⟩

/-- Reading a token after a complete operand keeps track of all tokens. -/
theorem continue?_sound (opened : Opened before pending) (derives : Derives .atom tokens expr)
    (continued : continue? expr pending token = some next) :
    Represents (before ++ tokens ++ [token]) next := by
  rcases continue?_cases continued with ⟨op, rfl, rfl⟩ | ⟨inner, outer, rfl, settled, rfl⟩ |
    ⟨last, function, done, outer, rfl, settled, rfl⟩ |
    ⟨argument, function, done, outer, rfl, settled, rfl⟩
  -- an operator completes tighter ones first, and what it finds is a phrase of its left layer
  · have below : op.level < Layer.atom.bound := by cases op <;> decide
    obtain ⟨outside, inside, layer, same, stillOpened, phrase, high, fits⟩ :=
      settle_sound op.level opened derives (required_le_atom pending) below
    have left := phrase.loosen (op.rank_leftLayer_of_level_lt high)
    have enough : max op.level Layer.disjunction.rank ≤ op.layer.rank :=
      Nat.max_le.mpr ⟨Nat.le_of_eq op.rank_layer.symm, op.layer.rank_pos⟩
    simpa [Represents, same] using
      Opened.binary op stillOpened left (Nat.le_trans fits enough)
  · obtain ⟨outside, inside, same, stillOpened, phrase⟩ :=
      settle_zero_sound opened derives settled
    obtain ⟨start, rfl, outerOpened⟩ := stillOpened.group_inv
    exact ⟨start, _, by simp [same], outerOpened, .group phrase⟩
  · obtain ⟨outside, inside, same, stillOpened, phrase⟩ :=
      settle_zero_sound opened derives settled
    obtain ⟨start, arguments, outerOpened, rfl, each, rfl⟩ := stillOpened.call_inv
    exact ⟨start, _, by simp [same], outerOpened, derives_call function arguments each phrase⟩
  · obtain ⟨outside, inside, same, stillOpened, phrase⟩ :=
      settle_zero_sound opened derives settled
    obtain ⟨start, arguments, outerOpened, rfl, each, rfl⟩ := stillOpened.call_inv
    have longer := Opened.call function (arguments ++ [(inside, argument)]) outerOpened
      (each_concat each phrase)
    simpa [Represents, same] using longer

/-- Reading a token where an operand is due keeps track of all tokens. -/
theorem begin?_sound (opened : Opened soFar pending) (begun : begin? pending token = some next) :
    Represents (soFar ++ [token]) next := by
  rcases begin?_cases begun with ⟨value, written, rfl⟩ | ⟨name, rfl, rfl⟩ | ⟨op, rfl, rfl⟩ |
    ⟨rfl, rfl⟩ | ⟨function, outer, rfl, rfl, rfl⟩
  · exact ⟨soFar, _, rfl, opened, .literal written⟩
  · exact ⟨soFar, rfl, opened⟩
  · exact .unary op opened
  · exact .group opened
  · obtain ⟨before, arguments, outerOpened, none, -, rfl⟩ := opened.call_inv
    obtain rfl : arguments = [] := List.map_eq_nil_iff.mp none.symm
    exact ⟨before, _, by simp [commaSeparated], outerOpened, .call function [] (by simp)⟩

theorem step?_sound (represents : Represents soFar state)
    (stepped : step? state token = some next) : Represents (soFar ++ [token]) next := by
  cases state with
  | operand pending => exact begin?_sound represents stepped
  | complete expr pending =>
    obtain ⟨before, tokens, rfl, opened, derives⟩ := represents
    exact continue?_sound opened derives stepped
  | name name pending =>
    obtain ⟨before, rfl, opened⟩ := represents
    by_cases bracket : token = .symbol .leftParen
    · subst bracket
      cases stepped
      simpa [Represents] using Opened.call name [] opened (by simp)
    · rw [step?_of_held rfl bracket] at stepped
      exact continue?_sound opened (.name name) stepped

theorem advance?_sound (represents : Represents soFar state)
    (advanced : advance? state tokens = some final) : Represents (soFar ++ tokens) final := by
  induction tokens generalizing soFar state with
  | nil =>
    cases advanced
    simpa using represents
  | cons token rest ih =>
    obtain ⟨next, stepped, remaining⟩ := Option.bind_eq_some_iff.mp advanced
    simpa using ih (step?_sound represents stepped) remaining

theorem finish?_sound (represents : Represents soFar state) (finished : finish? state = some expr) :
    Derives .disjunction soFar expr := by
  have whole {last : Expr} {frames : List Frame} {before tokens : List Token}
      (opened : Opened before frames) (derives : Derives .atom tokens last)
      (finished : finish?.whole? last frames = some expr) :
      Derives .disjunction (before ++ tokens) expr := by
    unfold finish?.whole? at finished
    split at finished
    · rename_i settled
      cases finished
      obtain ⟨outside, inside, same, stillOpened, phrase⟩ :=
        settle_zero_sound opened derives settled
      cases stillOpened
      simpa [same] using phrase
    · cases finished
  cases state with
  | operand pending => cases finished
  | complete last frames =>
    obtain ⟨before, tokens, rfl, opened, derives⟩ := represents
    exact whole opened derives finished
  | name name frames =>
    obtain ⟨before, rfl, opened⟩ := represents
    exact whole opened (.name name) finished

/-- Tokens derive a tree exactly if reading them ends with that tree. -/
theorem derives_iff_advance? (tokens : List Token) (expr : Expr) :
    Derives .disjunction tokens expr ↔
      ∃ final, advance? (.operand []) tokens = some final ∧ finish? final = some expr := by
  constructor
  · intro derives
    obtain ⟨final, advanced, holds⟩ := reads_of_derives derives [] (Nat.le_refl _)
    exact ⟨final, advanced, holds.finish (by decide)⟩
  · rintro ⟨final, advanced, finished⟩
    have represents : Represents [] (.operand []) := .start
    exact finish?_sound (advance?_sound represents advanced) finished

theorem read?_eq_some_iff_derives (words : List Token) (expr : Expr) :
    read? words = some expr ↔ Derives .disjunction words expr := by
  rw [derives_iff_advance?, read?, Option.bind_eq_some_iff]

end Reader

end Rulebook.Script
