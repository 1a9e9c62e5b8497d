import Mathlib.Tactic.Tauto
import Rulebook.Script.Combinators

/-! What parsers made of smaller ones do, in terms of the smaller ones. Where a parser gets
stuck is told by marks: nothing got stuck behind a place, and at that place it is certain
patterns that could have gone on. Marks at one place are put together, and what got stuck
earlier does not count any more. -/
namespace Rulebook.Script

namespace Stuck
variable {first second third : Stuck}

@[simp]
theorem furthest_none (stuck? : Option Stuck) : furthest stuck? none = stuck? := by
  cases stuck? <;> rfl

@[simp]
theorem none_furthest (stuck? : Option Stuck) : furthest none stuck? = stuck? := rfl

theorem furthest_of_lt (later : first.position < second.position) :
    furthest (some first) (some second) = some second := by
  rw [furthest, if_neg (by omega), if_pos later]

theorem furthest_of_gt (earlier : second.position < first.position) :
    furthest (some first) (some second) = some first := by
  rw [furthest, if_pos earlier]

theorem furthest_of_eq (same : first.position = second.position) :
    furthest (some first) (some second) = some (first.join second) := by
  rw [furthest, if_neg (by omega), if_neg (by omega)]

theorem position_join (first second : Stuck) : (first.join second).position = first.position := rfl

theorem mem_join {pattern : Pattern} :
    pattern ∈ (first.join second).expected ↔
      pattern ∈ first.expected ∨ pattern ∈ second.expected := by
  simp only [join, List.mem_append, List.mem_filter, decide_eq_true_eq]
  tauto

theorem join_assoc (first second third : Stuck) :
    (first.join second).join third = first.join (second.join third) := by
  simp only [join, List.filter_append, List.filter_filter, List.append_assoc, Stuck.mk.injEq,
    true_and]
  congr 2
  refine List.filter_congr fun pattern _ => ?_
  rw [← Bool.decide_and]
  refine decide_eq_decide.mpr ?_
  simp only [List.mem_append, List.mem_filter, decide_eq_true_eq]
  tauto

/-- Which account is taken first makes no difference. -/
theorem furthest_assoc (first second third : Option Stuck) :
    furthest (furthest first second) third = furthest first (furthest second third) := by
  rcases first with _ | first
  · rfl
  rcases second with _ | second
  · rfl
  rcases third with _ | third
  · simp
  have joined := position_join first second
  have joinedLater := position_join second third
  rcases Nat.lt_trichotomy first.position second.position with one | one | one <;>
    rcases Nat.lt_trichotomy second.position third.position with other | other | other
  · rw [furthest_of_lt one, furthest_of_lt other, furthest_of_lt (by omega)]
  · rw [furthest_of_lt one, furthest_of_eq other, furthest_of_lt (by omega)]
  · rw [furthest_of_lt one, furthest_of_gt other, furthest_of_lt one]
  · rw [furthest_of_eq one, furthest_of_lt other, furthest_of_lt (by omega),
      furthest_of_lt (by omega)]
  · rw [furthest_of_eq one, furthest_of_eq other, furthest_of_eq (by omega),
      furthest_of_eq (by omega), join_assoc]
  · rw [furthest_of_eq one, furthest_of_gt other, furthest_of_eq one, furthest_of_gt (by omega)]
  · rw [furthest_of_gt one, furthest_of_lt other]
  · rw [furthest_of_gt one, furthest_of_eq other, furthest_of_gt (by omega),
      furthest_of_gt (by omega)]
  · rw [furthest_of_gt one, furthest_of_gt other, furthest_of_gt (by omega), furthest_of_gt one]

/-- Nothing got stuck behind a place. -/
def Within (limit : Nat) (stuck? : Option Stuck) : Prop :=
  ∀ stuck ∈ stuck?, stuck.position ≤ limit

namespace Within
variable {limit : Nat} {one? other? : Option Stuck}

theorem none : Within limit none :=
  nofun

theorem some (place : first.position ≤ limit) : Within limit (some first) := by
  rintro stuck ⟨⟩
  exact place

theorem mono {further : Nat} (within : Within limit one?) (le : limit ≤ further) :
    Within further one? :=
  fun stuck got => Nat.le_trans (within stuck got) le

theorem furthest (one : Within limit one?) (other : Within limit other?) :
    Within limit (Stuck.furthest one? other?) := by
  rcases one? with _ | first
  · exact other
  rcases other? with _ | second
  · exact one
  rcases Nat.lt_trichotomy first.position second.position with before | same | behind
  · rwa [furthest_of_lt before]
  · rw [furthest_of_eq same]
    exact .some (one first rfl)
  · rwa [furthest_of_gt behind]

end Within

end Stuck

/-- Nothing got stuck behind a place, and at that place certain patterns could have gone
on. -/
structure Marks (stuck? : Option Stuck) (cursor : Cursor) (named : Pattern → Prop) : Prop where
  within : Stuck.Within cursor.position stuck?
  found : ∀ stuck ∈ stuck?, stuck.position = cursor.position → stuck.found = cursor.rest.head?
  patterns : ∀ pattern, named pattern ↔
    ∃ stuck ∈ stuck?, stuck.position = cursor.position ∧ pattern ∈ stuck.expected

namespace Marks
variable {stuck? other? : Option Stuck} {cursor behind : Cursor} {named more : Pattern → Prop}

theorem congr (marks : Marks stuck? cursor named) (same : ∀ pattern, more pattern ↔ named pattern) :
    Marks stuck? cursor more :=
  ⟨marks.within, marks.found, fun pattern => (same pattern).trans (marks.patterns pattern)⟩

theorem none (cursor : Cursor) : Marks Option.none cursor fun _ => False :=
  ⟨.none, nofun, fun _ => ⟨False.elim, fun ⟨_, got, _⟩ => nomatch got⟩⟩

theorem refuse (cursor : Cursor) (pattern : Pattern) :
    Marks (some ⟨cursor.position, cursor.rest.head?, [pattern]⟩) cursor (· = pattern) := by
  refine ⟨.some (Nat.le_refl _), ?_, fun other => by simp⟩
  rintro stuck ⟨⟩ -
  rfl

/-- What got stuck before a place leaves no mark there. -/
theorem of_within {limit : Nat} (within : Stuck.Within limit stuck?)
    (further : limit < behind.position) : Marks stuck? behind fun _ => False := by
  have earlier (stuck : Stuck) (got : stuck ∈ stuck?) : stuck.position ≠ behind.position := by
    have := within stuck got
    omega
  refine ⟨within.mono (Nat.le_of_lt further), fun stuck got same => ?_,
    fun pattern => ⟨False.elim, fun ⟨stuck, got, same, _⟩ => ?_⟩⟩
  · exact absurd same (earlier stuck got)
  · exact absurd same (earlier stuck got)

theorem furthest (marks : Marks stuck? cursor named) (others : Marks other? cursor more) :
    Marks (Stuck.furthest stuck? other?) cursor fun pattern => named pattern ∨ more pattern := by
  rcases stuck? with _ | one
  · refine others.congr fun pattern => ?_
    rw [marks.patterns]
    simp
  rcases other? with _ | other
  · rw [Stuck.furthest_none]
    refine marks.congr fun pattern => ?_
    rw [others.patterns]
    simp
  have onePlace := marks.within one rfl
  have otherPlace := others.within other rfl
  rcases Nat.lt_trichotomy one.position other.position with before | same | behind
  · rw [Stuck.furthest_of_lt before]
    refine others.congr fun pattern => ?_
    rw [marks.patterns]
    have apart : one.position ≠ cursor.position := by omega
    simp [apart]
  · rw [Stuck.furthest_of_eq same]
    refine ⟨.some onePlace, ?_, fun pattern => ?_⟩
    · rintro stuck ⟨⟩ here
      exact marks.found one rfl here
    · rw [marks.patterns, others.patterns]
      simp [Stuck.mem_join, Stuck.position_join, same]
      tauto
  · rw [Stuck.furthest_of_gt behind]
    refine marks.congr fun pattern => ?_
    rw [others.patterns]
    have apart : other.position ≠ cursor.position := by omega
    simp [apart]

/-- What got stuck earlier does not count. -/
theorem after {limit : Nat} (marks : Marks stuck? behind named)
    (within : Stuck.Within limit other?) (further : limit < behind.position) :
    Marks (Stuck.furthest other? stuck?) behind named :=
  ((of_within within further).furthest marks).congr fun _ => by simp

theorem before {limit : Nat} (marks : Marks stuck? behind named)
    (within : Stuck.Within limit other?) (further : limit < behind.position) :
    Marks (Stuck.furthest stuck? other?) behind named :=
  (marks.furthest (of_within within further)).congr fun _ => by simp

end Marks

/-- Certain tokens were sought at a place: none of them comes next, and all of them could have
gone on. -/
structure Missed (sought : Token → Prop) (stuck? : Option Stuck) (cursor : Cursor) : Prop where
  absent : ∀ token, cursor.rest.head? = some token → ¬ sought token
  marks : Marks stuck? cursor fun pattern => ∃ token, sought token ∧ pattern = .token token

namespace Missed
variable {stuck? other? : Option Stuck} {cursor : Cursor} {sought more : Token → Prop}

theorem congr (missed : Missed sought stuck? cursor) (same : ∀ token, more token ↔ sought token) :
    Missed more stuck? cursor :=
  ⟨fun token here => fun wanted => missed.absent token here ((same token).mp wanted),
    missed.marks.congr fun pattern => by simp only [same]⟩

theorem of_within {limit : Nat} (within : Stuck.Within limit stuck?)
    (further : limit < cursor.position) : Missed (fun _ => False) stuck? cursor :=
  ⟨fun _ _ => id, (Marks.of_within within further).congr fun _ => by simp⟩

theorem furthest (missed : Missed sought stuck? cursor) (others : Missed more other? cursor) :
    Missed (fun token => sought token ∨ more token) (Stuck.furthest stuck? other?) cursor := by
  refine ⟨fun token here => ?_, (missed.marks.furthest others.marks).congr fun pattern => ?_⟩
  · rintro (wanted | wanted)
    · exact missed.absent token here wanted
    · exact others.absent token here wanted
  · simp only [or_and_right, exists_or]

theorem after {limit : Nat} (missed : Missed sought stuck? cursor)
    (within : Stuck.Within limit other?) (further : limit < cursor.position) :
    Missed sought (Stuck.furthest other? stuck?) cursor :=
  ⟨missed.absent, missed.marks.after within further⟩

end Missed

namespace Parser
variable {α β : Type} {cursor between : Cursor} {value : α}

theorem bind_of_none {first : Parser α} {next : α → Parser β}
    (failed : (first cursor).value? = none) :
    (first >>= next) cursor = ⟨none, (first cursor).stuck?⟩ := by
  change Parser.bind first next cursor = _
  unfold Parser.bind
  split
  · rename_i same
    rw [same]
  · rename_i same
    rw [same] at failed
    cases failed

theorem bind_of_some {first : Parser α} {next : α → Parser β}
    (read : (first cursor).value? = some (value, between)) :
    (first >>= next) cursor = ⟨(next value between).value?,
      Stuck.furthest (first cursor).stuck? (next value between).stuck?⟩ := by
  change Parser.bind first next cursor = _
  unfold Parser.bind
  split
  · rename_i same
    rw [same] at read
    cases read
  · rename_i same
    rw [same] at read ⊢
    cases read
    rfl

/-- What is made of a value does not show in where a parser got stuck. -/
theorem map_apply (parser : Parser α) (make : α → β) (cursor : Cursor) :
    (parser >>= fun value => pure (make value)) cursor =
      ⟨(parser cursor).value?.map (Prod.map make id), (parser cursor).stuck?⟩ := by
  cases read : (parser cursor).value? with
  | none => exact bind_of_none read
  | some pair =>
    rw [bind_of_some read]
    exact congrArg (Attempt.mk _) (Stuck.furthest_none _)

/-- Two things in a row, put together. -/
theorem both_apply {γ : Type} {first : Parser α} {second : Parser β} (make : α → β → γ)
    (read : (first cursor).value? = some (value, between)) :
    (do return make (← first) (← second) : Parser γ) cursor =
      ⟨(second between).value?.map (Prod.map (make value) id),
        Stuck.furthest (first cursor).stuck? (second between).stuck?⟩ := by
  rw [bind_of_some read, map_apply]

theorem orNot_of_none {parser : Parser α} (failed : (parser cursor).value? = none) :
    parser.orNot cursor = ⟨some (none, cursor), (parser cursor).stuck?⟩ := by
  unfold orNot
  split
  · rename_i same
    rw [same] at failed
    cases failed
  · rename_i same
    rw [same]

theorem orNot_of_some {parser : Parser α} (read : (parser cursor).value? = some (value, between)) :
    parser.orNot cursor = ⟨some (some value, between), (parser cursor).stuck?⟩ := by
  unfold orNot
  split
  · rename_i same
    rw [same] at read ⊢
    cases read
    rfl
  · rename_i same
    rw [same] at read
    cases read

theorem orNot_isSome (parser : Parser α) (cursor : Cursor) :
    ∃ read, (parser.orNot cursor).value? = some read := by
  cases read : (parser cursor).value? with
  | none => exact ⟨_, congrArg Attempt.value? (orNot_of_none read)⟩
  | some pair => exact ⟨_, congrArg Attempt.value? (orNot_of_some read)⟩

theorem choice_cons_of_some {first : Parser α} {others : List (Parser α)}
    (read : (first cursor).value? = some (value, between)) :
    choice (first :: others) cursor = first cursor := by
  simp only [choice]
  split
  · rename_i same
    rw [same]
  · rename_i same
    rw [same] at read
    cases read

theorem choice_cons_of_none {first : Parser α} {others : List (Parser α)}
    (failed : (first cursor).value? = none) :
    choice (first :: others) cursor = ⟨(choice others cursor).value?,
      Stuck.furthest (first cursor).stuck? (choice others cursor).stuck?⟩ := by
  simp only [choice]
  split
  · rename_i same
    rw [same] at failed
    cases failed
  · rename_i same
    rw [same]

theorem choice_singleton (parser : Parser α) (cursor : Cursor) :
    choice [parser] cursor = parser cursor := by
  cases read : (parser cursor).value? with
  | none =>
    rw [choice_cons_of_none read]
    exact congrArg₂ Attempt.mk read.symm (Stuck.furthest_none _)
  | some pair => exact choice_cons_of_some read

theorem repeatedWithin_of_none {item : Parser α} (bound : Nat)
    (failed : (item cursor).value? = none) :
    item.repeatedWithin (bound + 1) cursor = ⟨some ([], cursor), (item cursor).stuck?⟩ := by
  have missing := orNot_of_none failed
  rw [repeatedWithin, bind_of_some (congrArg Attempt.value? missing), missing]
  exact congrArg (Attempt.mk _) (Stuck.furthest_none _)

theorem repeatedWithin_of_some {item : Parser α} (bound : Nat)
    (read : (item cursor).value? = some (value, between)) :
    item.repeatedWithin (bound + 1) cursor =
      ⟨(item.repeatedWithin bound between).value?.map (Prod.map (value :: ·) id),
        Stuck.furthest (item cursor).stuck? (item.repeatedWithin bound between).stuck?⟩ := by
  have found := orNot_of_some read
  rw [repeatedWithin, bind_of_some (congrArg Attempt.value? found), found]
  simp only [map_apply]

theorem separatedBy_of_none {item : Parser α} {separator : Parser Unit}
    (failed : (item cursor).value? = none) :
    item.separatedBy separator cursor = ⟨some ([], cursor), (item cursor).stuck?⟩ := by
  have missing := orNot_of_none failed
  rw [separatedBy, bind_of_some (congrArg Attempt.value? missing), missing]
  exact congrArg (Attempt.mk _) (Stuck.furthest_none _)

theorem separatedBy_of_some {item : Parser α} {separator : Parser Unit}
    (read : (item cursor).value? = some (value, between)) :
    item.separatedBy separator cursor =
      (do return (← item) :: (← (do separator; item).repeated) : Parser (List α)) cursor := by
  have found := orNot_of_some read
  rw [separatedBy, bind_of_some (congrArg Attempt.value? found), found, bind_of_some read]

/-- Where a label takes the place of what could have gone on. -/
theorem marks_labelled_here {parser : Parser α} {label : String} {named : Pattern → Prop}
    (marks : Marks (parser cursor).stuck? cursor named) (any : ∃ pattern, named pattern) :
    Marks (parser.labelled label cursor).stuck? cursor (· = .label label) := by
  obtain ⟨pattern, any⟩ := any
  obtain ⟨stuck, got, here, -⟩ := (marks.patterns pattern).mp any
  have renamed : (parser.labelled label cursor).stuck? =
      some { stuck with expected := [.label label] } := by
    simp [labelled, Option.mem_def.mp got, here]
  rw [renamed]
  refine ⟨.some (Nat.le_of_eq here), ?_, fun other => by simp [here]⟩
  rintro _ ⟨⟩ -
  exact marks.found stuck got here

/-- Further on a label changes nothing. -/
theorem marks_labelled_further {parser : Parser α} {label : String} {place : Cursor}
    {named : Pattern → Prop} (marks : Marks (parser cursor).stuck? place named)
    (further : cursor.position < place.position) :
    Marks (parser.labelled label cursor).stuck? place named := by
  cases got : (parser cursor).stuck? with
  | none => simpa [labelled, got] using marks
  | some stuck =>
    by_cases here : stuck.position = cursor.position
    · rw [got] at marks
      have renamed : (parser.labelled label cursor).stuck? =
          some { stuck with expected := [.label label] } := by
        simp [labelled, got, here]
      have early : stuck.position ≠ place.position := by omega
      have within : Stuck.Within cursor.position
          (some { stuck with expected := [.label label] }) := .some (Nat.le_of_eq here)
      rw [renamed]
      refine (Marks.of_within within further).congr fun pattern => ?_
      rw [marks.patterns]
      simp [early]
    · simpa [labelled, got, here] using marks

/-- A token is read that has a value, or it is what the parser got stuck at. -/
theorem accept_cases (value? : Token → Option α) (pattern : Pattern) (cursor : Cursor) :
    (∃ token rest value, cursor.rest = token :: rest ∧ value? token = some value ∧
      accept value? pattern cursor = ⟨some (value, ⟨cursor.position + 1, rest⟩), none⟩) ∨
    ((∀ token, cursor.rest.head? = some token → value? token = none) ∧
      accept value? pattern cursor =
        ⟨none, some ⟨cursor.position, cursor.rest.head?, [pattern]⟩⟩) := by
  obtain ⟨position, rest⟩ := cursor
  cases rest with
  | nil => exact .inr ⟨nofun, rfl⟩
  | cons token rest =>
    cases valued : value? token with
    | some value => exact .inl ⟨token, rest, value, rfl, valued, by simp [accept, valued]⟩
    | none =>
      refine .inr ⟨?_, by simp [accept, valued, refuse]⟩
      rintro _ ⟨⟩
      exact valued

/-- A symbol is read, or it is missed. -/
theorem just_cases (symbol : Symbol) (cursor : Cursor) :
    (∃ rest, cursor.rest = .symbol symbol :: rest ∧
      just symbol cursor = ⟨some ((), ⟨cursor.position + 1, rest⟩), none⟩) ∨
    ((just symbol cursor).value? = none ∧
      Missed (· = .symbol symbol) (just symbol cursor).stuck? cursor) := by
  rcases accept_cases (fun token => if token = .symbol symbol then some () else none)
    (.token (.symbol symbol)) cursor with ⟨token, rest, _, here, valued, read⟩ | ⟨other, refused⟩
  · by_cases same : token = .symbol symbol
    · exact .inl ⟨rest, same ▸ here, read⟩
    · rw [if_neg same] at valued
      cases valued
  · have stuck : just symbol cursor = _ := refused
    rw [stuck]
    refine .inr ⟨rfl, fun token here same => ?_, ?_⟩
    · have valued := other token here
      rw [if_pos same] at valued
      cases valued
    · exact (Marks.refuse cursor _).congr fun pattern => by simp

/-- A symbol that comes next is read, and what follows it decides. -/
theorem just_bind_of_here {symbol : Symbol} {next : Unit → Parser β} {rest : List Token}
    (here : cursor.rest = .symbol symbol :: rest) :
    (just symbol >>= next) cursor = next () ⟨cursor.position + 1, rest⟩ := by
  rcases just_cases symbol cursor with ⟨rest', here', read⟩ | ⟨-, missed⟩
  · cases here.symm.trans here'
    rw [bind_of_some (congrArg Attempt.value? read), read]
    simp only [Stuck.none_furthest]
  · exact absurd rfl (missed.absent (.symbol symbol) (by rw [here]; rfl))

/-- A symbol that does not come next is missed, whatever would have followed it. -/
theorem just_bind_of_absent {symbol : Symbol} {next : Unit → Parser β} {sought : Token → Prop}
    (only : ∀ token, sought token ↔ token = .symbol symbol)
    (absent : ∀ token, cursor.rest.head? = some token → ¬ sought token) :
    ((just symbol >>= next) cursor).value? = none ∧
      Missed sought ((just symbol >>= next) cursor).stuck? cursor := by
  rcases just_cases symbol cursor with ⟨rest, here, -⟩ | ⟨failed, missed⟩
  · exact absurd ((only _).mpr rfl) (absent _ (congrArg List.head? here))
  · rw [bind_of_none failed]
    exact ⟨rfl, missed.congr only⟩

theorem finish_cases (cursor : Cursor) :
    (cursor.rest = [] ∧ finish cursor = ⟨some ((), cursor), none⟩) ∨
    (cursor.rest ≠ [] ∧
      finish cursor = ⟨none, some ⟨cursor.position, cursor.rest.head?, [.finish]⟩⟩) := by
  obtain ⟨position, rest⟩ := cursor
  cases rest with
  | nil => exact .inl ⟨rfl, rfl⟩
  | cons token rest => exact .inr ⟨nofun, rfl⟩

/-- One of several symbols is read, or all of them are missed. -/
theorem choice_just_cases (symbol : α → Symbol) (choices : List α) (cursor : Cursor) :
    let attempt := choice (choices.map fun each => do just (symbol each); return each) cursor
    (∃ each ∈ choices, ∃ rest, cursor.rest = .symbol (symbol each) :: rest ∧
      attempt.value? = some (each, ⟨cursor.position + 1, rest⟩) ∧
      Stuck.Within cursor.position attempt.stuck?) ∨
    (attempt.value? = none ∧
      Missed (fun token => ∃ each ∈ choices, token = .symbol (symbol each))
        attempt.stuck? cursor) := by
  induction choices with
  | nil =>
    refine .inr ⟨rfl, fun _ _ => nofun, (Marks.none cursor).congr fun pattern => by simp⟩
  | cons first others ih =>
    have one := map_apply (just (symbol first)) (fun _ => first) cursor
    simp only [List.map_cons]
    rcases just_cases (symbol first) cursor with ⟨rest, here, read⟩ | ⟨failed, missed⟩
    · rw [read] at one
      rw [choice_cons_of_some (congrArg Attempt.value? one), one]
      exact .inl ⟨first, List.mem_cons_self .., rest, here, rfl, .none⟩
    · rw [failed] at one
      rw [choice_cons_of_none (congrArg Attempt.value? one), one]
      rcases ih with ⟨each, member, rest, same, read, places⟩ | ⟨none, others⟩
      · refine .inl ⟨each, List.mem_cons_of_mem _ member, rest, same, read, ?_⟩
        exact missed.marks.within.furthest places
      · exact .inr ⟨none, (missed.furthest others).congr fun token => by simp⟩

end Parser

end Rulebook.Script
