import Rulebook.Script.Expr

/-! The height of an expression tree, by recursion on the tree. Measuring with a
list of pending subtrees gives the same number, whichever of them is taken next and
wherever its children are put: a visit never changes the lowest level that is still
to be found. -/
namespace Rulebook.Script.Expr

mutual

/-- One for a leaf; otherwise one more than the tallest child. -/
def height : Expr → Nat
  | literal _ | name _ => 1
  | unary _ operand => height operand + 1
  | binary _ left right => max (height left) (height right) + 1
  | call _ arguments => heightOfAll arguments + 1

/-- The height of the tallest of several trees, zero if there are none. -/
def heightOfAll : List Expr → Nat
  | [] => 0
  | expr :: rest => max (height expr) (heightOfAll rest)

end

theorem height_eq (expr : Expr) : expr.height = heightOfAll expr.children + 1 := by
  cases expr <;> simp [height, heightOfAll, children]

/-- The greatest level in pending subtrees, each standing at its own level. -/
def lowest : List (Expr × Nat) → Nat
  | [] => 0
  | (expr, level) :: rest => max (level + heightOfAll expr.children) (lowest rest)

theorem lowest_append (first second : List (Expr × Nat)) :
    lowest (first ++ second) = max (lowest first) (lowest second) := by
  induction first with
  | nil => simp [lowest]
  | cons entry rest ih => simp [lowest, ih, Nat.max_assoc]

theorem lowest_children (children : List Expr) (level : Nat) :
    max level (lowest (children.map fun child => (child, level + 1))) =
      level + heightOfAll children := by
  induction children with
  | nil => simp [lowest, heightOfAll]
  | cons child rest ih =>
    simp only [List.map_cons, lowest, heightOfAll, height_eq child]
    omega

theorem lowest_perm {first second : List (Expr × Nat)} (same : first.Perm second) :
    lowest first = lowest second := by
  induction same with
  | nil => rfl
  | cons entry _ ih => rw [lowest, lowest, ih]
  | swap entry other rest => rw [lowest, lowest, lowest, lowest, Nat.max_left_comm]
  | trans _ _ ih following => exact ih.trans following

theorem level_le_lowest {pending : List (Expr × Nat)} {entry : Expr × Nat}
    (member : entry ∈ pending) : entry.2 ≤ lowest pending := by
  induction pending with
  | nil => cases member
  | cons head rest ih =>
    rw [lowest]
    rcases List.mem_cons.mp member with rfl | later
    · omega
    · have := ih later
      omega

theorem nodesOfAll_perm {first second : List Expr} (same : first.Perm second) :
    nodesOfAll first = nodesOfAll second := by
  induction same with
  | nil => rfl
  | cons expr _ ih => rw [nodesOfAll, nodesOfAll, ih]
  | swap expr other rest => simp only [nodesOfAll, Nat.add_left_comm]
  | trans _ _ ih following => exact ih.trans following

/-- A tree that is being measured: the greatest level found so far, and the subtrees that
are still to be visited, each with its own level. -/
structure Walk where
  found : Nat
  pending : List (Expr × Nat)

namespace Walk

/-- Nothing has been visited yet. -/
def start (expr : Expr) : Walk :=
  ⟨0, [(expr, 1)]⟩

/-- A pending subtree is visited and its children become pending. It is left open which
subtree is taken and where the children are put. -/
inductive Visits : Walk → Walk → Prop
  | visit {found level : Nat} {expr : Expr} {pending rest next : List (Expr × Nat)}
      (taken : pending.Perm ((expr, level) :: rest))
      (put : next.Perm (expr.children.map (fun child => (child, level + 1)) ++ rest)) :
      Visits ⟨found, pending⟩ ⟨max found level, next⟩

/-- What a number of visits can lead to. -/
inductive Reaches (origin : Walk) : Nat → Walk → Prop
  | none : Reaches origin 0 origin
  | more (reached : Reaches origin count walk) (visits : walk.Visits next) :
      Reaches origin (count + 1) next

/-- The greatest level that will have been found in the end. -/
def reach (walk : Walk) : Nat :=
  max walk.found (lowest walk.pending)

/-- The number of visits that are left. -/
def remaining (walk : Walk) : Nat :=
  nodesOfAll (walk.pending.map Prod.fst)

theorem reach_start (expr : Expr) : (start expr).reach = expr.height := by
  simp [start, reach, lowest, height_eq expr, Nat.add_comm]

theorem remaining_start (expr : Expr) : (start expr).remaining = expr.nodes := by
  simp [start, remaining, nodesOfAll]

theorem remaining_eq_zero_iff (walk : Walk) : walk.remaining = 0 ↔ walk.pending = [] := by
  obtain ⟨found, pending⟩ := walk
  cases pending with
  | nil => simp [remaining, nodesOfAll]
  | cons entry rest => simp [remaining, nodesOfAll, nodes_eq]

/-- The first pending subtree may be taken, and its children put in its place. -/
theorem visits_first (found level : Nat) (expr : Expr) (rest : List (Expr × Nat)) :
    Visits ⟨found, (expr, level) :: rest⟩
      ⟨max found level, expr.children.map (fun child => (child, level + 1)) ++ rest⟩ :=
  .visit .rfl .rfl

/-- The last pending subtree may be taken, and its children put at the end, as on a stack. -/
theorem visits_last (found level : Nat) (expr : Expr) (rest : List (Expr × Nat)) :
    Visits ⟨found, rest ++ [(expr, level)]⟩
      ⟨max found level, rest ++ expr.children.map fun child => (child, level + 1)⟩ :=
  .visit List.perm_append_comm List.perm_append_comm

/-- A visit finds what it takes away from the pending subtrees. -/
theorem Visits.reach_eq {walk next : Walk} (visits : walk.Visits next) :
    next.reach = walk.reach := by
  cases visits with
  | @visit found level expr pending rest next taken put =>
    have below := lowest_children expr.children level
    rw [reach, reach, lowest_perm taken, lowest_perm put, lowest_append, lowest]
    simp only
    omega

theorem Visits.remaining_eq {walk next : Walk} (visits : walk.Visits next) :
    next.remaining + 1 = walk.remaining := by
  cases visits with
  | @visit found level expr pending rest next taken put =>
    rw [remaining, remaining, nodesOfAll_perm (taken.map _), nodesOfAll_perm (put.map _)]
    simp only [List.map_append, List.map_map, Function.comp_def, List.map_id', nodesOfAll_append,
      List.map_cons, nodesOfAll, nodes_eq expr]
    omega

/-- A walk can go on until nothing is pending. -/
theorem exists_visits {walk : Walk} (unfinished : walk.pending ≠ []) :
    ∃ next, walk.Visits next := by
  obtain ⟨found, pending⟩ := walk
  cases pending with
  | nil => exact absurd rfl unfinished
  | cons entry rest => exact ⟨_, visits_first found entry.2 entry.1 rest⟩

theorem Reaches.reach_eq {origin walk : Walk} {count : Nat} (reached : origin.Reaches count walk) :
    walk.reach = origin.reach := by
  induction reached with
  | none => rfl
  | more _ visits ih => exact visits.reach_eq.trans ih

theorem Reaches.remaining_eq {origin walk : Walk} {count : Nat}
    (reached : origin.Reaches count walk) : walk.remaining + count = origin.remaining := by
  induction reached with
  | none => rfl
  | more _ visits ih =>
    have := visits.remaining_eq
    omega

theorem Reaches.after {origin next walk : Walk} {count : Nat} (visits : origin.Visits next)
    (reached : next.Reaches count walk) : origin.Reaches (count + 1) walk := by
  induction reached with
  | none => exact .more .none visits
  | more _ following ih => exact .more ih following

/-- Measuring is a walk that goes on until nothing is pending. -/
theorem exists_reaches_deepest (found : Nat) (pending : List (Expr × Nat)) :
    ∃ count, Reaches ⟨found, pending⟩ count ⟨deepest found pending, []⟩ := by
  induction found, pending using deepest.induct with
  | case1 found =>
    rw [deepest]
    exact ⟨0, .none⟩
  | case2 found expr level pending ih =>
    obtain ⟨count, reached⟩ := ih
    rw [deepest]
    exact ⟨count + 1, reached.after (visits_first found level expr pending)⟩

end Walk

/-- A finished walk has found the height. -/
theorem depth_eq_height (expr : Expr) : expr.depth = expr.height := by
  obtain ⟨count, reached⟩ := Walk.exists_reaches_deepest 0 [(expr, 1)]
  have found := reached.reach_eq.trans (Walk.reach_start expr)
  rwa [Walk.reach, lowest, Nat.max_zero] at found

/-- The measure of a tree stays within a limit exactly if the tree is no taller. -/
theorem depth_le_iff (expr : Expr) (limit : Nat) : expr.depth ≤ limit ↔ expr.height ≤ limit := by
  rw [depth_eq_height]

/-- Measuring a tree finds its height, after one visit to every node. So does every other
walk over it, in whatever order it takes the pending subtrees: it ends after as many visits,
and no level that it comes across is greater than the height, so that a counter with room
for the height has room for all of them. -/
theorem measured_in_any_order (expr : Expr) :
    expr.depth = expr.height ∧
    (Walk.start expr).Reaches expr.nodes ⟨expr.depth, []⟩ ∧
    ∀ (count : Nat) (walk : Walk), (Walk.start expr).Reaches count walk →
      count ≤ expr.nodes ∧ walk.found ≤ expr.height ∧
      (∀ entry ∈ walk.pending, entry.2 ≤ expr.height) ∧
      (walk.pending ≠ [] → ∃ next, walk.Visits next) ∧
      (walk.pending = [] → count = expr.nodes ∧ walk.found = expr.height) := by
  have counted {count : Nat} {walk : Walk} (reached : (Walk.start expr).Reaches count walk) :
      walk.remaining + count = expr.nodes :=
    reached.remaining_eq.trans (Walk.remaining_start expr)
  refine ⟨depth_eq_height expr, ?_, fun count walk reached => ?_⟩
  · obtain ⟨count, reached⟩ := Walk.exists_reaches_deepest 0 [(expr, 1)]
    have all := counted reached
    rw [(Walk.remaining_eq_zero_iff _).mpr rfl, Nat.zero_add] at all
    exact all ▸ reached
  · have total := counted reached
    have reach : max walk.found (lowest walk.pending) = expr.height :=
      reached.reach_eq.trans (Walk.reach_start expr)
    refine ⟨by omega, by omega, fun entry member => ?_, Walk.exists_visits, fun finished => ?_⟩
    · have level := level_le_lowest member
      omega
    · rw [finished, lowest, Nat.max_zero] at reach
      rw [(Walk.remaining_eq_zero_iff walk).mpr finished, Nat.zero_add] at total
      exact ⟨total, reach⟩

/-- Half-way through a tree of three levels, the call has been taken from the end before
the negation. -/
theorem measured_in_any_order_stack :
    let negated : Expr := .unary .negate (.name "nA")
    let called : Expr := .call "max" [.name "nB", .literal .nil]
    let expr : Expr := .binary .add negated called
    let walk : Walk := ⟨3, [(negated, 2), (.name "nB", 3)]⟩
    (Walk.start expr).Reaches 3 walk ∧ expr.depth = 3 ∧ expr.nodes = 6 ∧ walk.found ≤ 3 ∧
      (∀ entry ∈ walk.pending, entry.2 ≤ 3) ∧ ∃ next, walk.Visits next := by
  intro negated called expr walk
  have reached : (Walk.start expr).Reaches 3 walk :=
    .more (.more (.more .none (Walk.visits_last 0 1 expr []))
      (Walk.visits_last 1 2 called [(negated, 2)]))
      (Walk.visits_last 2 3 (.literal .nil) [(negated, 2), (.name "nB", 3)])
  obtain ⟨measured, -, walks⟩ := measured_in_any_order expr
  obtain ⟨-, found, levels, goesOn, -⟩ := walks 3 walk reached
  exact ⟨reached, measured, rfl, found, levels, goesOn (List.cons_ne_nil _ _)⟩

end Rulebook.Script.Expr
