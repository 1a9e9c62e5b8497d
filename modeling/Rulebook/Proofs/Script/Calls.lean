import Mathlib.Data.List.Forall2
import Rulebook.Proofs.Script.Infix

/-! Expressions without an operator: a name by itself, and a call of a function by
name on two others. -/
namespace Rulebook.Script
open Rulebook.Numeric

namespace Expr

/-- Names that are arguments take a step each. -/
theorem evaluateAll_names {bindings : Bindings} {names : List String} {values : List Datum}
    (bound : List.Forall₂ (fun name value => bindings.get? name = some value) names values)
    {limit used : Nat} (room : used + names.length ≤ limit) :
    evaluateAll bindings limit (names.map .name) used = .ok (values, used + names.length) := by
  induction bound generalizing used with
  | nil =>
    rw [List.map_nil, evaluateAll]
    rfl
  | @cons name value names values first _ ih =>
    have longer : used + 1 + names.length = used + (name :: names).length := by
      rw [List.length_cons, Nat.add_right_comm, Nat.add_assoc]
    have evaluated : (Expr.name name).evaluate bindings limit used = .ok (value, used + 1) :=
      evaluate_name first (by omega)
    have evaluatedRest : evaluateAll bindings limit (names.map .name) (used + 1) =
        .ok (values, used + 1 + names.length) := ih (longer ▸ room)
    rw [List.map_cons, evaluateAll, Metered.bind_of_ok evaluated,
      Metered.bind_of_ok evaluatedRest, longer]
    rfl

/-- A call hands the function what the names are bound to. -/
theorem evaluate_call {bindings : Bindings} {names : List String} {values : List Datum}
    (bound : List.Forall₂ (fun name value => bindings.get? name = some value) names values)
    (function : String) {limit : Nat} (room : names.length + 1 ≤ limit) :
    (Expr.call function (names.map .name)).evaluate bindings limit 0 =
      (callFunction function values).map fun value => (value, 1 + names.length) := by
  have evaluated : evaluateAll bindings limit (names.map .name) 1 =
      .ok (values, 1 + names.length) := evaluateAll_names bound (by omega)
  rw [evaluate, Metered.step_bind_of_lt (by omega), Metered.bind_of_ok evaluated,
    Metered.lift_apply]

end Expr

/-- The token of a name by itself. -/
def nameTokens (name : String) : List Located :=
  [⟨.name name, 0, name.utf8ByteSize⟩]

/-- A call of a function on two names, as an expression. -/
def callText (function first second : String) : String :=
  function ++ "(" ++ first ++ ", " ++ second ++ ")"

/-- The tokens of a call of a function on two names. -/
def callTokens (function first second : String) : List Located :=
  let opened := function.utf8ByteSize
  let comma := opened + 1 + first.utf8ByteSize
  let closed := comma + 2 + second.utf8ByteSize
  [⟨.name function, 0, opened⟩, ⟨.symbol .leftParen, opened, opened + 1⟩,
    ⟨.name first, opened + 1, comma⟩, ⟨.symbol .comma, comma, comma + 1⟩,
    ⟨.name second, comma + 2, closed⟩, ⟨.symbol .rightParen, closed, closed + 1⟩]

theorem parse_nameTokens (name : String) {maxDepth : Nat} (deep : 1 ≤ maxDepth) :
    parse (nameTokens name) maxDepth = .ok (.name name) :=
  (parse_eq_ok_iff ..).mpr ⟨rfl, rfl, (Expr.depth_le_iff ..).mpr deep⟩

theorem parse_callTokens (function first second : String) {maxDepth : Nat}
    (deep : 2 ≤ maxDepth) :
    parse (callTokens function first second) maxDepth =
      .ok (.call function ([first, second].map .name)) := by
  refine (parse_eq_ok_iff ..).mpr ⟨?_, rfl, ?_⟩
  · have room : 0 < maxDepth := Nat.lt_of_lt_of_le Nat.two_pos deep
    simpa [callTokens, Parser.nestsWithin] using room
  · exact (Expr.depth_le_iff ..).mpr deep

section Engine
variable {limits : Limits} {bindings : Bindings}

/-- The engine gives what a name is bound to. -/
theorem engine_name {name : String} {value : Datum} (admitted : limits.Admit name)
    (tokenized : tokenize name = .ok (nameTokens name))
    (bound : bindings.get? name = some value) :
    (engine limits).evaluate name bindings = .ok value := by
  have deep : 1 ≤ limits.maxDepth.toNat := Nat.le_of_succ_le admitted.depth
  have room : 0 < limits.maxSteps.toNat := Nat.lt_of_lt_of_le (by decide) admitted.steps
  exact engine_of_compile (compile_of_parse admitted.length tokenized (parse_nameTokens name deep))
    (Expr.evaluate_name bound room)

/-- The engine calls the function on what the names are bound to. -/
theorem engine_call {function first second : String} {left right : Datum}
    (admitted : limits.Admit (callText function first second))
    (tokenized : tokenize (callText function first second) =
      .ok (callTokens function first second))
    (boundFirst : bindings.get? first = some left)
    (boundSecond : bindings.get? second = some right) :
    (engine limits).evaluate (callText function first second) bindings =
      callFunction function [left, right] :=
  engine_of_compile
    (compile_of_parse admitted.length tokenized
      (parse_callTokens function first second admitted.depth))
    (Expr.evaluate_call (.cons boundFirst (.cons boundSecond .nil)) function admitted.steps)

end Engine

end Rulebook.Script
