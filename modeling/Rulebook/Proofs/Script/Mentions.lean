import Rulebook.Proofs.Script.Steps

/-! What an expression sees of its bindings. Evaluation looks up the names that stand in
the tree by themselves and nothing else, so the other bindings make no difference to it;
names of functions are looked up among the functions, whatever else goes by them. -/
namespace Rulebook.Script

/-- Each of some names is bound to the same value by both, or by neither. -/
def Bindings.AgreeOn (names : List String) (one other : Bindings) : Prop :=
  ∀ name ∈ names, one.get? name = other.get? name

theorem constant?_eq_none_iff (name : String) :
    constant? name = none ↔ name ≠ "math.pi" ∧ name ≠ "math.huge" := by
  unfold constant?
  split <;> simp_all

theorem lookUp_congr {one other : Bindings} {name : String}
    (same : one.get? name = other.get? name) : lookUp one name = lookUp other name := by
  simp only [lookUp, same]

namespace Expr

section Agreement
variable {one other : Bindings} (limit : Nat)

mutual

/-- A tree is evaluated alike, steps included, under bindings that agree on its names. -/
theorem evaluate_congr (expr : Expr) (agree : Bindings.AgreeOn expr.names one other) :
    expr.evaluate one limit = expr.evaluate other limit := by
  cases expr with
  | literal value => rfl
  | name mentioned =>
    have same := agree mentioned (List.mem_singleton_self mentioned)
    rw [evaluate, evaluate, lookUp_congr same]
  | unary op operand => rw [evaluate, evaluate, evaluate_congr operand agree]
  | binary op left right =>
    obtain ⟨agreeLeft, agreeRight⟩ := List.forall_mem_append.mp agree
    rw [evaluate, evaluate, evaluate_congr left agreeLeft, evaluate_congr right agreeRight]
  | call function arguments => rw [evaluate, evaluate, evaluateAll_congr arguments agree]

theorem evaluateAll_congr (exprs : List Expr)
    (agree : Bindings.AgreeOn (namesOfAll exprs) one other) :
    evaluateAll one limit exprs = evaluateAll other limit exprs := by
  cases exprs with
  | nil => rfl
  | cons expr rest =>
    obtain ⟨agreeFirst, agreeRest⟩ := List.forall_mem_append.mp agree
    rw [evaluateAll, evaluateAll, evaluate_congr expr agreeFirst,
      evaluateAll_congr rest agreeRest]

end

end Agreement

end Expr

section Engine
variable {limits : Limits} {text : String}

theorem engine_evaluate_congr {one other : Bindings}
    (agree : ∀ expr, compile limits text = .ok expr → Bindings.AgreeOn expr.names one other) :
    (engine limits).evaluate text one = (engine limits).evaluate text other := by
  change evaluate limits text one = evaluate limits text other
  rw [evaluate, evaluate]
  cases compiled : compile limits text with
  | error error => rfl
  | ok expr =>
    change ((expr.evaluate one _).run 0 >>= _) = ((expr.evaluate other _).run 0 >>= _)
    rw [expr.evaluate_congr _ (agree expr compiled)]

/-- An error that is not about the text is due to what the tree mentions. -/
theorem dueTo_engine {bindings : Bindings} {error : EvalError}
    (failed : (engine limits).evaluate text bindings = .error error) (dynamic : error.Dynamic) :
    ∃ expr, compile limits text = .ok expr ∧
      error.DueTo bindings expr.names expr.functions := by
  change evaluate limits text bindings = .error error at failed
  rcases bind_eq_error_iff.mp failed with malformed | ⟨expr, compiled, failed⟩
  · exact absurd dynamic (failsOnly_compile limits text error malformed)
  · refine ⟨expr, compiled, ?_⟩
    rcases bind_eq_error_iff.mp failed with failed | ⟨_, _, ended⟩
    · exact expr.dueTo_evaluate bindings _ (List.Subset.refl _) (List.Subset.refl _) 0 error failed
    · cases ended

end Engine

/-- The value of an expression is a matter of the names that stand in its tree by
themselves. Bindings that agree on these give the same result; only one of these can be
reported unknown, and only if it is neither bound nor a constant; only functions that are
called can be reported unknown or wrong in the number of their arguments; and what a name
is bound to that only a function goes by is of no account. -/
theorem sees_only_mentioned (limits : Limits) (text : String) :
    (∀ one other,
      (∀ expr, compile limits text = .ok expr → Bindings.AgreeOn expr.names one other) →
        (engine limits).evaluate text one = (engine limits).evaluate text other) ∧
    (∀ bindings name, (engine limits).evaluate text bindings = .error (.unknownName name) →
      ∃ expr, compile limits text = .ok expr ∧ name ∈ expr.names ∧ bindings.get? name = none ∧
        name ≠ "math.pi" ∧ name ≠ "math.huge") ∧
    (∀ expr bindings, compile limits text = .ok expr →
      (∀ name ∈ expr.names, name ≠ "math.pi" → name ≠ "math.huge" →
        ∃ value, bindings.get? name = some value) →
      ∀ name, (engine limits).evaluate text bindings ≠ .error (.unknownName name)) ∧
    (∀ bindings function,
      ((engine limits).evaluate text bindings = .error (.unknownFunction function) ∨
        ∃ expected found,
          (engine limits).evaluate text bindings = .error (.arity function expected found)) →
      ∃ expr, compile limits text = .ok expr ∧ function ∈ expr.functions) ∧
    ∀ expr function, compile limits text = .ok expr → function ∈ expr.functions →
      function ∉ expr.names → ∀ one other : Bindings,
        (∀ name, name ≠ function → one.get? name = other.get? name) →
          (engine limits).evaluate text one = (engine limits).evaluate text other := by
  have unknownName (bindings : Bindings) (name : String)
      (failed : (engine limits).evaluate text bindings = .error (.unknownName name)) :
      ∃ expr, compile limits text = .ok expr ∧ name ∈ expr.names ∧ bindings.get? name = none ∧
        name ≠ "math.pi" ∧ name ≠ "math.huge" := by
    obtain ⟨expr, compiled, member, unbound, unusual⟩ := dueTo_engine failed trivial
    exact ⟨expr, compiled, member, unbound, (constant?_eq_none_iff name).mp unusual⟩
  refine ⟨fun _ _ => engine_evaluate_congr, unknownName, ?_, ?_, ?_⟩
  · intro expr bindings compiled bound name failed
    obtain ⟨other, compiledOther, member, unbound, notPi, notHuge⟩ :=
      unknownName bindings name failed
    rw [compiled] at compiledOther
    cases compiledOther
    obtain ⟨value, held⟩ := bound name member notPi notHuge
    rw [unbound] at held
    cases held
  · rintro bindings function (failed | ⟨expected, found, failed⟩)
    · exact dueTo_engine failed trivial
    · exact dueTo_engine failed trivial
  · intro expr function compiled _ unmentioned one other agree
    apply engine_evaluate_congr
    intro found compiledFound name member
    rw [compiled] at compiledFound
    cases compiledFound
    exact agree name fun same => unmentioned (same ▸ member)

/-- A call on one name, compared with another name. -/
def feeText : String := "min(gold) > rate"

def feeTokens : List Located :=
  [⟨.name "min", 0, 3⟩, ⟨.symbol .leftParen, 3, 4⟩, ⟨.name "gold", 4, 8⟩,
    ⟨.symbol .rightParen, 8, 9⟩, ⟨.symbol .greater, 10, 11⟩, ⟨.name "rate", 12, 16⟩]

def feeExpr : Expr := .binary .greater (.call "min" [.name "gold"]) (.name "rate")

theorem compile_fee : compile .default feeText = .ok feeExpr := by
  have short : feeText.utf8ByteSize ≤ Limits.default.maxLength.toNat := by decide
  have tokenized : tokenize feeText = .ok feeTokens := by decide +kernel
  have shallow : feeExpr.depth ≤ Limits.default.maxDepth.toNat :=
    (Expr.depth_le_iff ..).mpr (by decide)
  exact compile_of_parse short tokenized ((parse_eq_ok_iff ..).mpr ⟨rfl, rfl, shallow⟩)

/-- A text has no minimum, whether or not something else goes by the name of the function;
without gold it is the rate that is missing; and with both no name is unknown. -/
theorem sees_only_mentioned_fee :
    let plain : Bindings := .ofList [("gold", .text "much")]
    let crowded : Bindings := .ofList [("gold", .text "much"), ("min", .nil)]
    let unrated : Bindings := .ofList [("gold", .number (.zero false))]
    let paid : Bindings := .ofList [("gold", .boolean true), ("rate", .nil)]
    compile .default feeText = .ok feeExpr ∧ "min" ∉ feeExpr.names ∧
      (engine .default).evaluate feeText plain = .error (.typeMismatch .mathFunction .text) ∧
      (engine .default).evaluate feeText crowded = .error (.typeMismatch .mathFunction .text) ∧
      (engine .default).evaluate feeText unrated = .error (.unknownName "rate") ∧
      (∃ expr, compile .default feeText = .ok expr ∧ "rate" ∈ expr.names) ∧
      ∀ name, (engine .default).evaluate feeText paid ≠ .error (.unknownName name) := by
  intro plain crowded unrated paid
  obtain ⟨-, unknown, bound, -, called⟩ := sees_only_mentioned .default feeText
  have unmentioned : "min" ∉ feeExpr.names := by decide
  have failed : (engine .default).evaluate feeText plain =
      .error (.typeMismatch .mathFunction .text) := by decide +kernel
  have missing : (engine .default).evaluate feeText unrated = .error (.unknownName "rate") := by
    decide +kernel
  have agree (name : String) (other : name ≠ "min") : crowded.get? name = plain.get? name :=
    Bindings.get?_insert_of_ne plain .nil other
  have same := called feeExpr "min" compile_fee (by decide) unmentioned crowded plain agree
  obtain ⟨expr, compiled, mentioned, -⟩ := unknown unrated "rate" missing
  refine ⟨compile_fee, unmentioned, failed, same.trans failed, missing, ⟨expr, compiled, mentioned⟩,
    bound feeExpr paid compile_fee ?_⟩
  intro name member _ _
  rcases List.mem_pair.mp member with rfl | rfl
  · exact ⟨.boolean true, rfl⟩
  · exact ⟨.nil, rfl⟩

end Rulebook.Script
