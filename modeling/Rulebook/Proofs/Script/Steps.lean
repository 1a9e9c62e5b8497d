import Rulebook.Proofs.Script.EvaluationErrors
import Rulebook.Proofs.Script.Infix
import Rulebook.Proofs.Script.Scanning

/-! Evaluation without a count of steps, and the count that evaluation needs. The limit
on steps ends an evaluation that would enter more nodes and changes no other; and as a
text has no more tokens than bytes and a tree no more nodes than tokens, an expression
that is short enough always gets by. -/
namespace Rulebook.Script

/-- The steps of what follows a computation; nothing follows an error. -/
def stepsAfter (result : Except ε α) (steps : α → Nat) : Nat :=
  match result with
  | .ok value => steps value
  | .error _ => 0

theorem stepsAfter_le {steps : α → Nat} {bound : Nat} (each : ∀ value, steps value ≤ bound)
    (result : Except ε α) : stepsAfter result steps ≤ bound := by
  cases result with
  | ok value => exact each value
  | error error => exact Nat.zero_le bound

namespace Expr

mutual

/-- The value of an expression where steps are not counted. -/
def value (bindings : Bindings) : Expr → Except EvalError Datum
  | .literal value => .ok value
  | .name mentioned => lookUp bindings mentioned
  | .unary op operand => do op.apply (← value bindings operand)
  | .binary op left right => do
    let first ← value bindings left
    if op.settledBy first then return first
    op.apply first (← value bindings right)
  | .call function arguments => do callFunction function (← values bindings arguments)

/-- The values of expressions from left to right, up to the first that has none. -/
def values (bindings : Bindings) : List Expr → Except EvalError (List Datum)
  | [] => .ok []
  | expr :: rest => do
    let first ← value bindings expr
    return first :: (← values bindings rest)

end

mutual

/-- The number of nodes that are entered on the way to the value or the first error. -/
def entered (bindings : Bindings) : Expr → Nat
  | .literal _ | .name _ => 1
  | .unary _ operand => entered bindings operand + 1
  | .binary op left right =>
    entered bindings left + stepsAfter (value bindings left) (fun first =>
      if op.settledBy first then 0 else entered bindings right) + 1
  | .call _ arguments => enteredOfAll bindings arguments + 1

def enteredOfAll (bindings : Bindings) : List Expr → Nat
  | [] => 0
  | expr :: rest =>
    entered bindings expr + stepsAfter (value bindings expr) fun _ => enteredOfAll bindings rest

end

mutual

theorem failsOnValues_value (bindings : Bindings) (expr : Expr) :
    FailsOnValues (expr.value bindings) := by
  cases expr with
  | literal value => exact failsOnly_ok value
  | name mentioned => exact failsOnly_lookUp fun _ _ => trivial
  | unary op operand =>
    exact failsOnly_bind (failsOnValues_value bindings operand) fun operand _ =>
      op.failsOnly_apply (fun _ _ => trivial) operand
  | binary op left right =>
    refine failsOnly_bind (failsOnValues_value bindings left) fun first _ => ?_
    split
    · exact failsOnly_ok first
    · exact failsOnly_bind (failsOnValues_value bindings right) fun second _ =>
        op.failsOnly_apply (fun _ _ => trivial) first second
  | call function arguments =>
    exact failsOnly_bind (failsOnValues_values bindings arguments) fun values _ =>
      failsOnly_callFunction (fun _ _ => trivial) (fun _ _ => trivial) trivial values

theorem failsOnValues_values (bindings : Bindings) (exprs : List Expr) :
    FailsOnValues (values bindings exprs) := by
  cases exprs with
  | nil => exact failsOnly_ok []
  | cons expr rest =>
    exact failsOnly_bind (failsOnValues_value bindings expr) fun first _ =>
      failsOnly_bind (failsOnValues_values bindings rest) fun others _ => failsOnly_ok _

end

end Expr

namespace Metered

/-- A computation takes a number of steps and has a result; where fewer are left it runs
out of them instead. -/
def Takes (limit : Nat) (computation : Metered α) (steps : Nat) (result : Except EvalError α) :
    Prop :=
  ∀ used, used ≤ limit → computation used =
    if used + steps ≤ limit then result.map fun value => (value, used + steps)
    else .error (.stepLimit limit)

variable {limit steps : Nat} {computation : Metered α} {result : Except EvalError α}

theorem takes_pure (value : α) : Takes limit (pure value) 0 (.ok value) := by
  intro used within
  rw [Nat.add_zero, if_pos within]
  rfl

theorem takes_lift (result : Except EvalError α) : Takes limit (liftM result) 0 result := by
  intro used within
  rw [lift_apply, Nat.add_zero, if_pos within]

theorem Takes.bind {next : α → Metered β} {more : α → Nat} {following : α → Except EvalError β}
    (first : Takes limit computation steps result)
    (rest : ∀ value, Takes limit (next value) (more value) (following value)) :
    Takes limit (computation >>= next) (steps + stepsAfter result more)
      (result >>= following) := by
  intro used within
  change (computation used >>= fun between => next between.1 between.2) = _
  rw [first used within]
  by_cases room : used + steps ≤ limit
  · rw [if_pos room]
    cases result with
    | error error => exact (if_pos room).symm
    | ok value =>
      have further := rest value (used + steps) room
      rw [Nat.add_assoc] at further
      exact further
  · rw [if_neg room, if_neg (by omega)]
    rfl

/-- A step more than what follows takes. -/
theorem Takes.step (takes : Takes limit computation steps result) :
    Takes limit (step limit >>= fun _ => computation) (steps + 1) result := by
  intro used within
  by_cases room : used < limit
  · rw [step_bind_of_lt room, takes (used + 1) room, Nat.add_right_comm, Nat.add_assoc]
  · change (Metered.step limit used >>= fun between => computation between.2) = _
    rw [Metered.step, if_neg room, if_neg (by omega)]
    rfl

/-- What is made of a value at the end costs nothing more. -/
theorem Takes.finish {next : α → Metered β} {following : α → Except EvalError β}
    (takes : Takes limit computation steps result)
    (free : ∀ value, Takes limit (next value) 0 (following value)) :
    Takes limit (computation >>= next) steps (result >>= following) := by
  have nothing : stepsAfter result (fun _ => 0) = 0 := by cases result <;> rfl
  have both := takes.bind free
  rwa [nothing] at both

end Metered

namespace Expr
open Metered

mutual

/-- Evaluation takes a step for every node it enters. -/
theorem takes_evaluate (bindings : Bindings) (limit : Nat) (expr : Expr) :
    Takes limit (expr.evaluate bindings limit) (expr.entered bindings) (expr.value bindings) := by
  cases expr with
  | literal value => exact (takes_pure value).step
  | name mentioned => exact (takes_lift _).step
  | unary op operand =>
    exact ((takes_evaluate bindings limit operand).finish fun value =>
      takes_lift (op.apply value)).step
  | binary op left right =>
    refine ((takes_evaluate bindings limit left).bind fun first => ?_).step
    split
    · exact takes_pure first
    · exact (takes_evaluate bindings limit right).finish fun second =>
        takes_lift (op.apply first second)
  | call function arguments =>
    exact ((takes_evaluateAll bindings limit arguments).finish fun values =>
      takes_lift (callFunction function values)).step

theorem takes_evaluateAll (bindings : Bindings) (limit : Nat) (exprs : List Expr) :
    Takes limit (evaluateAll bindings limit exprs) (enteredOfAll bindings exprs)
      (values bindings exprs) := by
  cases exprs with
  | nil => exact takes_pure []
  | cons expr rest =>
    exact (takes_evaluate bindings limit expr).bind fun first =>
      (takes_evaluateAll bindings limit rest).finish fun others => takes_pure (first :: others)

end

mutual

/-- No node is entered twice. -/
theorem entered_le_nodes (bindings : Bindings) (expr : Expr) :
    expr.entered bindings ≤ expr.nodes := by
  cases expr with
  | literal | name => exact Nat.le_refl 1
  | unary op operand => exact Nat.succ_le_succ (entered_le_nodes bindings operand)
  | binary op left right =>
    have leftNodes := entered_le_nodes bindings left
    have rightNodes := entered_le_nodes bindings right
    refine Nat.succ_le_succ (Nat.add_le_add leftNodes (stepsAfter_le (fun first => ?_) _))
    split
    · exact Nat.zero_le _
    · exact rightNodes
  | call function arguments =>
    exact Nat.succ_le_succ (enteredOfAll_le_nodesOfAll bindings arguments)

theorem enteredOfAll_le_nodesOfAll (bindings : Bindings) (exprs : List Expr) :
    enteredOfAll bindings exprs ≤ nodesOfAll exprs := by
  cases exprs with
  | nil => exact Nat.le_refl 0
  | cons expr rest =>
    have restNodes := enteredOfAll_le_nodesOfAll bindings rest
    exact Nat.add_le_add (entered_le_nodes bindings expr) (stepsAfter_le (fun _ => restNodes) _)

end

end Expr

/-! A tree has no more nodes than its text has tokens. -/

theorem nodesOfAll_le_commaSeparated {arguments : List (List Token × Expr)}
    (each : ∀ argument ∈ arguments, argument.2.nodes ≤ argument.1.length) :
    Expr.nodesOfAll (arguments.map Prod.snd) ≤
      (commaSeparated (arguments.map Prod.fst)).length := by
  induction arguments with
  | nil => exact Nat.le_refl 0
  | cons first rest ih =>
    obtain ⟨firstFits, restFit⟩ := List.forall_mem_cons.mp each
    have others := ih restFit
    cases rest with
    | nil => simpa [commaSeparated, Expr.nodesOfAll, List.intercalate] using firstFits
    | cons second rest =>
      simp only [commaSeparated, List.map_cons, List.intercalate_cons_cons, List.length_append,
        List.length_singleton, Expr.nodesOfAll] at others ⊢
      omega

theorem Derives.nodes_le (derives : Derives layer tokens expr) : expr.nodes ≤ tokens.length := by
  induction derives with
  | tighter next inside ih => exact ih
  | binary op left right leftFits rightFits =>
    simp only [Expr.nodes, List.length_append, List.length_cons]
    omega
  | unary op operand ih => exact Nat.succ_le_succ ih
  | literal written => exact Nat.le_refl 1
  | name name => exact Nat.le_refl 1
  | call function arguments each ih =>
    have inside := nodesOfAll_le_commaSeparated ih
    simp only [Expr.nodes, List.length_append, List.length_cons]
    omega
  | group inside ih =>
    simp only [List.length_append, List.length_cons]
    omega

theorem tokenize_length_le {text : String} {tokens : List Located}
    (tokenized : tokenize text = .ok tokens) : tokens.length ≤ text.utf8ByteSize := by
  obtain ⟨stop, finds⟩ := Lexer.scan_eq_ok_iff.mp tokenized
  have covered := finds.byteLength_eq
  rw [Lexer.byteLength_toList, Lexer.byteLength_nil] at covered
  have short := finds.length_le
  omega

/-! Compiling. -/

theorem compile_eq_ok_iff {limits : Limits} {text : String} {expr : Expr} :
    compile limits text = .ok expr ↔ text.utf8ByteSize ≤ limits.maxLength.toNat ∧
      ∃ tokens, tokenize text = .ok tokens ∧ parse tokens limits.maxDepth.toNat = .ok expr := by
  unfold compile
  split
  · rename_i short
    rw [bind_eq_ok_iff]
    exact ⟨fun compiled => ⟨short, compiled⟩, fun ⟨_, compiled⟩ => compiled⟩
  · rename_i long
    exact ⟨nofun, fun ⟨short, _⟩ => absurd short long⟩

theorem failsOnly_tokenize (text : String) :
    FailsOnly (fun error => ¬error.Dynamic) (tokenize text) := by
  intro error failed
  obtain ⟨found, stop, first, rest, -, -, rfl⟩ := Lexer.scan_eq_error_iff.mp failed
  exact id

theorem failsOnly_parse (tokens : List Located) (maxDepth : Nat) :
    FailsOnly (fun error => ¬error.Dynamic) (parse tokens maxDepth) := by
  unfold parse
  split
  · split
    · split
      · exact failsOnly_ok _
      · exact failsOnly_error id
    · rename_i stuck? _
      obtain ⟨_, _, _, same⟩ | ⟨_, same⟩ := positioned_cases stuck? tokens <;>
        exact same ▸ failsOnly_error id
  · exact failsOnly_error id

/-- What compiling finds fault with is the text, and no limit on steps. -/
theorem failsOnly_compile (limits : Limits) (text : String) :
    FailsOnly (fun error => ¬error.Dynamic) (compile limits text) := by
  unfold compile
  split
  · exact failsOnly_bind (failsOnly_tokenize text) fun tokens _ => failsOnly_parse tokens _
  · exact failsOnly_error id

variable {limits : Limits} {text : String} {expr : Expr}

/-- A tree has no more nodes than its text has tokens, and no text has more tokens than bytes. -/
theorem exists_tokens_of_compile (compiled : compile limits text = .ok expr) :
    ∃ tokens, tokenize text = .ok tokens ∧ expr.nodes ≤ tokens.length ∧
      tokens.length ≤ text.utf8ByteSize := by
  obtain ⟨-, tokens, tokenized, parsed⟩ := compile_eq_ok_iff.mp compiled
  obtain ⟨-, derives, -⟩ := ((parse_exact tokens _).1 expr).mp parsed
  have nodes := derives.nodes_le
  rw [List.length_map] at nodes
  exact ⟨tokens, tokenized, nodes, tokenize_length_le tokenized⟩

/-- The engine answers with the value of the tree, or that there are too few steps for the
nodes on the way to it. -/
theorem engine_evaluate_of_compile (compiled : compile limits text = .ok expr)
    (bindings : Bindings) : (engine limits).evaluate text bindings =
      if expr.entered bindings ≤ limits.maxSteps.toNat then expr.value bindings
      else .error (.stepLimit limits.maxSteps.toNat) := by
  have evaluated := expr.takes_evaluate bindings limits.maxSteps.toNat 0 (Nat.zero_le _)
  rw [Nat.zero_add] at evaluated
  split
  · rename_i room
    rw [if_pos room] at evaluated
    exact engine_of_compile compiled evaluated
  · rename_i tooFew
    rw [if_neg tooFew] at evaluated
    change evaluate limits text bindings = _
    rw [evaluate, compiled]
    change (expr.evaluate bindings limits.maxSteps.toNat 0 >>= fun ended => pure ended.1) = _
    rw [evaluated]
    rfl

theorem value_ne_stepLimit (bindings : Bindings) (expr : Expr) (limit : Nat) :
    expr.value bindings ≠ .error (.stepLimit limit) :=
  fun ended => expr.failsOnValues_value bindings _ ended

/-- An expression that may not be longer than it may take steps never runs out of them. -/
theorem engine_evaluate_ne_stepLimit (short : limits.maxLength.toNat ≤ limits.maxSteps.toNat)
    (text : String) (bindings : Bindings) (limit : Nat) :
    (engine limits).evaluate text bindings ≠ .error (.stepLimit limit) := by
  intro ended
  cases compiled : compile limits text with
  | error error =>
    change evaluate limits text bindings = _ at ended
    rw [evaluate, compiled] at ended
    cases ended
    exact failsOnly_compile limits text _ compiled trivial
  | ok expr =>
    obtain ⟨tokens, -, nodes, bytes⟩ := exists_tokens_of_compile compiled
    have entered := expr.entered_le_nodes bindings
    have fits := (compile_eq_ok_iff.mp compiled).1
    rw [engine_evaluate_of_compile compiled, if_pos (by omega)] at ended
    exact value_ne_stepLimit bindings expr limit ended

/-- An evaluation runs out of steps exactly if it enters more nodes than it may take steps,
and else it answers as if nothing were counted. It enters no more nodes than the tree has,
the tree has no more than the text has tokens, and the text no more tokens than bytes; so
under limits that allow as many steps as bytes, as the usual ones do, nothing runs out. -/
theorem step_accounting (limits : Limits) (text : String) :
    (∀ expr, compile limits text = .ok expr →
      (∀ bindings,
        ((engine limits).evaluate text bindings = .error (.stepLimit limits.maxSteps.toNat) ↔
          limits.maxSteps.toNat < expr.entered bindings) ∧
        (expr.entered bindings ≤ limits.maxSteps.toNat →
          (engine limits).evaluate text bindings = expr.value bindings) ∧
        expr.entered bindings ≤ expr.nodes) ∧
      ∃ tokens, tokenize text = .ok tokens ∧ expr.nodes ≤ tokens.length ∧
        tokens.length ≤ text.utf8ByteSize) ∧
    (limits.maxLength.toNat ≤ limits.maxSteps.toNat → ∀ bindings limit,
      (engine limits).evaluate text bindings ≠ .error (.stepLimit limit)) ∧
    Limits.default.maxLength.toNat ≤ Limits.default.maxSteps.toNat := by
  refine ⟨fun expr compiled => ⟨fun bindings => ?_, exists_tokens_of_compile compiled⟩,
    fun short => engine_evaluate_ne_stepLimit short text, by decide⟩
  have answer := engine_evaluate_of_compile compiled bindings
  refine ⟨⟨fun ended => ?_, fun tooFew => ?_⟩, fun room => ?_, expr.entered_le_nodes bindings⟩
  · by_contra enough
    rw [answer, if_pos (Nat.not_lt.mp enough)] at ended
    exact value_ne_stepLimit bindings expr _ ended
  · rw [answer, if_neg (Nat.not_le.mpr tooFew)]
  · rw [answer, if_pos room]

/-- A disjunction that its first operand settles. -/
def settledText : String := "true or 'a' .. nope"

def settledTokens : List Located :=
  [⟨.symbol .true, 0, 4⟩, ⟨.symbol .or, 5, 7⟩, ⟨.text "a", 8, 11⟩, ⟨.symbol .dotDot, 12, 14⟩,
    ⟨.name "nope", 15, 19⟩]

def settledExpr : Expr :=
  .binary .or (.literal (.boolean true)) (.binary .concat (.literal (.text "a")) (.name "nope"))

theorem compile_settled (steps : UInt32) :
    compile ⟨19, 3, steps⟩ settledText = .ok settledExpr := by
  have short : settledText.utf8ByteSize ≤ 19 := by decide
  have tokenized : tokenize settledText = .ok settledTokens := by decide +kernel
  have shallow : settledExpr.depth ≤ 3 := (Expr.depth_le_iff ..).mpr (by decide)
  exact compile_of_parse short tokenized ((parse_eq_ok_iff ..).mpr ⟨rfl, rfl, shallow⟩)

/-- Of its five nodes two are entered, so two steps are enough for its value and one is
not; nineteen steps are as many as it has bytes. -/
theorem step_accounting_settled :
    (engine ⟨19, 3, 2⟩).evaluate settledText .empty = .ok (.boolean true) ∧
      (engine ⟨19, 3, 1⟩).evaluate settledText .empty = .error (.stepLimit 1) ∧
      (engine ⟨19, 3, 19⟩).evaluate settledText .empty ≠ .error (.stepLimit 19) := by
  refine ⟨?_, ?_, (step_accounting ⟨19, 3, 19⟩ settledText).2.1 (by decide) .empty 19⟩
  · have enough := (((step_accounting ⟨19, 3, 2⟩ settledText).1 _ (compile_settled 2)).1 .empty).2.1
    exact enough (by decide)
  · have tooFew := (((step_accounting ⟨19, 3, 1⟩ settledText).1 _ (compile_settled 1)).1 .empty).1
    exact tooFew.mpr (by decide)

end Rulebook.Script
