import Rulebook.Proofs.Failures

/-! What can go wrong once an expression has been compiled. Evaluation finds
unknown names and functions, wrong argument counts, values of the wrong type,
or runs out of steps; errors of the text belong to compilation alone. The names
and functions it finds fault with are those of the tree. -/
namespace Rulebook.Script
open Numeric

/-- The errors that evaluating a tree can end with. -/
def EvalError.Dynamic : EvalError → Prop
  | .unknownName _ | .unknownFunction _ | .arity .. | .typeMismatch .. | .stepLimit _ => True
  | .invalidToken _ | .unexpectedToken .. | .unexpectedEnd _ | .tooLong .. | .tooDeep _ => False

/-- The errors that names, functions and the types of values give rise to. -/
def EvalError.OfValues : EvalError → Prop
  | .unknownName _ | .unknownFunction _ | .arity .. | .typeMismatch .. => True
  | .invalidToken _ | .unexpectedToken .. | .unexpectedEnd _ | .tooLong .. | .tooDeep _
  | .stepLimit _ => False

/-- A computation that fails like the evaluation of a tree. -/
abbrev FailsDynamically (result : Except EvalError α) : Prop :=
  FailsOnly EvalError.Dynamic result

/-- A computation that fails like a single node of a tree, where no steps are counted. -/
abbrev FailsOnValues (result : Except EvalError α) : Prop :=
  FailsOnly EvalError.OfValues result

section Node
variable {allowed : EvalError → Prop}

theorem failsOnly_lookUp {bindings : Bindings} {name : String}
    (unknown : bindings.get? name = none → constant? name = none → allowed (.unknownName name)) :
    FailsOnly allowed (lookUp bindings name) := by
  unfold lookUp
  split
  · exact failsOnly_ok _
  · split
    · exact failsOnly_ok _
    · exact failsOnly_error (unknown ‹_› ‹_›)

variable (mismatch : ∀ purpose found, allowed (.typeMismatch purpose found))
include mismatch

theorem Datum.failsOnly_asNumber (purpose : Purpose) (value : Datum) :
    FailsOnly allowed (value.asNumber purpose) := by
  cases value with
  | number value => exact failsOnly_ok value
  | nil => exact failsOnly_error (mismatch ..)
  | boolean value => exact failsOnly_error (mismatch ..)
  | text value => exact failsOnly_error (mismatch ..)

theorem failsOnly_compareData (left right : Datum) :
    FailsOnly allowed (compareData left right) := by
  unfold compareData
  split <;> first | exact failsOnly_ok _ | exact failsOnly_error (mismatch ..)

theorem failsOnly_concatenable (value : Datum) : FailsOnly allowed (concatenable value) := by
  unfold concatenable
  split <;> first | exact failsOnly_ok _ | exact failsOnly_error (mismatch ..)

/-- An operator finds nothing wrong but the type of an operand. -/
theorem UnaryOp.failsOnly_apply (op : UnaryOp) (operand : Datum) :
    FailsOnly allowed (op.apply operand) := by
  cases op with
  | negate => exact failsOnly_map (operand.failsOnly_asNumber mismatch _)
  | not => exact failsOnly_ok _

theorem BinaryOp.failsOnly_arithmetic (op : BinaryOp) (rule : Double → Double → Double)
    (left right : Datum) : FailsOnly allowed (arithmetic op rule left right) :=
  failsOnly_bind (left.failsOnly_asNumber mismatch _) fun _ _ =>
    failsOnly_bind (right.failsOnly_asNumber mismatch _) fun _ _ => failsOnly_ok _

theorem BinaryOp.failsOnly_ordering (test : Ordering → Bool) (left right : Datum) :
    FailsOnly allowed (ordering test left right) :=
  failsOnly_map (failsOnly_compareData mismatch left right)

theorem BinaryOp.failsOnly_apply (op : BinaryOp) (left right : Datum) :
    FailsOnly allowed (op.apply left right) := by
  cases op with
  | or | and | equal | notEqual => exact failsOnly_ok _
  | less | lessEqual | greater | greaterEqual => exact failsOnly_ordering mismatch _ left right
  | concat =>
    exact failsOnly_bind (failsOnly_concatenable mismatch left) fun _ _ =>
      failsOnly_bind (failsOnly_concatenable mismatch right) fun _ _ => failsOnly_ok _
  | add | subtract | multiply | divide | modulo | power =>
    exact failsOnly_arithmetic mismatch _ _ left right

namespace Function

theorem failsOnly_combine (rule : Double → Double → Double) (first : Double)
    (arguments : List Datum) : FailsOnly allowed (combine rule first arguments) := by
  induction arguments generalizing first with
  | nil => exact failsOnly_ok _
  | cons argument rest ih =>
    have number := argument.failsOnly_asNumber mismatch .mathFunction
    unfold combine
    split
    · exact ih _
    · rename_i error failed
      exact failsOnly_error (number error failed)

variable {name : String} (arity : ∀ expected found, allowed (.arity name expected found))
include arity

theorem failsOnly_ofOne (rule : Double → Double) (arguments : List Datum) :
    FailsOnly allowed (ofOne name rule arguments) := by
  unfold ofOne
  split
  · exact failsOnly_map (Datum.failsOnly_asNumber mismatch _ _)
  · exact failsOnly_error (arity ..)

theorem failsOnly_ofMany (rule : Double → Double → Double) (arguments : List Datum) :
    FailsOnly allowed (ofMany name rule arguments) := by
  cases arguments with
  | nil => exact failsOnly_error (arity ..)
  | cons first rest =>
    have number := first.failsOnly_asNumber mismatch .mathFunction
    simp only [ofMany]
    split
    · exact failsOnly_combine mismatch rule _ rest
    · rename_i error failed
      exact failsOnly_error (number error failed)

theorem failsOnly_apply (arguments : List Datum) (function : Function) :
    FailsOnly allowed (function.apply name arguments) := by
  cases function with
  | abs | floor | ceil | sqrt => exact failsOnly_ofOne mismatch arity _ arguments
  | min | max => exact failsOnly_ofMany mismatch arity _ arguments
  | clamp =>
    simp only [Function.apply]
    split
    · exact failsOnly_bind (Datum.failsOnly_asNumber mismatch _ _) fun _ _ =>
        failsOnly_bind (Datum.failsOnly_asNumber mismatch _ _) fun _ _ =>
          failsOnly_bind (Datum.failsOnly_asNumber mismatch _ _) fun _ _ => failsOnly_ok _
    · exact failsOnly_error (arity ..)

end Function

/-- A call can fail for want of the function, on the number of arguments, and on the type
of one. -/
theorem failsOnly_callFunction {name : String}
    (arity : ∀ expected found, allowed (.arity name expected found))
    (unknown : allowed (.unknownFunction name)) (arguments : List Datum) :
    FailsOnly allowed (callFunction name arguments) := by
  unfold callFunction
  split
  · exact Function.failsOnly_apply mismatch arity arguments _
  · exact failsOnly_error unknown

end Node

namespace Expr

mutual

/-- The names that stand in an expression by themselves, from left to right. -/
def names : Expr → List String
  | .literal _ => []
  | .name mentioned => [mentioned]
  | .unary _ operand => names operand
  | .binary _ left right => names left ++ names right
  | .call _ arguments => namesOfAll arguments

def namesOfAll : List Expr → List String
  | [] => []
  | expr :: rest => names expr ++ namesOfAll rest

end

mutual

/-- The functions that an expression calls, by the names it calls them by. -/
def functions : Expr → List String
  | .literal _ | .name _ => []
  | .unary _ operand => functions operand
  | .binary _ left right => functions left ++ functions right
  | .call function arguments => function :: functionsOfAll arguments

def functionsOfAll : List Expr → List String
  | [] => []
  | expr :: rest => functions expr ++ functionsOfAll rest

end

end Expr

/-- The errors that can be due to a name that is looked up, if it is one of these and stands
for nothing, to a function that is called, if it is one of these, to a value of the wrong
type, or to the number of steps. -/
def EvalError.DueTo (bindings : Bindings) (names functions : List String) : EvalError → Prop
  | .unknownName name => name ∈ names ∧ bindings.get? name = none ∧ constant? name = none
  | .unknownFunction function | .arity function .. => function ∈ functions
  | .typeMismatch .. | .stepLimit _ => True
  | .invalidToken _ | .unexpectedToken .. | .unexpectedEnd _ | .tooLong .. | .tooDeep _ => False

theorem EvalError.DueTo.dynamic {bindings : Bindings} {names functions : List String}
    {error : EvalError} (due : error.DueTo bindings names functions) : error.Dynamic := by
  cases error <;> trivial

namespace Metered
variable {allowed : EvalError → Prop}

/-- From whatever number of steps it starts, the computation ends with no other error. -/
def Fails (allowed : EvalError → Prop) (computation : Metered α) : Prop :=
  ∀ used, FailsOnly allowed (computation used)

theorem fails_step {limit : Nat} (outOfSteps : allowed (.stepLimit limit)) :
    Fails allowed (step limit) := by
  intro used
  unfold step
  split
  · exact failsOnly_ok _
  · exact failsOnly_error outOfSteps

theorem fails_pure (value : α) : Fails allowed (pure value) :=
  fun _ => failsOnly_ok _

theorem fails_bind {computation : Metered α} {next : α → Metered β}
    (first : Fails allowed computation) (rest : ∀ value, Fails allowed (next value)) :
    Fails allowed (computation >>= next) :=
  fun used => failsOnly_bind (first used) fun between _ => rest between.1 between.2

theorem fails_lift {result : Except EvalError α} (fails : FailsOnly allowed result) :
    Fails allowed (liftM result) :=
  fun _ => failsOnly_bind fails fun _ _ => failsOnly_ok _

end Metered

namespace Expr
open Metered

variable {names functions : List String}

mutual

/-- Whatever goes wrong in the evaluation of a tree is due to the names it looks up and the
functions it calls, never to the text it came from. -/
theorem dueTo_evaluate (bindings : Bindings) (limit : Nat) (expr : Expr)
    (mentioned : expr.names ⊆ names) (called : expr.functions ⊆ functions) :
    Metered.Fails (EvalError.DueTo bindings names functions)
      (expr.evaluate bindings limit) := by
  cases expr with
  | literal value => exact fails_bind (fails_step trivial) fun _ => fails_pure value
  | name looked =>
    have member : looked ∈ names := mentioned (List.mem_singleton_self looked)
    exact fails_bind (fails_step trivial) fun _ =>
      fails_lift (failsOnly_lookUp fun unbound unusual => ⟨member, unbound, unusual⟩)
  | unary op operand =>
    exact fails_bind (fails_step trivial) fun _ =>
      fails_bind (dueTo_evaluate bindings limit operand mentioned called) fun value =>
        fails_lift (op.failsOnly_apply (fun _ _ => trivial) value)
  | binary op left right =>
    obtain ⟨mentionedLeft, mentionedRight⟩ := List.append_subset.mp mentioned
    obtain ⟨calledLeft, calledRight⟩ := List.append_subset.mp called
    refine fails_bind (fails_step trivial) fun _ =>
      fails_bind (dueTo_evaluate bindings limit left mentionedLeft calledLeft) fun first => ?_
    split
    · exact fails_pure first
    · exact fails_bind (dueTo_evaluate bindings limit right mentionedRight calledRight)
        fun second => fails_lift (op.failsOnly_apply (fun _ _ => trivial) first second)
  | call function arguments =>
    obtain ⟨member, calledInside⟩ := List.cons_subset.mp called
    exact fails_bind (fails_step trivial) fun _ =>
      fails_bind (dueTo_evaluateAll bindings limit arguments mentioned calledInside)
        fun values => fails_lift
          (failsOnly_callFunction (fun _ _ => trivial) (fun _ _ => member) member values)

theorem dueTo_evaluateAll (bindings : Bindings) (limit : Nat) (exprs : List Expr)
    (mentioned : namesOfAll exprs ⊆ names) (called : functionsOfAll exprs ⊆ functions) :
    Metered.Fails (EvalError.DueTo bindings names functions)
      (evaluateAll bindings limit exprs) := by
  cases exprs with
  | nil => exact fails_pure []
  | cons expr rest =>
    obtain ⟨mentionedFirst, mentionedRest⟩ := List.append_subset.mp mentioned
    obtain ⟨calledFirst, calledRest⟩ := List.append_subset.mp called
    exact fails_bind (dueTo_evaluate bindings limit expr mentionedFirst calledFirst)
      fun first => fails_bind
        (dueTo_evaluateAll bindings limit rest mentionedRest calledRest) fun others =>
          fails_pure _

end

theorem dynamic_evaluate (bindings : Bindings) (limit used : Nat) (expr : Expr) :
    FailsDynamically (expr.evaluate bindings limit used) :=
  (expr.dueTo_evaluate bindings limit (List.Subset.refl _) (List.Subset.refl _) used).imp
    fun _ due => due.dynamic

end Expr

/-- An expression that the engine found well formed fails dynamically, if at
all, under any bindings. -/
theorem failsDynamically_engine {limits : Limits} {expression : String}
    (valid : (engine limits).validate expression = .ok ()) (bindings : Bindings) :
    FailsDynamically ((engine limits).evaluate expression bindings) := by
  change (compile limits expression).map (fun _ => ()) = .ok () at valid
  change FailsDynamically (evaluate limits expression bindings)
  have compiles : FailsDynamically (compile limits expression) := by
    intro error failed
    rw [failed] at valid
    cases valid
  exact failsOnly_bind compiles fun expr _ =>
    failsOnly_bind (expr.dynamic_evaluate bindings limits.maxSteps.toNat 0) fun _ _ =>
      failsOnly_ok _

end Rulebook.Script
