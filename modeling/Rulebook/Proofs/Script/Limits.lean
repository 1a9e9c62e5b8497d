import Mathlib.Control.Monad.Basic
import Rulebook.Proofs.Script.ParserExactness
import Rulebook.Script.Evaluator

/-! Limits cut work off and do nothing else. Under higher limits an expression ends
as it does under lower ones, unless the lower ones stopped it; so two settings
that disagree about an expression do so because one of them is too low for it. -/
namespace Rulebook

/-- A computation ends with an error, and with one of these. -/
def FailsWith (early : ε → Prop) (result : Except ε α) : Prop :=
  ∃ error, result = .error error ∧ early error

/-- A computation ends like another that is given more room, unless it ends early
with one of the errors that say there was too little. -/
def CutShort (early : ε → Prop) (narrow wide : Except ε α) : Prop :=
  narrow = wide ∨ FailsWith early narrow

theorem CutShort.refl {early : ε → Prop} (result : Except ε α) : CutShort early result result :=
  .inl rfl

theorem CutShort.of_early {early : ε → Prop} {error : ε} (one : early error) (wide : Except ε α) :
    CutShort early (.error error) wide :=
  .inr ⟨error, rfl, one⟩

theorem CutShort.bind {early : ε → Prop} {narrow wide : Except ε α}
    {next following : α → Except ε β} (first : CutShort early narrow wide)
    (rest : ∀ value, CutShort early (next value) (following value)) :
    CutShort early (narrow >>= next) (wide >>= following) := by
  obtain rfl | ⟨error, rfl, one⟩ := first
  · cases narrow with
    | error error => exact .refl _
    | ok value => exact rest value
  · exact .of_early one _

theorem CutShort.map {early : ε → Prop} {narrow wide : Except ε α}
    (cut : CutShort early narrow wide) (change : α → β) :
    CutShort early (narrow.map change) (wide.map change) := by
  obtain rfl | ⟨error, rfl, one⟩ := cut
  · exact .refl _
  · exact .of_early one _

theorem CutShort.imp {early other : ε → Prop} {narrow wide : Except ε α}
    (cut : CutShort early narrow wide) (weaker : ∀ error, early error → other error) :
    CutShort other narrow wide :=
  cut.imp_right fun ⟨error, ended, one⟩ => ⟨error, ended, weaker error one⟩

/-- What is not cut short comes out the same with more room. -/
theorem CutShort.eq_of_whole {early : ε → Prop} {narrow wide : Except ε α}
    (cut : CutShort early narrow wide) (whole : ¬FailsWith early narrow) : wide = narrow :=
  (cut.resolve_right whole).symm

/-- Two computations that have a wider one in common differ only if one of them is
cut short. -/
theorem CutShort.eq_or_early {early : ε → Prop} {first second wide : Except ε α}
    (one : CutShort early first wide) (other : CutShort early second wide) :
    first = second ∨ FailsWith early first ∨ FailsWith early second := by
  obtain rfl | cut := one
  · exact Or.imp Eq.symm .inr other
  · exact .inr (.inl cut)

namespace Script
open Rulebook.Script.Parser

/-- Every limit is at least as high as in another setting. -/
structure Limits.Within (limits wider : Limits) : Prop where
  maxLength : limits.maxLength ≤ wider.maxLength
  maxDepth : limits.maxDepth ≤ wider.maxDepth
  maxSteps : limits.maxSteps ≤ wider.maxSteps

/-- The highest limits there are. -/
def Limits.highest : Limits where
  maxLength := .ofNat (UInt64.size - 1)
  maxDepth := .ofNat (UInt32.size - 1)
  maxSteps := .ofNat (UInt32.size - 1)

theorem Limits.within_highest (limits : Limits) : limits.Within .highest where
  maxLength := UInt64.le_iff_toNat_le.mpr (Nat.le_pred_of_lt limits.maxLength.toNat_lt)
  maxDepth := UInt32.le_iff_toNat_le.mpr (Nat.le_pred_of_lt limits.maxDepth.toNat_lt)
  maxSteps := UInt32.le_iff_toNat_le.mpr (Nat.le_pred_of_lt limits.maxSteps.toNat_lt)

namespace EvalError

/-- The errors of a text that is too large to be read. -/
def TooLarge : EvalError → Prop
  | .tooLong .. | .tooDeep _ => True
  | .invalidToken _ | .unexpectedToken .. | .unexpectedEnd _ | .unknownName _
  | .unknownFunction _ | .arity .. | .typeMismatch .. | .stepLimit _ => False

/-- The errors that report a limit. -/
def OfLimit : EvalError → Prop
  | .stepLimit _ => True
  | error => error.TooLarge

theorem TooLarge.ofLimit {error : EvalError} (large : error.TooLarge) : error.OfLimit := by
  cases error <;> trivial

end EvalError

theorem nestsWithin_of_le {limit higher : Nat} (le : limit ≤ higher) {tokens : List Located}
    (nested : nestsWithin limit 0 tokens = true) : nestsWithin higher 0 tokens = true := by
  rw [nestsWithin_iff_bracketsWithin] at nested ⊢
  intro before shorter
  exact Nat.le_trans (nested before shorter) le

/-- Brackets are checked before the reading and the tree after it; a higher limit
lets both pass that passed before. -/
theorem cutShort_parse (tokens : List Located) {limit higher : Nat} (le : limit ≤ higher) :
    CutShort EvalError.TooLarge (parse tokens limit) (parse tokens higher) := by
  unfold parse
  by_cases nested : nestsWithin limit 0 tokens = true
  · rw [if_pos nested, if_pos (nestsWithin_of_le le nested)]
    split
    · rename_i expr _ _ _
      by_cases shallow : expr.depth ≤ limit
      · simp only [if_pos shallow, if_pos (Nat.le_trans shallow le)]
        exact .refl _
      · simp only [if_neg shallow]
        exact .of_early trivial _
    · exact .refl _
  · rw [if_neg nested]
    exact .of_early trivial _

theorem cutShort_compile {limits wider : Limits} (within : limits.Within wider)
    (expression : String) :
    CutShort EvalError.TooLarge (compile limits expression) (compile wider expression) := by
  unfold compile
  by_cases fits : expression.utf8ByteSize ≤ limits.maxLength.toNat
  · have longer := Nat.le_trans fits (UInt64.le_iff_toNat_le.mp within.maxLength)
    rw [if_pos fits, if_pos longer]
    exact .bind (.refl _) fun tokens =>
      cutShort_parse tokens (UInt32.le_iff_toNat_le.mp within.maxDepth)
  · rw [if_neg fits]
    exact .of_early trivial _

namespace Metered

/-- From whatever number of steps they start, one computation ends like another
unless it runs out of steps. -/
def CutShort (narrow wide : Metered α) : Prop :=
  ∀ used, Rulebook.CutShort EvalError.OfLimit (narrow used) (wide used)

theorem CutShort.refl (computation : Metered α) : CutShort computation computation :=
  fun _ => .refl _

theorem CutShort.step {limit higher : Nat} (le : limit ≤ higher) :
    CutShort (Metered.step limit) (Metered.step higher) := by
  intro used
  unfold Metered.step
  by_cases room : used < limit
  · rw [if_pos room, if_pos (Nat.lt_of_lt_of_le room le)]
    exact .refl _
  · rw [if_neg room]
    exact .of_early trivial _

theorem CutShort.bind {narrow wide : Metered α} {next following : α → Metered β}
    (first : CutShort narrow wide) (rest : ∀ value, CutShort (next value) (following value)) :
    CutShort (narrow >>= next) (wide >>= following) :=
  fun used => Rulebook.CutShort.bind (first used) fun between => rest between.1 between.2

end Metered

namespace Expr
open Metered

mutual

/-- A higher limit on steps changes the evaluation of a tree only where the lower
one ends it. -/
theorem cutShort_evaluate {limit higher : Nat} (le : limit ≤ higher) (bindings : Bindings)
    (expr : Expr) :
    Metered.CutShort (expr.evaluate bindings limit) (expr.evaluate bindings higher) := by
  cases expr with
  | literal value => exact .bind (.step le) fun _ => .refl _
  | name mentioned => exact .bind (.step le) fun _ => .refl _
  | unary op operand =>
    exact .bind (.step le) fun _ =>
      .bind (cutShort_evaluate le bindings operand) fun _ => .refl _
  | binary op left right =>
    refine .bind (.step le) fun _ =>
      .bind (cutShort_evaluate le bindings left) fun first => ?_
    split
    · exact .refl _
    · exact .bind (cutShort_evaluate le bindings right) fun _ => .refl _
  | call function arguments =>
    exact .bind (.step le) fun _ =>
      .bind (cutShort_evaluateAll le bindings arguments) fun _ => .refl _

theorem cutShort_evaluateAll {limit higher : Nat} (le : limit ≤ higher) (bindings : Bindings)
    (exprs : List Expr) :
    Metered.CutShort (evaluateAll bindings limit exprs) (evaluateAll bindings higher exprs) := by
  cases exprs with
  | nil => exact .refl _
  | cons expr rest =>
    exact .bind (cutShort_evaluate le bindings expr) fun _ =>
      .bind (cutShort_evaluateAll le bindings rest) fun _ => .refl _

end

end Expr

theorem cutShort_engine_evaluate {limits wider : Limits} (within : limits.Within wider)
    (expression : String) (bindings : Bindings) :
    CutShort EvalError.OfLimit ((engine limits).evaluate expression bindings)
      ((engine wider).evaluate expression bindings) := by
  have compiled := (cutShort_compile within expression).imp fun _ large => large.ofLimit
  have steps := UInt32.le_iff_toNat_le.mp within.maxSteps
  exact compiled.bind fun expr =>
    (expr.cutShort_evaluate steps bindings 0).bind fun _ => .refl _

theorem cutShort_engine_validate {limits wider : Limits} (within : limits.Within wider)
    (expression : String) :
    CutShort EvalError.TooLarge ((engine limits).validate expression)
      ((engine wider).validate expression) :=
  (cutShort_compile within expression).map _

/-- Limits never change an answer. Whatever lower limits let through comes out the
same under higher ones, be it a value or an error; and any two settings that
disagree about an expression do so because one of them reports a limit. -/
theorem limits_only_cut_off (expression : String) :
    (∀ limits wider : Limits, limits.Within wider →
      (∀ bindings, ¬FailsWith EvalError.OfLimit ((engine limits).evaluate expression bindings) →
        (engine wider).evaluate expression bindings =
          (engine limits).evaluate expression bindings) ∧
      (¬FailsWith EvalError.TooLarge ((engine limits).validate expression) →
        (engine wider).validate expression = (engine limits).validate expression)) ∧
    (∀ first second : Limits,
      (∀ bindings,
        (engine first).evaluate expression bindings =
            (engine second).evaluate expression bindings ∨
          FailsWith EvalError.OfLimit ((engine first).evaluate expression bindings) ∨
          FailsWith EvalError.OfLimit ((engine second).evaluate expression bindings)) ∧
      ((engine first).validate expression = (engine second).validate expression ∨
        FailsWith EvalError.TooLarge ((engine first).validate expression) ∨
        FailsWith EvalError.TooLarge ((engine second).validate expression))) := by
  constructor
  · intro limits wider within
    constructor
    · intro bindings whole
      exact (cutShort_engine_evaluate within expression bindings).eq_of_whole whole
    · intro whole
      exact (cutShort_engine_validate within expression).eq_of_whole whole
  · intro first second
    have firstWithin := first.within_highest
    have secondWithin := second.within_highest
    constructor
    · intro bindings
      exact (cutShort_engine_evaluate firstWithin expression bindings).eq_or_early
        (cutShort_engine_evaluate secondWithin expression bindings)
    · exact (cutShort_engine_validate firstWithin expression).eq_or_early
        (cutShort_engine_validate secondWithin expression)

/-- Three steps are enough to find that an operand of a concatenation is missing, so
more of them find the same. -/
theorem limits_only_cut_off_concatenation :
    let limits : Limits := ⟨8, 2, 3⟩
    limits.Within .default ∧
      ¬FailsWith EvalError.OfLimit ((engine limits).evaluate "1 .. nil" .empty) ∧
      (engine .default).evaluate "1 .. nil" .empty = (engine limits).evaluate "1 .. nil" .empty := by
  intro limits
  have within : limits.Within .default := ⟨by decide, by decide, by decide⟩
  have failed : (engine limits).evaluate "1 .. nil" .empty =
      .error (.typeMismatch .concatenation .nil) := by decide +kernel
  have whole : ¬FailsWith EvalError.OfLimit ((engine limits).evaluate "1 .. nil" .empty) := by
    rw [failed]
    rintro ⟨error, ended, early⟩
    cases ended
    exact early
  exact ⟨within, whole, ((limits_only_cut_off "1 .. nil").1 limits .default within).1 .empty whole⟩

end Script
end Rulebook
