import Rulebook.Proofs.Numeric.Conversions
import Rulebook.Proofs.OperationEffects
import Rulebook.Proofs.RoundingPolicies
import Rulebook.Proofs.VectorComponents

/-! Copies of the first operand. The second one has a part in them all the same: the two
meet in the higher of their precisions, and integers that meet a 32-bit float are copied
as the nearest of those. Nothing else is ever lost. -/
namespace Rulebook
open Numeric Script

/-- The same number, or a NaN in the place of one of the same precision. -/
inductive Number.Copies : Number → Number → Prop
  | same (number : Number) : Copies number number
  | nan {copy original : Single} (copyIs : copy.isNaN = true)
      (originalIs : original.isNaN = true) : Copies (.float copy) (.float original)

/-- Every component is the same, or a NaN in the place of one. -/
structure Vector.Copies (copy original : Vector) : Prop where
  shape : copy.shape = original.shape
  entries : ∀ index, (copy.entry index).Copies (original.entry index)

/-- A number that loses nothing next to a 32-bit float: an integer has to be the value of
one of them. -/
def Number.Portable : Number → Prop
  | .int value => ∃ single : Single, single.isFinite = true ∧ single.toRat = value.toInt
  | .float _ | .double _ => True

def Vector.Portable (vector : Vector) : Prop :=
  ∀ index, (vector.entry index).Portable

/-- What is left of a number in 64 bits when it is copied next to another one. Next to a
32-bit float an integer becomes the nearest of those. -/
def Number.beside : Number → Number → Double
  | .int value, .float _ => (.ofInt value.toInt : Single).convert
  | number, _ => number.widen

namespace Number

/-- Integers shorter than the fraction of a 32-bit float are portable. -/
theorem portable_of_short {value : Int32} (short : value.toInt.natAbs < 2 ^ 24) :
    (int value).Portable := by
  obtain ⟨finite, counted⟩ := Binary.count_ofInt Format.single_reaches short
  exact ⟨.ofInt value.toInt, finite, Binary.toRat_eq_intCast_iff.mpr counted⟩

theorem portable_zero (kind : NumberKind) : (zero kind).Portable := by
  cases kind with
  | int32 => exact portable_of_short (by decide)
  | float32 | float64 => trivial

theorem Portable.convert_ofInt {value : Int32} (portable : (int value).Portable) :
    ((.ofInt value.toInt : Single).convert : Double) = .ofInt value.toInt := by
  obtain ⟨single, finite, same⟩ := portable
  have exact := Binary.quanta_of_count (Binary.toRat_eq_intCast_iff.mp same)
  exact Double.convert_convert_ofInt (of_decide_eq_true finite) exact

theorem beside_eq_widen {number other : Number}
    (kept : number.Portable ∨ other.kind ≠ .float32) : number.beside other = number.widen := by
  cases number with
  | float _ | double _ => rfl
  | int value =>
    cases other with
    | int _ | double _ => rfl
    | float _ => exact (kept.resolve_right fun apart => apart rfl).convert_ofInt

theorem beside_zero (kind : NumberKind) (other : Number) :
    (zero kind).beside other = .zero false := by
  rw [beside_eq_widen (.inl (portable_zero kind)), NumberKind.widen_zero]

/-- What is no NaN has no copy but itself. -/
theorem Copies.eq {copy original : Number} (copies : copy.Copies original)
    (isNumber : ∀ single, original = .float single → single.isNaN = false) : copy = original := by
  cases copies with
  | same => rfl
  | nan _ originalIs => cases (isNumber _ rfl).symm.trans originalIs

/-- Brought to a 32-bit float in the end, a number may have become one before. -/
theorem convert_beside (number other : Number) :
    ((number.beside other).convert : Single) = number.widen.convert := by
  cases number with
  | float _ | double _ => rfl
  | int value =>
    cases other with
    | int _ | double _ => rfl
    | float _ =>
      have isNumber : (.ofInt value.toInt : Single).isNaN = false :=
        Binary.isNaN_eq_false_iff.mpr (Nat.min_le_right ..)
      rw [beside, Single.convert_convert isNumber]
      exact (Double.convert_ofInt value).symm

/-- Of the second operand only this counts: whether it is a 32-bit float. -/
theorem narrow_beside {number first second : Number} {kind : NumberKind} (rounding : Rounding)
    (regardless : kind = .float32 ∨ number.Portable ∨
      (first.kind = .float32 ↔ second.kind = .float32)) :
    narrow (number.beside second) kind rounding = narrow (number.beside first) kind rounding := by
  rcases regardless with rfl | portable | alike
  · rw [narrow, narrow, convert_beside, convert_beside]
  · rw [beside_eq_widen (.inl portable), beside_eq_widen (.inl portable)]
  · congr 1
    cases number <;> cases first <;> cases second <;> first | rfl | simp [Number.kind] at alike

/-- A number comes back from 64 bits. -/
theorem copies_narrow (number : Number) (rounding : Rounding) :
    (narrow number.widen number.kind rounding).Copies number := by
  cases number with
  | int value =>
    have kept : narrow (int value).widen .int32 rounding = int value :=
      congrArg int (rounding.toInt32_ofInt value)
    rw [kind, kept]
    exact .same _
  | float value =>
    cases isNaN : value.isNaN with
    | false =>
      have kept : narrow (float value).widen .float32 rounding = float value :=
        congrArg float (Single.convert_convert isNaN)
      rw [kind, kept]
      exact .same _
    | true =>
      refine .nan ?_ isNaN
      rw [widen, Binary.convert_of_isNaN isNaN, Binary.convert_of_isNaN Binary.isNaN_nan]
      exact Binary.isNaN_nan
  | double value => exact .same _

end Number

/-- Copying never fails. -/
theorem Arithmetic.apply_set (left right : Number) :
    set.apply left.widen right.widen (left.kind.merge right.kind) = some (left.beside right) := by
  have copied (number other : Double) (kind : NumberKind) :
      set.apply number other kind = some (quantize number kind) := by
    cases kind <;> rfl
  rw [copied]
  congr 1
  cases left with
  | int value =>
    cases right with
    | int other =>
      have apart : (Number.int other).kind ≠ .float32 := by
        intro same
        cases same
      rw [Number.beside_eq_widen (.inr apart)]
      exact congrArg (fun cut : Int32 => (.ofInt cut.toInt : Double)) (Double.toInt32_ofInt value)
    | float _ =>
      rw [Number.beside, ← Double.convert_ofInt]
      rfl
    | double _ => rfl
  | float value =>
    cases right with
    | int _ | float _ => exact Single.widen_convert value
    | double _ => rfl
  | double _ => cases right <;> rfl

theorem Arithmetic.atComponent_set (left right : Vector) (index : Nat) :
    set.atComponent left right index = some ((left.entry index).beside (right.entry index)) :=
  apply_set ..

theorem vectorComponents_set (left right : Vector) :
    ∃ components, vectorComponents .set left right = some components ∧
      ∀ index, components[index]?.getD (.zero false) =
        (left.entry index).beside (right.entry index) := by
  have total : vectorComponents .set left right =
      some ((List.range (max left.shape.length right.shape.length)).map fun index =>
        (left.entry index).beside (right.entry index)) := by
    rw [vectorComponents_eq, funext (Arithmetic.atComponent_set left right)]
    exact List.mapM_pure
  refine ⟨_, total, fun index => ?_⟩
  rw [List.getElem?_map]
  obtain within | past := Nat.lt_or_ge index (max left.shape.length right.shape.length)
  · rw [List.getElem?_range within]
    rfl
  · rw [List.getElem?_eq_none (List.length_range.trans_le past),
      Vector.entry_of_length_le (le_of_max_le_left past), Number.beside_zero]
    rfl

namespace Vector

theorem getElem?_entries {vector : Vector} {index : Nat} (within : index < vector.shape.length) :
    vector.entries[index]? = some (vector.entry index) := by
  rw [← length_entries] at within
  rw [entry, List.getElem?_eq_getElem within, Option.getD_some]

theorem eq_of_entries {left right : Vector} (sameShape : left.shape = right.shape)
    (same : ∀ index < left.shape.length, left.entry index = right.entry index) :
    left = right := by
  have listed : left.entries = right.entries := by
    refine List.ext_getElem? fun index => ?_
    obtain within | past := Nat.lt_or_ge index left.shape.length
    · rw [getElem?_entries within, getElem?_entries (sameShape ▸ within), same index within]
    · rw [List.getElem?_eq_none (left.length_entries.trans_le past),
        List.getElem?_eq_none (right.length_entries.trans_le (sameShape ▸ past))]
  cases left <;> cases right <;> cases sameShape <;> simpa [entries] using listed

theorem Copies.eq {copy original : Vector} (copies : copy.Copies original)
    (numbers : ∀ index single, original.entry index = .float single → single.isNaN = false) :
    copy = original :=
  eq_of_entries copies.shape fun index _ => (copies.entries index).eq (numbers index)

section Fitted
variable {copied other old : Vector} {components : List Double}
  (meets : ∀ index, components[index]?.getD (.zero false) =
    (copied.entry index).beside (other.entry index))
  (rounding : Rounding)
include meets

theorem entry_fit_beside {index : Nat} (within : index < old.shape.length) :
    (fit components old.shape rounding).entry index =
      narrow ((copied.entry index).beside (other.entry index)) old.shape.entryKind rounding := by
  rw [entry_fit old components rounding within, meets]

theorem copies_fit (kept : copied.Portable ∨ other.shape.integer = true) :
    (fit components copied.shape rounding).Copies copied := by
  have sameShape : (fit components copied.shape rounding).shape = copied.shape :=
    shape_ofComponents copied _
  refine ⟨sameShape, fun index => ?_⟩
  obtain within | past := Nat.lt_or_ge index copied.shape.length
  · have whole : (copied.entry index).Portable ∨ (other.entry index).kind ≠ .float32 := by
      refine kept.imp (fun portable => portable index) fun integer => ?_
      rw [kind_entry, VectorShape.entryKind, if_pos integer]
      intro same
      cases same
    rw [entry_fit_beside meets rounding within, Number.beside_eq_widen whole,
      ← copied.kind_entry index]
    exact Number.copies_narrow ..
  · have pastCopy : (fit components copied.shape rounding).shape.length ≤ index := by
      rwa [sameShape]
    rw [entry_of_length_le past, entry_of_length_le pastCopy, sameShape]
    exact .same _

/-- Of the second operand only this counts: whether its components are integers. -/
theorem fit_eq_fit {another : Vector} {others : List Double}
    (othersMeet : ∀ index, others[index]?.getD (.zero false) =
      (copied.entry index).beside (another.entry index))
    (regardless : old.shape.integer = false ∨ copied.Portable ∨
      another.shape.integer = other.shape.integer) :
    fit others old.shape rounding = fit components old.shape rounding := by
  have sameShape (list : List Double) : (fit list old.shape rounding).shape = old.shape :=
    shape_ofComponents old _
  refine eq_of_entries ((sameShape others).trans (sameShape components).symm) ?_
  rw [sameShape]
  intro index within
  rw [entry_fit_beside meets rounding within, entry_fit_beside othersMeet rounding within]
  refine Number.narrow_beside rounding ?_
  rcases regardless with floats | portable | alike
  · exact .inl (by rw [VectorShape.entryKind, floats]; rfl)
  · exact .inr (.inl (portable index))
  · refine .inr (.inr ?_)
    rw [kind_entry, kind_entry, VectorShape.entryKind, VectorShape.entryKind, alike]

end Fitted

end Vector

namespace Formula
variable {store : Store} {target : VariableId} {var : Variable}

theorem compute_number_set {kind : NumberKind} {a b : Reference Number} {copied other : Number}
    (found : store.get target = .ok var) (sameKind : var.kind = .number kind)
    (resolvedA : a.resolve store = .ok copied) (resolvedB : b.resolve store = .ok other)
    (rounding : Rounding) (evaluator : Evaluator) :
    (number .set a b rounding).compute evaluator target store =
      ⟨.ok (.number (narrow (copied.beside other) kind rounding)), store, []⟩ := by
  have computed := result_number found sameKind resolvedA resolvedB evaluator .set rounding
  rw [Arithmetic.apply_set] at computed
  exact congrArg (fun result => (⟨result, store, []⟩ : Outcome Value)) computed

theorem compute_vector_set {shape : VectorShape} {a b : Reference Vector} {copied other : Vector}
    (found : store.get target = .ok var) (sameKind : var.kind = .vector shape)
    (resolvedA : a.resolve store = .ok copied) (resolvedB : b.resolve store = .ok other)
    (rounding : Rounding) (evaluator : Evaluator) :
    ∃ components,
      (vector .set a b rounding).compute evaluator target store =
        ⟨.ok (.vector (fit components shape rounding)), store, []⟩ ∧
      ∀ index, components[index]?.getD (.zero false) =
        (copied.entry index).beside (other.entry index) := by
  obtain ⟨components, merged, meets⟩ := vectorComponents_set copied other
  have computed := result_vector found sameKind resolvedA resolvedB evaluator .set rounding
  rw [merged] at computed
  exact ⟨components, congrArg (fun result => (⟨result, store, []⟩ : Outcome Value)) computed,
    meets⟩

end Formula

/-- To set a variable is to copy the first operand, and it succeeds whatever the second one
is. What is written depends on that only for an integer that is no 32-bit float, and only
in one way: next to a float it becomes the nearest one, unless the target is a float
anyway. Otherwise a target of the operand's kind gets the operand as it is. For vectors the
same is true of every component. -/
theorem set_copies :
    (∀ {store : Store} {target : VariableId} {var : Variable} {kind : NumberKind}
      {a b : Reference Number} {copied other : Number} {raiseFlag : Reference Bool}
      {raised : Bool},
      store.get target = .ok var → var.kind = .number kind → a.resolve store = .ok copied →
      b.resolve store = .ok other → raiseFlag.resolve store = .ok raised →
      ∀ (rounding : Rounding) (evaluator : Evaluator),
        let run (b : Reference Number) : Outcome Execution :=
          Operation.execute ⟨target, .number .set a b rounding, raiseFlag⟩ evaluator store
        let written := narrow (copied.beside other) kind rounding
        (run b).result = .ok ⟨target, raised⟩ ∧
        (run b).store.get target = .ok { var with value := .number written } ∧
        (copied.kind = kind → copied.Portable ∨ other.kind ≠ .float32 →
          written.Copies copied) ∧
        ∀ c another, c.resolve store = .ok another →
          kind = .float32 ∨ copied.Portable ∨ (other.kind = .float32 ↔ another.kind = .float32) →
          run c = run b) ∧
    (∀ {store : Store} {target : VariableId} {var : Variable} {shape : VectorShape}
      {a b : Reference Vector} {copied other : Vector} {raiseFlag : Reference Bool}
      {raised : Bool},
      store.get target = .ok var → var.kind = .vector shape → a.resolve store = .ok copied →
      b.resolve store = .ok other → raiseFlag.resolve store = .ok raised →
      ∀ (rounding : Rounding) (evaluator : Evaluator),
        let run (b : Reference Vector) : Outcome Execution :=
          Operation.execute ⟨target, .vector .set a b rounding, raiseFlag⟩ evaluator store
        (run b).result = .ok ⟨target, raised⟩ ∧
        (∃ written : Vector,
          (run b).store.get target = .ok { var with value := .vector written } ∧
          (∀ index < shape.length, written.entry index =
            narrow ((copied.entry index).beside (other.entry index)) shape.entryKind rounding) ∧
          (copied.shape = shape → copied.Portable ∨ other.shape.integer = true →
            written.Copies copied)) ∧
        ∀ c another, c.resolve store = .ok another →
          shape.integer = false ∨ copied.Portable ∨
            another.shape.integer = other.shape.integer →
          run c = run b) ∧
    ∀ value : Int32, value.toInt.natAbs < 2 ^ 24 → (Number.int value).Portable := by
  refine ⟨?_, ?_, fun value short => Number.portable_of_short short⟩
  · intro store target var kind a b copied other raiseFlag raised found sameKind resolvedA
      resolvedB resolved rounding evaluator run written
    have computes {c : Reference Number} {another : Number}
        (resolvedC : c.resolve store = .ok another) :=
      Formula.compute_number_set found sameKind resolvedA resolvedC rounding evaluator
    have computed : (Operation.compute ⟨target, .number .set a b rounding, raiseFlag⟩ evaluator
        store).result = .ok (.number written) :=
      congrArg Outcome.result (computes resolvedB)
    have valueKind : var.kind = (Value.number written).kind :=
      sameKind.trans (congrArg Kind.number (kind_narrow ..).symm)
    obtain ⟨result, seen⟩ := Operation.execute_of_computed found computed valueKind resolved
    refine ⟨result, seen, fun same kept => ?_, fun c another resolvedC regardless => ?_⟩
    · subst same
      change (narrow (copied.beside other) _ _).Copies _
      rw [Number.beside_eq_widen kept]
      exact copied.copies_narrow rounding
    · refine Operation.execute_congr ?_
      rw [computes resolvedB, computes resolvedC, Number.narrow_beside rounding regardless]
  · intro store target var shape a b copied other raiseFlag raised found sameKind resolvedA
      resolvedB resolved rounding evaluator run
    have computes {c : Reference Vector} {another : Vector}
        (resolvedC : c.resolve store = .ok another) :=
      Formula.compute_vector_set found sameKind resolvedA resolvedC rounding evaluator
    obtain ⟨components, computedB, meets⟩ := computes resolvedB
    have computed : (Operation.compute ⟨target, .vector .set a b rounding, raiseFlag⟩ evaluator
        store).result = .ok (.vector (fit components shape rounding)) :=
      congrArg Outcome.result computedB
    -- the shape is that of the value held so far, hence one that vectors have
    obtain ⟨old, rfl⟩ : ∃ old : Vector, shape = old.shape := by
      obtain ⟨name, value⟩ := var
      cases value with
      | bool _ | number _ => cases sameKind
      | vector old => exact ⟨old, (Kind.vector.inj sameKind).symm⟩
    have valueKind : var.kind = (Value.vector (fit components old.shape rounding)).kind :=
      sameKind.trans (congrArg Kind.vector (shape_ofComponents ..).symm)
    obtain ⟨result, seen⟩ := Operation.execute_of_computed found computed valueKind resolved
    refine ⟨result, ⟨_, seen, fun index within => ?_, fun same kept => ?_⟩,
      fun c another resolvedC regardless => ?_⟩
    · exact Vector.entry_fit_beside meets rounding within
    · rw [← same]
      exact Vector.copies_fit meets rounding kept
    · obtain ⟨others, computedC, othersMeet⟩ := computes resolvedC
      refine Operation.execute_congr ?_
      rw [computedB, computedC, Vector.fit_eq_fit meets rounding othersMeet regardless]

/-- The first integer that no 32-bit float stands for is copied to an integer as it is next
to an integer, and as the one before it next to a float. -/
theorem set_next_to_float :
    let gold : Variable := ⟨"gold", .number (.int 0)⟩
    let store : Store := Store.empty.adding gold
    let copied : Number := .int 16777217
    let run (b : Reference Number) : Outcome Execution :=
      Operation.execute ⟨⟨0⟩, .number .set (.literal copied) b .nearest, .literal false⟩
        (engine .default) store
    store.get ⟨0⟩ = .ok gold ∧ gold.kind = .number copied.kind ∧
      (run (.literal (.int 0))).store.get ⟨0⟩ = .ok { gold with value := .number copied } ∧
      (run (.literal (.float (.zero false)))).store.get ⟨0⟩ =
        .ok { gold with value := .number (.int 16777216) } := by
  intro gold store copied run
  have found : store.get ⟨0⟩ = .ok gold := rfl
  have sameKind : gold.kind = .number .int32 := rfl
  have written {other : Number} {value : Int32}
      (becomes : narrow (copied.beside other) .int32 .nearest = .int value) :
      (run (.literal other)).store.get ⟨0⟩ = .ok { gold with value := .number (.int value) } := by
    let operation : Operation :=
      ⟨⟨0⟩, .number .set (.literal copied) (.literal other) .nearest, .literal false⟩
    have computed := Formula.compute_number_set (a := .literal copied) (b := .literal other) found
      sameKind rfl rfl .nearest (engine .default)
    rw [becomes] at computed
    have result : (operation.compute (engine .default) store).result =
        .ok (.number (.int value)) := congrArg Outcome.result computed
    exact (Operation.execute_of_computed found result rfl rfl).2
  exact ⟨found, sameKind, written (by decide +kernel), written (by decide +kernel)⟩

/-- A score and a place of small integers are copied next to halves. -/
theorem set_copies_score :
    let score : Variable := ⟨"score", .number (.int 0)⟩
    let place : Variable := ⟨"place", .vector (.int2 0 0)⟩
    let store : Store := (Store.empty.adding score).adding place
    let half : Single := .ofBits 0x3F000000
    let seven : Number := .int 7
    let corner : Vector := .int2 3 (-4)
    let scored := Operation.execute ⟨⟨0⟩, .number .set (.literal seven)
      (.literal (.float half)) .floor, .literal true⟩ (engine .default) store
    let placed := Operation.execute ⟨⟨1⟩, .vector .set (.literal corner)
      (.literal (.float2 half half)) .floor, .literal true⟩ (engine .default) store
    (store.get ⟨0⟩ = .ok score ∧ store.get ⟨1⟩ = .ok place ∧
      score.kind = .number seven.kind ∧ place.kind = .vector corner.shape ∧
      seven.Portable ∧ corner.Portable) ∧
    scored.store.get ⟨0⟩ = .ok { score with value := .number seven } ∧
    placed.store.get ⟨1⟩ = .ok { place with value := .vector corner } := by
  intro score place store half seven corner scored placed
  have found : store.get ⟨0⟩ = .ok score := rfl
  have foundPlace : store.get ⟨1⟩ = .ok place := rfl
  have sevenKept : seven.Portable := Number.portable_of_short (by decide)
  have cornerKept : corner.Portable
    | 0 => Number.portable_of_short (by decide)
    | 1 => Number.portable_of_short (by decide)
    | _ + 2 => Number.portable_zero .int32
  obtain ⟨numbers, vectors, -⟩ := set_copies
  have resolved : (Reference.literal true).resolve store = .ok true := rfl
  obtain ⟨-, seen, copies, -⟩ := numbers (a := .literal seven) (b := .literal (.float half)) found
    rfl rfl rfl resolved .floor (engine .default)
  obtain ⟨-, ⟨written, seenPlace, -, copiesPlace⟩, -⟩ := vectors (a := .literal corner)
    (b := .literal (.float2 half half)) foundPlace rfl rfl rfl resolved .floor (engine .default)
  rw [(copies rfl (.inl sevenKept)).eq nofun] at seen
  have integers (index : Nat) (single : Single) (same : corner.entry index = .float single) :
      single.isNaN = false := by
    have kind := corner.kind_entry index
    rw [same] at kind
    cases kind
  rw [(copiesPlace rfl (.inl cornerKept)).eq integers] at seenPlace
  exact ⟨⟨found, foundPlace, rfl, rfl, sevenKept, cornerKept⟩, seen, seenPlace⟩

end Rulebook
