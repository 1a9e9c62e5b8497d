import Rulebook.Proofs.Numeric.WholeNumbers
import Rulebook.Proofs.ValidationSoundness

/-! Vectors are computed like numbers, component by component. Operands are as long
as the longer one, and every component of theirs has to be computable, even one
that the target has no room for. -/
namespace Rulebook
open Numeric Script

section Mapped
variable {f : α → Option β}

/-- One member without an image is enough for a list to have none. -/
theorem mapM_eq_none_iff {list : List α} :
    list.mapM f = none ↔ ∃ member ∈ list, f member = none := by
  induction list with
  | nil => simp
  | cons head rest ih =>
    rw [List.mapM_cons, List.exists_mem_cons_iff, ← ih]
    cases f head with
    | none => simp
    | some image => cases rest.mapM f <;> simp

theorem getElem?_of_mapM {list : List α} {images : List β} (mapped : list.mapM f = some images)
    (index : Nat) : images[index]? = list[index]?.bind f := by
  induction list generalizing images index with
  | nil =>
    cases mapped
    rfl
  | cons head rest ih =>
    rw [List.mapM_cons] at mapped
    obtain ⟨image, found, mapped⟩ := Option.bind_eq_some_iff.mp mapped
    obtain ⟨others, foundOthers, ended⟩ := Option.bind_eq_some_iff.mp mapped
    cases ended
    cases index with
    | zero => exact found.symm
    | succ index => exact ih foundOthers index

end Mapped

/-- The precision of the components. -/
def VectorShape.entryKind (shape : VectorShape) : NumberKind :=
  if shape.integer then .int32 else .float32

theorem VectorShape.entryKind_merge (left right : VectorShape) :
    (left.merge right).entryKind = left.entryKind.merge right.entryKind := by
  obtain ⟨_, integerLeft⟩ := left
  obtain ⟨_, integerRight⟩ := right
  cases integerLeft <;> cases integerRight <;> rfl

theorem NumberKind.widen_zero (kind : NumberKind) : (Number.zero kind).widen = .zero false := by
  cases kind with
  | int32 =>
    change Binary.ofInt (0 : Int32).toInt = _
    rw [Int32.toInt_zero, Binary.ofInt_zero Format.double_reaches]
  | float32 => exact Binary.convert_zero false Format.single_reaches Format.double_reaches
  | float64 => rfl

theorem Number.kind_zero (kind : NumberKind) : (Number.zero kind).kind = kind := by
  cases kind <;> rfl

namespace Vector

/-- The components as numbers of their own precision. -/
def entries : Vector → List Number
  | int2 x y => [x, y].map .int
  | int3 x y z => [x, y, z].map .int
  | int4 x y z w => [x, y, z, w].map .int
  | float2 x y => [x, y].map .float
  | float3 x y z => [x, y, z].map .float
  | float4 x y z w => [x, y, z, w].map .float

/-- The component at an index as a number of its own precision, zero past the last
one. -/
def entry (vector : Vector) (index : Nat) : Number :=
  vector.entries[index]?.getD (.zero vector.shape.entryKind)

theorem length_entries (vector : Vector) : vector.entries.length = vector.shape.length := by
  cases vector <;> rfl

theorem widen_entries (vector : Vector) : vector.entries.map Number.widen = vector.components := by
  cases vector <;> rfl

theorem kind_entries (vector : Vector) :
    ∀ number ∈ vector.entries, number.kind = vector.shape.entryKind := by
  cases vector <;> simp [entries, shape, VectorShape.entryKind, Number.kind]

/-- Vectors compute with the numbers that their components are. -/
theorem widen_entry (vector : Vector) (index : Nat) :
    (vector.entry index).widen = vector.component index := by
  rw [component, ← widen_entries, List.getElem?_map, entry,
    ← NumberKind.widen_zero vector.shape.entryKind, Option.getD_map]

theorem kind_entry (vector : Vector) (index : Nat) :
    (vector.entry index).kind = vector.shape.entryKind := by
  rw [entry]
  cases present : vector.entries[index]? with
  | none => exact Number.kind_zero _
  | some number => exact vector.kind_entries number (List.mem_of_getElem? present)

theorem entry_of_length_le {vector : Vector} {index : Nat} (past : vector.shape.length ≤ index) :
    vector.entry index = .zero vector.shape.entryKind := by
  rw [← length_entries] at past
  rw [entry, List.getElem?_eq_none past]
  rfl

/-- Operands meet at the length of the longer one. -/
theorem length_merge (left right : Vector) :
    (left.shape.merge right.shape).length = max left.shape.length right.shape.length := by
  cases left <;> cases right <;> rfl

theorem entries_ofComponents (vector : Vector) (component : Nat → Double) :
    (ofComponents vector.shape component).entries =
      (List.range vector.shape.length).map fun index =>
        if vector.shape.integer then .int ((component index).toInt32 truncQuotient)
        else .float (component index).convert := by
  cases vector <;> rfl

end Vector

/-- No rounding moves zero. -/
theorem Rounding.toInt32_zero (rounding : Rounding) : rounding.toInt32 (.zero false) = 0 := by
  have whole (denominator : Nat) : rounding.rule 0 denominator = 0 := by
    cases rounding <;> simp [rule, nearestQuotient, floorQuotient, ceilQuotient]
  rw [toInt32, Double.toInt32, Binary.read_zero false Format.double_reaches]
  change clampInt32 (rounding.rule 0 _) = 0
  rw [whole]
  exact clampInt32_toInt 0

/-- Zero is a number of every precision. -/
theorem narrow_zero (kind : NumberKind) (rounding : Rounding) :
    narrow (.zero false) kind rounding = .zero kind := by
  cases kind with
  | int32 => exact congrArg Number.int rounding.toInt32_zero
  | float32 =>
    exact congrArg Number.float
      (Binary.convert_zero false Format.double_reaches Format.single_reaches)
  | float64 => rfl

/-- A vector is fitted to a target like a number, component by component. -/
theorem entry_fit (old : Vector) (components : List Double) (rounding : Rounding) {index : Nat}
    (bound : index < old.shape.length) :
    (fit components old.shape rounding).entry index =
      narrow (components[index]?.getD (.zero false)) old.shape.entryKind rounding := by
  rw [Vector.entry, fit, Vector.entries_ofComponents, List.getElem?_map, List.getElem?_range bound]
  cases integer : old.shape.integer with
  | true =>
    simp [bound, VectorShape.entryKind, integer, narrow, Double.toInt32_ofInt]
  | false =>
    simp [bound, VectorShape.entryKind, integer, narrow]

/-- What an operator makes of the components at an index, before it is brought to the
precision of a target. -/
def Arithmetic.atComponent (operator : Arithmetic) (left right : Vector) (index : Nat) :
    Option Double :=
  operator.apply (left.entry index).widen (right.entry index).widen
    ((left.entry index).kind.merge (right.entry index).kind)

/-- Vectors are merged like the numbers at each index. -/
theorem vectorComponents_eq (operator : Arithmetic) (left right : Vector) :
    vectorComponents operator left right =
      (List.range (max left.shape.length right.shape.length)).mapM
        (operator.atComponent left right) := by
  have numbers : operator.atComponent left right = fun index =>
      operator.apply (left.component index) (right.component index)
        (left.shape.merge right.shape).entryKind := by
    funext index
    rw [Arithmetic.atComponent, Vector.widen_entry, Vector.widen_entry, Vector.kind_entry,
      Vector.kind_entry, VectorShape.entryKind_merge]
  rw [numbers, ← Vector.length_merge]
  rfl

/-- An integer has no quotient or remainder by a component that is missing. -/
theorem Arithmetic.atComponent_eq_none {operator : Arithmetic} {left right : Vector} {index : Nat}
    (divides : operator.divides = true) (integerLeft : left.shape.integer = true)
    (integerRight : right.shape.integer = true) (short : right.shape.length ≤ index) :
    operator.atComponent left right index = none := by
  have kindLeft : (left.entry index).kind = .int32 := by
    rw [Vector.kind_entry, VectorShape.entryKind, if_pos integerLeft]
  have kindRight : (right.entry index).kind = .int32 := by
    rw [Vector.kind_entry, VectorShape.entryKind, if_pos integerRight]
  have divisor : (right.entry index).widen.isZero = true := by
    rw [Vector.entry_of_length_le short, NumberKind.widen_zero]
    rfl
  rw [atComponent, kindLeft, kindRight, apply, divides, divisor]
  rfl

namespace Formula

theorem result_number {store : Store} {target : VariableId} {var : Variable} {kind : NumberKind}
    {a b : Reference Number} {left right : Number} (found : store.get target = .ok var)
    (sameKind : var.kind = .number kind) (resolvedA : a.resolve store = .ok left)
    (resolvedB : b.resolve store = .ok right) (evaluator : Evaluator) (operator : Arithmetic)
    (rounding : Rounding) :
    ((number operator a b rounding).compute evaluator target store).result =
      match operator.apply left.widen right.widen (left.kind.merge right.kind) with
      | some result => .ok (.number (narrow result kind rounding))
      | none => .error (.divisionByZero var.name) := by
  have targeted : store.numberTarget target = .ok (var.name, kind) :=
    (Store.numberTarget_eq_ok_iff ..).mpr ⟨var, found, rfl, sameKind⟩
  simp only [compute, Action.read, targeted, resolvedA, resolvedB]
  change (match operator.apply _ _ _ with | some _ => _ | none => _) = _
  cases operator.apply left.widen right.widen (left.kind.merge right.kind) <;> rfl

theorem result_vector {store : Store} {target : VariableId} {var : Variable} {shape : VectorShape}
    {a b : Reference Vector} {left right : Vector} (found : store.get target = .ok var)
    (sameKind : var.kind = .vector shape) (resolvedA : a.resolve store = .ok left)
    (resolvedB : b.resolve store = .ok right) (evaluator : Evaluator) (operator : Arithmetic)
    (rounding : Rounding) :
    ((vector operator a b rounding).compute evaluator target store).result =
      match vectorComponents operator left right with
      | some components => .ok (.vector (fit components shape rounding))
      | none => .error (.divisionByZero var.name) := by
  have targeted : store.vectorTarget target = .ok (var.name, shape) :=
    (Store.vectorTarget_eq_ok_iff ..).mpr ⟨var, found, rfl, sameKind⟩
  simp only [compute, Action.read, targeted, resolvedA, resolvedB]
  change (match vectorComponents operator left right with | some _ => _ | none => _) = _
  cases vectorComponents operator left right <;> rfl

end Formula

/-- What a vector of a shape has to do with numbers that are computed one for each
index below a width. -/
structure ComputedByComponents (whole : Except RuleError Value)
    (part : Nat → Except RuleError Value) (width : Nat) (shape : VectorShape)
    (target : String) : Prop where
  /-- The vector is there when all the numbers are, with those that the shape drops. -/
  computes_iff : (∃ value, whole = .ok value) ↔ ∀ index < width, ∃ value, part index = .ok value
  /-- The numbers are its components; what they do not reach is zero. -/
  components : ∀ value, whole = .ok value → ∃ vector : Vector, value = .vector vector ∧
    vector.shape = shape ∧
    (∀ index < min shape.length width, part index = .ok (.number (vector.entry index))) ∧
    ∀ index, width ≤ index → index < shape.length → vector.entry index = .zero shape.entryKind
  /-- Nothing but a division by zero is in its way. -/
  fails : ∀ error, whole = .error error → error = .divisionByZero target

/-- Operands that can be merged give the components of a vector. -/
theorem computedByComponents_of_some {operator : Arithmetic} {left right old : Vector}
    {components : List Double} (merged : vectorComponents operator left right = some components)
    {rounding : Rounding} {part : Nat → Except RuleError Value}
    (parts : ∀ index result, operator.atComponent left right index = some result →
      part index = .ok (.number (narrow result old.shape.entryKind rounding))) (target : String) :
    ComputedByComponents (.ok (.vector (fit components old.shape rounding))) part
      (max left.shape.length right.shape.length) old.shape target := by
  rw [vectorComponents_eq] at merged
  have held (index : Nat) := getElem?_of_mapM merged index
  have inside {index : Nat} (bound : index < max left.shape.length right.shape.length) :
      ∃ result, components[index]? = some result ∧
        part index = .ok (.number (narrow result old.shape.entryKind rounding)) := by
    -- one component without a result would have left the whole without one
    have present : operator.atComponent left right index ≠ none := fun absent => by
      have failed := mapM_eq_none_iff.mpr ⟨index, List.mem_range.mpr bound, absent⟩
      rw [merged] at failed
      cases failed
    obtain ⟨result, computed⟩ := Option.ne_none_iff_exists'.mp present
    have found := held index
    rw [List.getElem?_range bound] at found
    exact ⟨result, found.trans computed, parts index result computed⟩
  refine ⟨⟨fun _ index bound => ?_, fun _ => ⟨_, rfl⟩⟩, ?_, nofun⟩
  · obtain ⟨result, -, computed⟩ := inside bound
    exact ⟨_, computed⟩
  · rintro _ ⟨⟩
    refine ⟨_, rfl, shape_ofComponents old _, fun index bound => ?_, fun index past bound => ?_⟩
    · obtain ⟨fits, reached⟩ := lt_min_iff.mp bound
      obtain ⟨result, found, computed⟩ := inside reached
      rw [entry_fit old components rounding fits, found]
      exact computed
    · have missing : components[index]? = none := by
        rw [held, List.getElem?_eq_none (List.length_range.trans_le past)]
        rfl
      rw [entry_fit old components rounding bound, missing]
      exact narrow_zero ..

/-- Operands that cannot be merged have a component that cannot be computed. -/
theorem computedByComponents_of_none {operator : Arithmetic} {left right : Vector}
    (unmerged : vectorComponents operator left right = none)
    {part : Nat → Except RuleError Value}
    (parts : ∀ index, operator.atComponent left right index = none →
      ∀ value, part index ≠ .ok value) (shape : VectorShape) (target : String) :
    ComputedByComponents (.error (.divisionByZero target)) part
      (max left.shape.length right.shape.length) shape target := by
  rw [vectorComponents_eq, mapM_eq_none_iff] at unmerged
  obtain ⟨index, bound, absent⟩ := unmerged
  refine ⟨⟨nofun, fun computed => ?_⟩, nofun, ?_⟩
  · obtain ⟨value, ended⟩ := computed index (List.mem_range.mp bound)
    exact absurd ended (parts index absent value)
  · rintro _ ⟨⟩
    rfl

/-- A vector formula does to its target what number formulas with the same operator and
rounding do, one for each component of the longer operand, to numbers of the precision
of the target's components. Integers divided by a shorter vector are divided by zero. -/
theorem vector_computed_by_components {store scalars : Store} {target cell : VariableId}
    {var held : Variable} {shape : VectorShape} {a b : Reference Vector} {left right : Vector}
    (found : store.get target = .ok var) (sameKind : var.kind = .vector shape)
    (resolvedA : a.resolve store = .ok left) (resolvedB : b.resolve store = .ok right)
    (scalar : scalars.get cell = .ok held) (scalarKind : held.kind = .number shape.entryKind)
    (evaluator : Evaluator) (operator : Arithmetic) (rounding : Rounding) :
    let whole := ((Formula.vector operator a b rounding).compute evaluator target store).result
    let part := fun index =>
      ((Formula.number operator (.literal (left.entry index)) (.literal (right.entry index))
        rounding).compute evaluator cell scalars).result
    ComputedByComponents whole part (max left.shape.length right.shape.length) shape var.name ∧
      (operator = .divide ∨ operator = .modulo → left.shape.integer = true →
        right.shape.integer = true → right.shape.length < left.shape.length →
          whole = .error (.divisionByZero var.name)) := by
  intro whole part
  have wholeIs : whole = _ := Formula.result_vector found sameKind resolvedA resolvedB ..
  have partIs (index : Nat) : part index = match operator.atComponent left right index with
      | some result => .ok (.number (narrow result shape.entryKind rounding))
      | none => .error (.divisionByZero held.name) :=
    Formula.result_number scalar scalarKind rfl rfl ..
  constructor
  · -- the shape is that of the value held so far, hence one that vectors have
    obtain ⟨name, value⟩ := var
    cases value with
    | bool _ | number _ => cases sameKind
    | vector old =>
      cases sameKind
      rw [wholeIs]
      cases merged : vectorComponents operator left right with
      | some components =>
        refine computedByComponents_of_some merged (fun index result computed => ?_) name
        rw [partIs, computed]
      | none =>
        refine computedByComponents_of_none merged (fun index absent value => ?_) old.shape name
        rw [partIs, absent]
        nofun
  · intro division integerLeft integerRight short
    have divides : operator.divides = true := by
      rcases division with rfl | rfl <;> rfl
    have unmerged : vectorComponents operator left right = none := by
      rw [vectorComponents_eq, mapM_eq_none_iff]
      exact ⟨right.shape.length, List.mem_range.mpr (lt_max_of_lt_left short),
        Arithmetic.atComponent_eq_none divides integerLeft integerRight le_rfl⟩
    rw [wholeIs, unmerged]

/-- A step of two integers is divided by a shorter vector in the one component that the
target has no room for. -/
theorem vector_computed_by_components_stride :
    let stride : Variable := ⟨"stride", .vector (.int2 5 5)⟩
    let width : Variable := ⟨"width", .number (.int 0)⟩
    let store : Store := (Store.empty.adding stride).adding width
    let a : Reference Vector := .literal (.int3 7 8 9)
    let b : Reference Vector := .literal (.int2 2 4)
    (store.get ⟨0⟩ = .ok stride ∧ stride.kind = .vector ⟨2, true⟩ ∧
      a.resolve store = .ok (.int3 7 8 9) ∧ b.resolve store = .ok (.int2 2 4) ∧
      store.get ⟨1⟩ = .ok width ∧ width.kind = .number (VectorShape.entryKind ⟨2, true⟩)) ∧
    ((Formula.vector .divide a b .floor).compute (engine .default) ⟨0⟩ store).result =
      .error (.divisionByZero "stride") := by
  intro stride width store a b
  have found : store.get ⟨0⟩ = .ok stride := rfl
  have sameKind : stride.kind = .vector ⟨2, true⟩ := rfl
  have resolvedA : a.resolve store = .ok (.int3 7 8 9) := rfl
  have resolvedB : b.resolve store = .ok (.int2 2 4) := rfl
  have scalar : store.get ⟨1⟩ = .ok width := rfl
  have scalarKind : width.kind = .number (VectorShape.entryKind ⟨2, true⟩) := rfl
  obtain ⟨-, fails⟩ := vector_computed_by_components found sameKind resolvedA resolvedB scalar
    scalarKind (engine .default) .divide .floor
  exact ⟨⟨found, sameKind, resolvedA, resolvedB, scalar, scalarKind⟩,
    fails (.inl rfl) rfl rfl (by decide)⟩

end Rulebook
