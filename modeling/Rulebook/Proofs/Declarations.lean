import Mathlib.Data.List.Nodup
import Rulebook.Proofs.StoreHistory

/-! The variables of a store, told from the declarations made on it. A history
declares variables one after another; the store holds exactly these, in this
order, each under the name and with the kind it was declared with, whatever has
been written to it since. Names are distinct, and the index knows the place of
each, so looking up a name and looking up an id undo each other. -/
namespace Rulebook

/-- A declaration that succeeded: the id it was answered with and the variable as
it was declared. -/
structure Declaration where
  id : VariableId
  initial : Variable
deriving DecidableEq

/-- What a variable keeps for good. -/
def Variable.signature (var : Variable) : String × Kind :=
  (var.name, var.kind)

/-- The declaration that a call makes, if it asks for one and succeeds. -/
def Call.declaration? (store : Store) : Call → Option Declaration
  | .declare name value =>
    match (Action.declare name value store).result with
    | .ok id => some ⟨id, ⟨name, value⟩⟩
    | .error _ => none
  | _ => none

namespace Store

/-- The declarations made in the course of some calls, in order. -/
def declarations (store : Store) : List Call → List Declaration
  | [] => []
  | call :: rest => (call.declaration? store).toList ++ declarations (call.after store) rest

/-- A call declares one variable at most. -/
theorem length_declarations_le (store : Store) (calls : List Call) :
    (store.declarations calls).length ≤ calls.length := by
  induction calls generalizing store with
  | nil => exact Nat.le_refl 0
  | cons call rest ih =>
    have later := ih (call.after store)
    rw [declarations, List.length_append, List.length_cons]
    cases call.declaration? store <;> simp <;> omega

def names (store : Store) : List String :=
  store.declared.toList.map Variable.name

def signatures (store : Store) : List (String × Kind) :=
  store.declared.toList.map Variable.signature

theorem names_eq (store : Store) : store.names = store.signatures.map Prod.fst := by
  simp only [names, signatures, List.map_map]
  rfl

theorem length_names (store : Store) : store.names.length = store.size := by
  simp [names, size]

theorem length_signatures (store : Store) : store.signatures.length = store.size := by
  simp [signatures, size]

theorem names_adding (store : Store) (var : Variable) :
    (store.adding var).names = store.names ++ [var.name] := by
  simp [names, adding]

theorem signatures_adding (store : Store) (var : Variable) :
    (store.adding var).signatures = store.signatures ++ [var.signature] := by
  simp [signatures, adding]

/-- The index leads from a name to the place of the variable that has it. -/
def Indexed (store : Store) : Prop :=
  ∀ name id, store.idOf? name = some id ↔
    ∃ place, store.names[place]? = some name ∧ id = ⟨UInt32.ofNat place⟩

theorem indexed_empty : Store.empty.Indexed := by
  simp [Indexed, idOf?, empty, names]

theorem Indexed.of_eq {store next : Store} (indexed : store.Indexed)
    (index : next.index = store.index) (names : next.names = store.names) : next.Indexed := by
  intro name id
  rw [idOf?, index, names]
  exact indexed name id

theorem Indexed.contains_iff {store : Store} (indexed : store.Indexed) (name : String) :
    store.index.contains name = true ↔ name ∈ store.names := by
  rw [Std.HashMap.contains_eq_isSome_getElem?, Option.isSome_iff_exists]
  constructor
  · rintro ⟨id, found⟩
    obtain ⟨place, held, -⟩ := (indexed name id).mp found
    exact List.mem_of_getElem? held
  · intro member
    obtain ⟨place, inside, named⟩ := List.getElem_of_mem member
    exact ⟨_, (indexed name _).mpr ⟨place, named ▸ List.getElem?_eq_getElem inside, rfl⟩⟩

/-- A new name is entered with the place of its variable, and other names keep theirs. -/
theorem Indexed.adding {store : Store} (indexed : store.Indexed) (var : Variable)
    (fresh : var.name ∉ store.names) : (store.adding var).Indexed := by
  intro name id
  rw [names_adding, idOf?, Store.adding, Std.HashMap.getElem?_insert, ← length_names]
  by_cases same : var.name = name
  · subst same
    rw [if_pos (beq_self_eq_true _)]
    constructor
    · intro found
      exact ⟨store.names.length, by simp, (Option.some.inj found).symm⟩
    · rintro ⟨place, held, rfl⟩
      have last : place = store.names.length := by
        have inside := (List.getElem?_eq_some_iff.mp held).1
        rw [List.length_append, List.length_singleton] at inside
        by_contra other
        rw [List.getElem?_append_left (by omega)] at held
        exact fresh (List.mem_of_getElem? held)
      rw [last]
  · rw [if_neg (by simpa using same)]
    refine (indexed name id).trans (exists_congr fun place => and_congr_left fun _ => ?_)
    by_cases inside : place < store.names.length
    · rw [List.getElem?_append_left inside]
    · rw [List.getElem?_append_right (by omega), List.getElem?_eq_none (by omega)]
      cases place - store.names.length <;> simp [same]

theorem declare_of_fresh {store : Store} (indexed : store.Indexed) {name : String}
    (fresh : name ∉ store.names) (value : Value) :
    Action.declare name value store =
      ⟨.ok ⟨UInt32.ofNat store.size⟩, store.adding ⟨name, value⟩, []⟩ := by
  rw [Action.declare_apply, if_neg (fun taken => fresh ((indexed.contains_iff name).mp taken))]

theorem declare_of_taken {store : Store} (indexed : store.Indexed) {name : String}
    (taken : name ∈ store.names) (value : Value) :
    Action.declare name value store = ⟨.error (.duplicateVariable name), store, []⟩ := by
  rw [Action.declare_apply, if_pos ((indexed.contains_iff name).mpr taken)]

/-- Writing a value of the variable's kind leaves all signatures as they were. -/
theorem signatures_set {store next : Store} {id : VariableId} {value : Value}
    (written : store.set id value = .ok next) : next.signatures = store.signatures := by
  obtain ⟨old, found, sameKind, rfl⟩ := (set_eq_ok_iff ..).mp written
  obtain ⟨inside, held⟩ := Array.getElem?_eq_some_iff.mp ((get_eq_ok_iff ..).mp found)
  have bound : id.index.toNat < store.signatures.length := by rwa [length_signatures]
  have same : Variable.signature { old with value := value } =
      store.signatures[id.index.toNat] := by
    simp only [signatures, List.getElem_map, Array.getElem_toList, held]
    exact congrArg (Prod.mk old.name) sameKind.symm
  have replaced : ({ store with
      declared := store.declared.setIfInBounds id.index.toNat { old with value := value } } :
        Store).signatures =
      store.signatures.set id.index.toNat (Variable.signature { old with value := value }) := by
    simp [signatures, List.map_set]
  rw [replaced, same, List.set_getElem_self]

theorem Writes.signatures {before after : Store} (writes : Writes before after) :
    after.signatures = before.signatures ∧ after.index = before.index := by
  induction writes with
  | done store => exact ⟨rfl, rfl⟩
  | write written rest ih =>
    refine ⟨ih.1.trans (signatures_set written), ih.2.trans ?_⟩
    obtain ⟨_, _, _, rfl⟩ := (set_eq_ok_iff ..).mp written
    rfl

/-- What a call does to the variables for good: it adds the one it declares, if it
declares one, under the next id and a name that was free, and keeps the index in
step. -/
structure Declares (store : Store) (call : Call) (next : Store) : Prop where
  indexed : next.Indexed
  signatures : next.signatures = store.signatures ++
    (call.declaration? store).toList.map fun declaration => declaration.initial.signature
  numbered : ∀ declaration ∈ call.declaration? store,
    declaration.id = ⟨UInt32.ofNat store.size⟩
  fresh : ∀ declaration ∈ call.declaration? store, declaration.initial.name ∉ store.names

/-- A call that declares nothing and keeps signatures and index. -/
theorem Declares.of_signatures {store next : Store} {call : Call} (indexed : store.Indexed)
    (asks : call.declaration? store = none)
    (same : next.signatures = store.signatures ∧ next.index = store.index) :
    Declares store call next where
  indexed := indexed.of_eq same.2 (by rw [names_eq, same.1, ← names_eq])
  signatures := by
    rw [asks, same.1]
    exact (List.append_nil _).symm
  numbered := by simp [asks]
  fresh := by simp [asks]

theorem declares_declare {store : Store} (indexed : store.Indexed) (name : String)
    (value : Value) :
    Declares store (.declare name value) ((Call.declare name value).after store) := by
  by_cases taken : name ∈ store.names
  · have refused := declare_of_taken indexed taken value
    apply Declares.of_signatures indexed
    · simp [Call.declaration?, refused]
    · simp [Call.after, refused]
  · have granted := declare_of_fresh indexed taken value
    constructor
    · rw [Call.after, granted]
      exact indexed.adding ⟨name, value⟩ taken
    · simp [Call.after, Call.declaration?, granted, signatures_adding]
    · simp [Call.declaration?, granted]
    · simpa [Call.declaration?, granted] using taken

theorem declares_call {store : Store} (indexed : store.Indexed) (call : Call) :
    Declares store call (call.after store) := by
  cases call with
  | declare name value => exact declares_declare indexed name value
  | set id value => exact .of_signatures indexed rfl (writes_write id value store).signatures
  | subscribe id observer =>
    refine .of_signatures indexed rfl ?_
    rw [Call.after, Action.subscribe_apply]
    cases store.get id <;> exact ⟨rfl, rfl⟩
  | unsubscribe id =>
    refine .of_signatures indexed rfl ?_
    change (store.unsubscribe id).2.signatures = _ ∧ (store.unsubscribe id).2.index = _
    unfold unsubscribe
    split <;> exact ⟨rfl, rfl⟩
  | raise id =>
    refine .of_signatures indexed rfl ?_
    rw [Call.after, raise_unchanged]
    exact ⟨rfl, rfl⟩
  | execute operation evaluator =>
    exact .of_signatures indexed rfl (writes_execute operation evaluator store).signatures
  | batch gate lists evaluator =>
    exact .of_signatures indexed rfl (writes_batch gate lists evaluator store).signatures
  | run rule evaluator =>
    exact .of_signatures indexed rfl (writes_run rule evaluator store).signatures

/-- The index stays in step with the variables through any calls. -/
theorem Indexed.after {store : Store} (indexed : store.Indexed) (calls : List Call) :
    (store.after calls).Indexed := by
  induction calls generalizing store with
  | nil => exact indexed
  | cons call rest ih => exact ih (declares_call indexed call).indexed

/-- After some calls a store has the variables it had and then those declared on
the way, all with their names and kinds. -/
theorem signatures_after {store : Store} (indexed : store.Indexed) (calls : List Call) :
    (store.after calls).signatures = store.signatures ++
      (store.declarations calls).map fun declaration => declaration.initial.signature := by
  induction calls generalizing store with
  | nil => exact (List.append_nil _).symm
  | cons call rest ih =>
    have first := declares_call indexed call
    change ((call.after store).after rest).signatures = _
    rw [ih first.indexed, first.signatures, declarations, List.map_append, List.append_assoc]

theorem size_after {store : Store} (indexed : store.Indexed) (calls : List Call) :
    (store.after calls).size = store.size + (store.declarations calls).length := by
  rw [← length_signatures, signatures_after indexed, List.length_append, List.length_map,
    length_signatures]

/-- Distinct names stay distinct, because a declaration asks for a free one. -/
theorem nodup_names_after {store : Store} (indexed : store.Indexed)
    (distinct : store.names.Nodup) (calls : List Call) : (store.after calls).names.Nodup := by
  induction calls generalizing store with
  | nil => exact distinct
  | cons call rest ih =>
    have step := declares_call indexed call
    apply ih step.indexed
    rw [names_eq, step.signatures, List.map_append, ← names_eq]
    cases asked : call.declaration? store with
    | none => simpa using distinct
    | some declaration =>
      have fresh := step.fresh declaration asked
      exact List.nodup_append_comm.mp (List.nodup_cons.mpr ⟨fresh, distinct⟩)

/-- Declarations are answered with consecutive ids. -/
theorem numbered_after {store : Store} (indexed : store.Indexed) {calls : List Call} {place : Nat}
    {declaration : Declaration} (made : (store.declarations calls)[place]? = some declaration) :
    declaration.id = ⟨UInt32.ofNat (store.size + place)⟩ := by
  induction calls generalizing store place with
  | nil => simp [declarations] at made
  | cons call rest ih =>
    have step := declares_call indexed call
    have size := congrArg List.length step.signatures
    rw [length_signatures, List.length_append, length_signatures, List.length_map] at size
    rw [declarations] at made
    cases asked : call.declaration? store with
    | none =>
      simp only [asked, Option.toList_none, List.nil_append, List.length_nil] at made size
      rw [ih step.indexed made, size, Nat.add_zero]
    | some first =>
      simp only [asked, Option.toList_some, List.singleton_append, List.length_singleton]
        at made size
      cases place with
      | zero =>
        obtain rfl : first = declaration := Option.some.inj made
        exact step.numbered first asked
      | succ place =>
        rw [List.getElem?_cons_succ] at made
        rw [ih step.indexed made, size, Nat.add_assoc, Nat.add_comm 1]

/-- Where ids suffice, the id of a name is the place of the variable that has it. -/
theorem Indexed.idOf?_eq_some_iff {store : Store} (indexed : store.Indexed)
    (few : store.size ≤ UInt32.size) (name : String) (id : VariableId) :
    store.idOf? name = some id ↔
      id.index.toNat < store.size ∧ ∃ var, store.get id = .ok var ∧ var.name = name := by
  simp only [indexed name id, get_eq_ok_iff, names, List.getElem?_map, Array.getElem?_toList,
    Option.map_eq_some_iff]
  constructor
  · rintro ⟨place, ⟨var, held, named⟩, rfl⟩
    obtain ⟨inside, -⟩ := Array.getElem?_eq_some_iff.mp held
    have number : (UInt32.ofNat place).toNat = place :=
      UInt32.toNat_ofNat_of_lt' (Nat.lt_of_lt_of_le inside few)
    rw [number]
    exact ⟨inside, var, held, named⟩
  · rintro ⟨-, var, held, named⟩
    exact ⟨id.index.toNat, ⟨var, held, named⟩, by simp⟩

theorem declare_cases {store : Store} (indexed : store.Indexed) {name : String} {value : Value}
    {error : RuleError} (refused : (Action.declare name value store).result = .error error) :
    name ∈ store.names ∧ error = .duplicateVariable name ∧
      (Action.declare name value store).store = store := by
  by_cases taken : name ∈ store.names
  · rw [declare_of_taken indexed taken] at refused ⊢
    exact ⟨taken, (Except.error.inj refused).symm, rfl⟩
  · rw [declare_of_fresh indexed taken] at refused
    cases refused

theorem write_cases {store : Store} {id : VariableId} {value : Value} {error : RuleError}
    (refused : (Action.write id value store).result = .error error) :
    (store.get id = .error error ∨
      ∃ var, store.get id = .ok var ∧ var.kind ≠ value.kind ∧
        error = var.mismatch (.exactly value.kind)) ∧
      (Action.write id value store).store = store := by
  rw [Action.write_apply] at refused ⊢
  cases found : store.get id with
  | error missing =>
    rw [found] at refused
    exact ⟨.inl (congrArg Except.error (Except.error.inj refused)), rfl⟩
  | ok var =>
    rw [found] at refused
    by_cases same : var.kind = value.kind
    · simp only [same, if_true] at refused
      cases refused
    · simp only [same, if_false] at refused
      refine ⟨.inr ⟨var, rfl, same, (Except.error.inj refused).symm⟩, ?_⟩
      simp only [same, if_false]

/-- A store knows its variables as its history has them. -/
structure KeepsDeclarations (calls : List Call) (store : Store) : Prop where
  distinct : store.names.Nodup
  /-- The name of a variable and its id lead to one another. -/
  indexed : ∀ name id, store.idOf? name = some id ↔
    id.index.toNat < store.size ∧ ∃ var, store.get id = .ok var ∧ var.name = name
  /-- Successful declarations are answered with the ids from zero on. -/
  numbered : ∀ (place : Nat) (declaration : Declaration),
    (declarations .empty calls)[place]? = some declaration →
      declaration.id.index.toNat = place
  /-- The variables are those declared, in order, with the names and kinds that
  they were declared with. -/
  kept : store.declared.toList.map (fun var => (var.name, var.kind)) =
    (declarations .empty calls).map fun declaration =>
      (declaration.initial.name, declaration.initial.kind)
  /-- A declaration fails only for a name that is taken, and then changes nothing. -/
  declareRefused : ∀ name value error, (Action.declare name value store).result = .error error →
    name ∈ store.names ∧ error = .duplicateVariable name ∧
      (Action.declare name value store).store = store
  /-- A write fails only for an unknown id or a value of another kind, and then
  changes nothing. -/
  setRefused : ∀ id value error, (Action.write id value store).result = .error error →
    (store.get id = .error error ∨
      ∃ var, store.get id = .ok var ∧ var.kind ≠ value.kind ∧
        error = var.mismatch (.exactly value.kind)) ∧
      (Action.write id value store).store = store

/-- Whatever calls are made on a new store, with or without success, it knows its
variables as it was told of them. -/
theorem keeps_declarations (calls : List Call)
    (few : (declarations .empty calls).length ≤ UInt32.size) :
    (after .empty calls).KeepsDeclarations calls := by
  have unnamed : Store.empty.names.Nodup := List.nodup_nil
  have indexed := indexed_empty.after calls
  have size : (after .empty calls).size = (declarations .empty calls).length := by
    rw [size_after indexed_empty]
    exact Nat.zero_add _
  constructor
  case distinct => exact nodup_names_after indexed_empty unnamed calls
  case indexed => exact indexed.idOf?_eq_some_iff (size ▸ few)
  case numbered =>
    intro place declaration made
    obtain ⟨inside, -⟩ := List.getElem?_eq_some_iff.mp made
    rw [numbered_after indexed_empty made]
    simp only [Store.size, Store.empty, Array.size_empty, Nat.zero_add]
    exact UInt32.toNat_ofNat_of_lt' (Nat.lt_of_lt_of_le inside few)
  case kept => exact signatures_after indexed_empty calls
  case declareRefused => exact fun _ _ _ => declare_cases indexed
  case setRefused => exact fun _ _ _ => write_cases

/-- Two variables are declared, one of them twice, and written to in ways that
succeed and fail. -/
def ledger : List Call :=
  let gold : VariableId := ⟨0⟩
  let halve : Operation :=
    ⟨gold, .number .divide (.bound gold) (.literal (.float (.ofInt 2))) .floor, .literal true⟩
  let spill : Operation :=
    ⟨gold, .number .divide (.bound gold) (.literal (.int 0)) .nearest, .unbound⟩
  [.declare "gold" (.number (.int 7)), .declare "position" (.vector (.int2 1 2)),
    .declare "gold" (.bool true), .set gold (.bool true), .subscribe gold "purse",
    .batch none [[halve, spill]] (Script.engine .default), .set ⟨5⟩ (.number (.int 1))]

theorem keeps_declarations_ledger :
    (declarations .empty ledger).length ≤ UInt32.size ∧
      (after .empty ledger).KeepsDeclarations ledger := by
  have few : (declarations .empty ledger).length ≤ UInt32.size :=
    Nat.le_trans (length_declarations_le .empty ledger) (by decide)
  exact ⟨few, keeps_declarations ledger few⟩

end Store

end Rulebook
