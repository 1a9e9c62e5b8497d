import Rulebook.Json.Value
import Rulebook.Proofs.Numeric.Layout

/-! Reading data from the JSON value it was written as. Only floats can be lost:
those that are not finite are not written at all. An attempt to read says which
floats it depends on, and attempts are put together as readers are. -/
namespace Rulebook
open Numeric

/-- Whether a number is neither infinite nor a NaN. -/
def Number.isFinite : Number → Bool
  | int _ => true
  | float value => value.isFinite
  | double value => value.isFinite

namespace Json

/-- An attempt to read some content back: it succeeds if the floats in the
content are read back one by one, and fails if one of them is not finite. -/
structure Restored {α : Type} (attempt : Option α) (content : α) (floats : List Number) : Prop where
  reads : (∀ number ∈ floats, Number.ofJson? number.toJson = some number) → attempt = some content
  finite : attempt ≠ none → ∀ number ∈ floats, number.isFinite = true

namespace Restored
variable {α β : Type} {attempt : Option α} {content : α} {floats more : List Number}

theorem pure (content : α) : Restored (some content) content [] :=
  ⟨fun _ => rfl, fun _ _ mem => absurd mem List.not_mem_nil⟩

/-- Parts are read one after the other. -/
theorem bind {next : α → Option β} {make : α → β} {whole : β}
    (first : Restored attempt content floats)
    (second : ∀ content, Restored (next content) (make content) more)
    (made : make content = whole) :
    Restored (attempt.bind next) whole (floats ++ more) where
  reads kept := by
    rw [List.forall_mem_append] at kept
    rw [first.reads kept.1, ← made]
    exact (second content).reads kept.2
  finite := by
    intro read
    cases attempt with
    | none => exact absurd rfl read
    | some found =>
      exact List.forall_mem_append.mpr
        ⟨first.finite (Option.some_ne_none found), (second found).finite read⟩

/-- What is made of the content cannot bring back a float. -/
theorem andThen {next : α → Option β} {whole : β} (part : Restored attempt content floats)
    (made : next content = some whole) : Restored (attempt.bind next) whole floats where
  reads kept := by
    rw [part.reads kept]
    exact made
  finite := by
    intro read
    apply part.finite
    rintro rfl
    exact read rfl

theorem map {make : α → β} (part : Restored attempt content floats) :
    Restored (attempt.map make) (make content) floats where
  reads kept := by rw [part.reads kept, Option.map_some]
  finite read := part.finite (by simpa using read)

/-- A float is restored where it reads back itself. -/
theorem float {make : α → Number} (injective : Function.Injective make)
    (read : Number.ofJson? (make content).toJson = attempt.map make)
    (finite : attempt ≠ none → (make content).isFinite = true) :
    Restored attempt content [make content] where
  reads kept := by
    have kept := kept (make content) (List.mem_singleton_self _)
    rw [read] at kept
    exact Option.map_injective injective kept
  finite read := List.forall_mem_singleton.mpr (finite read)

theorem list {read : Json → Option α} {write : α → Json} {floatsOf : α → List Number}
    {contents : List α}
    (each : ∀ content ∈ contents, Restored (read (write content)) content (floatsOf content)) :
    Restored (list? read (.array (contents.map write))) contents (contents.flatMap floatsOf) := by
  change Restored ((contents.map write).mapM read) contents _
  induction contents with
  | nil => exact pure []
  | cons content contents ih =>
    simp only [List.map_cons, List.mapM_cons, bind_pure_comp, Option.map_eq_map]
    exact (each content (List.mem_cons_self ..)).bind
      (fun found => (ih fun other mem => each other (List.mem_cons_of_mem _ mem)).map) rfl

end Restored

/-- All fields of a structure are found where they were written. -/
theorem knownFields?_eq {names : List String} {fields : List (String × Json)}
    (known : ∀ field ∈ fields, field.1 ∈ names) (distinct : (fields.map Prod.fst).Nodup) :
    knownFields? names (fields.map fun (key, value) => (some key, value)) = some fields := by
  induction fields with
  | nil => rfl
  | cons field fields ih =>
    obtain ⟨key, value⟩ := field
    rw [List.map_cons, List.nodup_cons] at distinct
    have present : key ∈ names := known (key, value) (List.mem_cons_self ..)
    have rest := ih (fun field mem => known field (List.mem_cons_of_mem _ mem)) distinct.2
    have first : fields.lookup key = none := by
      rw [List.lookup_eq_none_iff]
      intro field mem
      rw [bne_iff_ne]
      intro same
      exact distinct.1 (List.mem_map.mpr ⟨field, mem, same.symm⟩)
    simp [knownFields?, rest, present, first]

@[simp]
theorem fields?_ofFields {names : List String} {fields : List (String × Json)}
    (named : fields.map Prod.fst = names) (distinct : names.Nodup) :
    (ofFields fields).fields? names = some fields :=
  knownFields?_eq (fun _ mem => named ▸ List.mem_map_of_mem mem) (named ▸ distinct)

section Fields
variable {α : Type} {name other : String} {json : Json} {fields : List (String × Json)}
  {content? : Json → Option α} {fallback : α}

@[simp]
theorem required?_self : required? ((name, json) :: fields) name content? = content? json := by
  simp [required?]

@[simp]
theorem required?_other (different : name ≠ other) :
    required? ((other, json) :: fields) name content? = required? fields name content? := by
  have differs : (name == other) = false := beq_false_of_ne different
  simp [required?, List.lookup_cons, differs]

@[simp]
theorem defaulted?_self :
    defaulted? ((name, json) :: fields) name fallback content? = content? json := by
  simp [defaulted?]

@[simp]
theorem defaulted?_other (different : name ≠ other) :
    defaulted? ((other, json) :: fields) name fallback content? =
      defaulted? fields name fallback content? := by
  have differs : (name == other) = false := beq_false_of_ne different
  simp [defaulted?, List.lookup_cons, differs]

@[simp]
theorem string?_ofString (text : String) : (ofString text).string? = some text := rfl

@[simp]
theorem alternative?_ofAlternative (name : String) (content : Json) :
    (ofAlternative name content).alternative? = some (name, some content) := rfl

end Fields

theorem int?_ofInt (value : Int) : (ofInt value).int? = some value := by
  have digits : digitsValue (Nat.toDigits 10 value.natAbs) = value.natAbs :=
    Style.digitsValue_digits value.natAbs
  have signed : (decide (value < 0) && value.natAbs == 0) = false := by
    simp only [Bool.and_eq_false_iff, decide_eq_false_iff_not, beq_eq_false_iff_ne]
    omega
  have whole : Numeral.isWhole ⟨Nat.toDigits 10 value.natAbs, [], []⟩ = true := rfl
  simp only [int?, ofInt, digits, whole, signed, Bool.not_false, Bool.and_self, if_true,
    decide_eq_true_eq, Option.some.injEq]
  split <;> omega

theorem int?_ofNat (value : Nat) : (ofNat value).int? = some (value : Int) := by
  have digits : digitsValue (Nat.toDigits 10 value) = value := Style.digitsValue_digits value
  simp [int?, ofNat, digits, Numeral.isWhole]

theorem boundedInt?_eq {json : Json} {value low high : Int} (read : json.int? = some value)
    (inside : low ≤ value ∧ value ≤ high) : json.boundedInt? low high = some value := by
  rw [boundedInt?, read, Option.filter_some, if_pos (decide_eq_true inside)]

end Json

@[simp]
theorem int32?_toJson (value : Int32) : (Int32.toJson value).int32? = some value := by
  have low : Int32.minValue.toInt ≤ value.toInt := value.le_toInt
  have high : value.toInt ≤ Int32.maxValue.toInt := Int.le_of_lt_add_one value.toInt_lt
  rw [Json.int32?, Int32.toJson, Json.boundedInt?_eq (Json.int?_ofInt value.toInt) ⟨low, high⟩]
  simp

@[simp]
theorem uint32?_ofNat (value : UInt32) : (Json.ofNat value.toNat).uint32? = some value := by
  have high : value.toNat < UInt32.size := value.toNat_lt
  rw [Json.uint32?, Json.boundedInt?_eq (Json.int?_ofNat value.toNat) ⟨by omega, by omega⟩]
  simp

@[simp]
theorem uint64?_ofNat (value : UInt64) : (Json.ofNat value.toNat).uint64? = some value := by
  have high : value.toNat < UInt64.size := value.toNat_lt
  rw [Json.uint64?, Json.boundedInt?_eq (Json.int?_ofNat value.toNat) ⟨by omega, by omega⟩]
  simp

end Rulebook
