import Rulebook.Numeric.Style

/-! Values of scripted expressions and the names they are bound to. Zero, NaN
and the empty text count as false, as `nil` and `false` do. -/
namespace Rulebook.Script
open Rulebook.Numeric

/-- A value that an expression takes or gives. -/
inductive Datum where
  | nil
  | boolean (value : Bool)
  | number (value : Double)
  | text (value : String)
deriving DecidableEq

/-- The types that values of expressions have. -/
inductive TypeTag where
  | nil
  | boolean
  | number
  | text
deriving DecidableEq

def TypeTag.name : TypeTag → String
  | nil => "nil"
  | boolean => "boolean"
  | number => "number"
  | text => "string"

namespace Datum

def typeTag : Datum → TypeTag
  | nil => .nil
  | boolean _ => .boolean
  | number _ => .number
  | text _ => .text

def truthy : Datum → Bool
  | nil => false
  | boolean value => value
  | number value => !value.isZero && !value.isNaN
  | text value => !value.isEmpty

def boolean? : Datum → Option Bool
  | boolean value => some value
  | _ => none

def number? : Datum → Option Double
  | number value => some value
  | _ => none

/-- Equality as expressions test it: a NaN differs from itself, zeros of either
sign are equal, and values of different types never are. -/
def equals : Datum → Datum → Bool
  | nil, nil => true
  | boolean left, boolean right => left == right
  | number left, number right => left.equals right
  | text left, text right => left == right
  | _, _ => false

/-- The value as messages and concatenation write it. -/
def display : Datum → String
  | nil => "nil"
  | boolean value => if value then "true" else "false"
  | number value => value.text
  | text value => value

end Datum

/-- The names an expression can see. Each name is bound once. -/
structure Bindings where
  entries : List (String × Datum)
deriving DecidableEq

namespace Bindings

def empty : Bindings := ⟨[]⟩

/-- Binds a name, in place of what it was bound to before. -/
def insert (bindings : Bindings) (name : String) (value : Datum) : Bindings :=
  ⟨bindings.entries.filter (fun entry => entry.1 != name) ++ [(name, value)]⟩

def ofList (entries : List (String × Datum)) : Bindings :=
  entries.foldl (fun bindings entry => bindings.insert entry.1 entry.2) empty

def get? (bindings : Bindings) (name : String) : Option Datum :=
  bindings.entries.lookup name

def size (bindings : Bindings) : Nat :=
  bindings.entries.length

theorem get?_insert_self (bindings : Bindings) (name : String) (value : Datum) :
    (bindings.insert name value).get? name = some value := by
  have absent : (bindings.entries.filter fun entry => entry.1 != name).lookup name = none := by
    rw [List.lookup_eq_none_iff]
    intro entry member
    simp only [List.mem_filter, bne_iff_ne] at member
    simpa using fun same => member.2 same.symm
  simp [get?, insert, List.lookup_append, absent]

theorem get?_insert_of_ne (bindings : Bindings) {name other : String} (value : Datum)
    (distinct : other ≠ name) : (bindings.insert name value).get? other = bindings.get? other := by
  have differs : (other == name) = false := beq_eq_false_iff_ne.mpr distinct
  obtain ⟨entries⟩ := bindings
  simp only [get?, insert]
  induction entries with
  | nil => simp [distinct]
  | cons entry rest ih =>
    obtain ⟨key, held⟩ := entry
    by_cases replaced : key = name
    · simp [replaced, List.lookup_cons, differs, ih]
    · simp [replaced, List.lookup_cons, ih]

end Bindings

end Rulebook.Script
