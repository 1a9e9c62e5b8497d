import Rulebook.Numeric.Arithmetic
import Rulebook.Numeric.Whole
import Rulebook.Script.Error

/-! The functions that expressions can call, each under its own name or behind
`math.`. -/
namespace Rulebook.Script
open Rulebook.Numeric

inductive Function where
  | abs
  | floor
  | ceil
  | sqrt
  | min
  | max
  | clamp
deriving DecidableEq

namespace Function

/-- The function of a name without its `math.`. -/
def ofLocalName? (name : String) : Option Function :=
  match name with
  | "abs" => some abs
  | "floor" => some floor
  | "ceil" => some ceil
  | "sqrt" => some sqrt
  | "min" => some min
  | "max" => some max
  | "clamp" => some clamp
  | _ => none

/-- The function of a name; one leading `math.` is passed over. -/
def ofName? (name : String) : Option Function :=
  match name.toList with
  | 'm' :: 'a' :: 't' :: 'h' :: '.' :: rest => ofLocalName? (String.ofList rest)
  | _ => ofLocalName? name

end Function

/-- The number a value is, as some use of it asks. -/
def Datum.asNumber (purpose : Purpose) : Datum → Except EvalError Double
  | .number value => .ok value
  | other => .error (.typeMismatch purpose other.typeTag)

namespace Function

/-- A function of one number. -/
def ofOne (name : String) (rule : Double → Double) :
    List Datum → Except EvalError Datum
  | [argument] => (argument.asNumber .mathFunction).map fun value => .number (rule value)
  | arguments => .error (.arity name (.exactly 1) arguments.length)

/-- Combines the numbers from the left. -/
def combine (rule : Double → Double → Double) (first : Double) :
    List Datum → Except EvalError Datum
  | [] => .ok (.number first)
  | argument :: rest =>
    match argument.asNumber .mathFunction with
    | .ok value => combine rule (rule first value) rest
    | .error error => .error error

/-- A function of one or more numbers. -/
def ofMany (name : String) (rule : Double → Double → Double) :
    List Datum → Except EvalError Datum
  | [] => .error (.arity name (.atLeast 1) 0)
  | first :: rest =>
    match first.asNumber .mathFunction with
    | .ok value => combine rule value rest
    | .error error => .error error

/-- Applies a function that was called by a given name. -/
def apply (name : String) (arguments : List Datum) : Function → Except EvalError Datum
  | abs => ofOne name Binary.abs arguments
  | floor => ofOne name (Binary.makeWhole floorQuotient) arguments
  | ceil => ofOne name (Binary.makeWhole ceilQuotient) arguments
  | sqrt => ofOne name Binary.sqrt arguments
  | min => ofMany name Binary.min arguments
  | max => ofMany name Binary.max arguments
  | clamp =>
    match arguments with
    | [value, low, high] => do
      let value ← value.asNumber .clamp
      let low ← low.asNumber .clamp
      let high ← high.asNumber .clamp
      return .number ((value.max low).min high)
    | _ => .error (.arity name (.exactly 3) arguments.length)

end Function

/-- Calls a function by name. -/
def callFunction (name : String) (arguments : List Datum) : Except EvalError Datum :=
  match Function.ofName? name with
  | some function => function.apply name arguments
  | none => .error (.unknownFunction name)

end Rulebook.Script
