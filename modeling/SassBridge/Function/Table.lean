import SassBridge.Event
import SassBridge.Function.Call
import SassBridge.Value.Conversion

/-!
The functions of a set as a compiler calls them: by signature, with values of the compiler. A failure of a
function is reported to the compiler as the failure of that function; failures of the conversions are passed
on as they are.
-/

namespace SassBridge

/-- The functions by signature. -/
abbrev FunctionTable := List (String × String)

namespace FunctionTable

/-- The name of the function behind a signature. -/
def find? (table : FunctionTable) (signature : String) : Option String :=
  Assoc.find? (· == ·) signature table

def signatures (table : FunctionTable) : List String :=
  table.map Prod.fst

end FunctionTable

namespace FunctionSet

variable {σ : Type}

/-- The table of all functions of a set, in the order of their names. -/
def table (set : FunctionSet σ) : Except Failure FunctionTable := do
  let rows ← set.names.mapM fun name => do
    return ((← set.signature name).toText, name)
  return Assoc.insertAll (· == ·) [] rows

/-- The answer to a call, the instance after it and what was reported. -/
structure CallOutcome (σ : Type) where
  answer : Except Failure Value
  receiver : Receiver σ
  events : List Event

/-- Calls a function for the compiler. -/
def callback (set : FunctionSet σ) (name : String) (arguments : List Value) (receiver : Receiver σ) :
    CallOutcome σ :=
  match Value.elementsToLegacy arguments with
  | .error failure => ⟨.error failure, receiver, []⟩
  | .ok arguments =>
    match set.invoke name arguments receiver with
    | (.ok result, receiver) => ⟨result.toCompiler, receiver, []⟩
    | (.error failure, receiver) =>
      if failure.kind.isOrdinary then
        ⟨.error (.customFunction name failure), receiver, [.functionFailed name failure]⟩
      else ⟨.error failure, receiver, []⟩

end FunctionSet

end SassBridge
