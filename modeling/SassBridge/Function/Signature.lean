import SassBridge.Function.Inherited
import SassBridge.Function.Set

/-!
Signatures, as a compiler is told of functions: `name($first, $second: null, $others...)`. An optional
parameter is written with the default `null` whatever its default is.
-/

namespace SassBridge

/-- A parameter as it is announced. -/
inductive Announced where
  | required (name : String)
  | optional (name : String)
  | rest (name : String)
  deriving DecidableEq, Repr

structure Signature where
  function : String
  parameters : List Announced
  deriving DecidableEq, Repr

namespace Announced

def toText : Announced → String
  | required name => "$" ++ name
  | optional name => "$" ++ name ++ ": null"
  | rest name => "$" ++ name ++ "..."

end Announced

namespace Parameter

/-- How a parameter is announced. Left-over keywords are not. -/
def announced? : Parameter → Option Announced
  | positional name none | keywordOnly name none => some (.required name)
  | positional name (some _) | keywordOnly name (some _) => some (.optional name)
  | rest name => some (.rest name)
  | keywordRest _ => none

end Parameter

namespace Signature

def toText (signature : Signature) : String :=
  signature.function ++ "(" ++ ", ".intercalate (signature.parameters.map Announced.toText) ++ ")"

/-- The signature of a function with the given parameters. -/
def ofParameters (function : String) (parameters : List Parameter) : Signature :=
  ⟨function, parameters.filterMap Parameter.announced?⟩

end Signature

namespace Member

variable {σ : Type}

/-- The parameters that are announced. The first parameter counts as the one for the object, also where there is
none: a static method and a class method lose a parameter of their own. -/
def announcedParameters? : Member σ → Option (List Parameter)
  | method parameters _ | static parameters _ | classMethod parameters _ => some (parameters.drop 1)
  | property _ | constant => none

end Member

namespace FunctionSet

variable {σ : Type}

/-- The signature of a member that the set does not define. -/
def inheritedSignature (name : String) : Except Failure Signature :=
  if name = Inherited.classProperty then
    .error (.raised .valueError (some "no signature found for builtin type <class 'type'>") none .null)
  else
    match Inherited.findInSet? name with
    | some (.function parameters _) => .ok (.ofParameters name parameters)
    | some .plain => .error .wrongType
    | none => .error .noAttribute

/-- The signature of a member; what cannot be called has none. -/
def signature (set : FunctionSet σ) (name : String) : Except Failure Signature :=
  match set.nearest? name with
  | some definition =>
    match definition.announcedParameters? with
    | some parameters => .ok (.ofParameters name parameters)
    | none => .error .wrongType
  | none => inheritedSignature name

end FunctionSet

end SassBridge
