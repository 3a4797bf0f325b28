import SassBridge.Datum.Display
import SassBridge.Failure

/-! Failures made from named arguments, as a host makes them. -/

namespace SassBridge

/-- The names of arguments that something is made from. -/
structure ArgumentNames where
  required : List String
  optional : List String

namespace ArgumentNames

/-- Whether arguments of these names can be given: all that are required, and none that is unknown. -/
def accepts (names : ArgumentNames) (given : List String) : Bool :=
  names.required.all (· ∈ given) && given.all (· ∈ names.required ++ names.optional)

end ArgumentNames

namespace FailureKind

/-- What a failure of a kind is made from. The kinds that are not the bridge's own have no named arguments. -/
def argumentNames? : FailureKind → Option ArgumentNames
  | bridge | compilerNotFound | base => some ⟨["message"], ["cause"]⟩
  | transformation | valueConversion | importSyntax => some ⟨["message"], ["data", "cause"]⟩
  | stylesheetSyntax => some ⟨["message"], ["filename", "line", "cause"]⟩
  | invalidStyle => some ⟨["style"], []⟩
  | notRendered => some ⟨["attribute"], []⟩
  | compilation => some ⟨["message"], ["span"]⟩
  | script => some ⟨["message"], []⟩
  | customFunction => some ⟨["function_name", "cause"], []⟩
  | _ => none

end FailureKind

namespace Failure

/-- The text of an argument. -/
def argumentText (arguments : Bag) (name : String) : String :=
  ((arguments.get? name).map Datum.toText).getD ""

def optionalText? : Option Datum → Option String
  | none | some .null => none
  | some value => some value.toText

def integer? : Option Datum → Option Int
  | some (.number (.int value)) => some value
  | _ => none

/-- The failure of a kind that is made from arguments and perhaps a cause, if they fit. -/
def ofArguments (kind : FailureKind) (arguments : Bag) (cause : Option Failure) : Except Failure Failure :=
  let given := arguments.map Prod.fst ++ if cause.isSome then ["cause"] else []
  let text := argumentText arguments
  if kind.argumentNames?.any (·.accepts given) then
    match kind, cause with
    | .stylesheetSyntax, cause =>
      .ok (.stylesheet (text "message") (optionalText? (arguments.get? "filename"))
        (integer? (arguments.get? "line")) cause)
    | .invalidStyle, _ => .ok (.invalidStyle (text "style"))
    | .notRendered, _ => .ok (.notRendered (text "attribute"))
    | .compilation, _ => .ok (.compilation (text "message") none)
    | .customFunction, some cause => .ok (.customFunction (text "function_name") cause)
    | kind, cause => .ok (.raised kind (some (text "message")) cause ((arguments.get? "data").getD .null))
  else .error .wrongType

end Failure

end SassBridge
