import SassBridge.Datum.Basic
import SassBridge.Text.Quoted
import SassBridge.Url.Host

/-!
Failures, by cause. A failure has a kind, which is how hosts tell failures apart, and a text. What the
interpreter and its libraries refuse by themselves has a text that is theirs to word.
-/

namespace SassBridge

/-- The two families of script values: those of the legacy interface and those of the compiler. -/
inductive Side where
  | legacy
  | compiler
  deriving DecidableEq, Repr

/-- The kinds of failure. Each is also of all kinds above it. -/
inductive FailureKind where
  | exception
  | valueError
  | runtimeError
  | lookupError
  | keyError
  | zeroDivisionError
  | typeError
  | attributeError
  | notImplementedError
  | systemExit
  | malformedJson
  | unencodable
  | validation
  | bridge
  | transformation
  | valueConversion
  | importSyntax
  | compilerNotFound
  | base
  | stylesheetSyntax
  | invalidStyle
  | notRendered
  | compilation
  | script
  | customFunction
  deriving DecidableEq, Repr

namespace FailureKind

/-- The name that a kind has in texts and logs. -/
def name : FailureKind → String
  | exception => "Exception"
  | valueError => "ValueError"
  | runtimeError => "RuntimeError"
  | lookupError => "LookupError"
  | keyError => "KeyError"
  | zeroDivisionError => "ZeroDivisionError"
  | typeError => "TypeError"
  | attributeError => "AttributeError"
  | notImplementedError => "NotImplementedError"
  | systemExit => "SystemExit"
  | malformedJson => "JSONDecodeError"
  | unencodable => "UnicodeEncodeError"
  | validation => "ValidationError"
  | bridge => "SasscEmbeddedError"
  | transformation => "TransformationError"
  | valueConversion => "ValueConversionError"
  | importSyntax => "ImportSyntaxError"
  | compilerNotFound => "CompilerNotFoundError"
  | base => "BaseError"
  | stylesheetSyntax => "SassSyntaxError"
  | invalidStyle => "InvalidStyleError"
  | notRendered => "NotRenderedError"
  | compilation => "CompileError"
  | script => "ScriptError"
  | customFunction => "CustomFunctionError"

/-- All kinds. -/
def all : List FailureKind :=
  [exception, valueError, runtimeError, lookupError, keyError, zeroDivisionError, typeError,
    attributeError, notImplementedError, systemExit, malformedJson, unencodable, validation, bridge, transformation,
    valueConversion, importSyntax, compilerNotFound, base, stylesheetSyntax, invalidStyle, notRendered,
    compilation, script, customFunction]

/-- The kinds directly above a kind. -/
def parents : FailureKind → List FailureKind
  | keyError => [lookupError]
  | notImplementedError => [runtimeError]
  | malformedJson | unencodable | validation => [valueError]
  | transformation | compilerNotFound | base => [bridge]
  | valueConversion => [transformation, typeError]
  | importSyntax => [transformation, valueError]
  | stylesheetSyntax | invalidStyle | notRendered => [base]
  | customFunction => [script]
  | exception | systemExit => []
  | _ => [exception]

/-- The kind itself and the kinds up to three steps above it, which are all there are, but for the topmost. -/
def lineage (kind : FailureKind) : List FailureKind :=
  let first := kind.parents
  let second := first.flatMap parents
  kind :: first ++ second ++ second.flatMap parents

def isA (kind above : FailureKind) : Bool :=
  above ∈ kind.lineage

/-- The kind of a name. -/
def ofName? (name : String) : Option FailureKind :=
  all.find? fun kind => kind.name == name

/-- Whether handlers of ordinary failures take it: a request to exit passes them. -/
def isOrdinary (kind : FailureKind) : Bool :=
  kind ≠ systemExit

end FailureKind

/-- What is wrong with a field of options or settings. -/
inductive FieldFault where
  | noText
  | noBool
  | unreadableBool
  | unknownLiteral
  deriving DecidableEq, Repr

/-- The records whose fields are checked. -/
inductive Checked where
  | engineOptions
  | settings
  | request
  deriving DecidableEq, Repr

structure FieldError where
  field : String
  fault : FieldFault
  deriving DecidableEq, Repr

/-- Where in a stylesheet a compiler found an error. Lines count from zero. -/
structure Span where
  line : Int
  url : Option String
  deriving DecidableEq, Repr

/-- What the interpreter or a library refuses by itself. -/
inductive Refusal where
  /-- A value of a type that is of no use where it stands. -/
  | wrongType
  | noAttribute
  /-- A call of what has no implementation. -/
  | abstractCall
  | malformedJson
  /-- Surrogates in a text that is to be encoded. -/
  | unencodable
  /-- A call by name of what cannot be called, or not with so many arguments. -/
  | call (name : String) (given : Nat)
  deriving DecidableEq, Repr

def Refusal.kind : Refusal → FailureKind
  | wrongType | call _ _ => .typeError
  | noAttribute => .attributeError
  | abstractCall => .notImplementedError
  | malformedJson => .malformedJson
  | unencodable => .unencodable

/-- How the interpreter and its libraries word what they refuse. -/
structure Wording where
  refused : Refusal → String
  invalidFields : Checked → List FieldError → String

inductive Failure where
  /-- Raised by a host with a text of its own, and with what it is about. -/
  | raised (kind : FailureKind) (message : Option String) (cause : Option Failure) (data : Datum)
  | refused (refusal : Refusal)
  | unknownKey (key : String)
  | badHost (fault : Url.HostFault)
  | emptyPath
  | colorChannels (side : Side)
  | alphaRange (alpha : Numeral)
  | separator (separator : Option String)
  | unconvertible (typeName : String) (target : Side)
  | unknownExtension (path : String)
  | noCompiler
  | invalidStyle (style : String)
  | notRendered (property : String)
  | invalidFields (checked : Checked) (errors : List FieldError)
  /-- A compiler's own report. -/
  | compilation (message : String) (span : Option Span)
  /-- A stylesheet that does not compile, as the legacy interface reports it. Lines count from one. -/
  | stylesheet (message : String) (filename : Option String) (line : Option Int) (cause : Option Failure)
  | customFunction (function : String) (cause : Failure)
  deriving Repr

instance : Inhabited Failure := ⟨.refused .wrongType⟩

namespace Failure

@[match_pattern] abbrev wrongType : Failure := refused .wrongType

@[match_pattern] abbrev noAttribute : Failure := refused .noAttribute

@[match_pattern] abbrev abstractCall : Failure := refused .abstractCall

@[match_pattern] abbrev malformedJson : Failure := refused .malformedJson

@[match_pattern] abbrev unencodable : Failure := refused .unencodable

/-- The failure of a kind that is raised with a text and nothing else. -/
def ofKind (kind : FailureKind) (text : Option String) : Failure :=
  match kind with
  | .compilation => compilation (text.getD "") none
  | .stylesheetSyntax => stylesheet (text.getD "") none none none
  | .invalidStyle => invalidStyle (text.getD "")
  | .notRendered => notRendered (text.getD "")
  | kind => raised kind text none .null

def kind : Failure → FailureKind
  | raised kind _ _ _ => kind
  | refused refusal => refusal.kind
  | unknownKey _ => .keyError
  | badHost _ | emptyPath | colorChannels _ | alphaRange _ => .valueError
  | separator _ | unconvertible _ _ => .valueConversion
  | unknownExtension _ => .importSyntax
  | noCompiler => .compilerNotFound
  | invalidStyle _ => .invalidStyle
  | notRendered _ => .notRendered
  | invalidFields _ _ => .validation
  | compilation _ _ => .compilation
  | stylesheet _ _ _ _ => .stylesheetSyntax
  | customFunction _ _ => .customFunction

def separatorText : Option String → String
  | some text => Quoted.display text
  | none => "None"

/-- The message that a failure carries. The text of an unknown key is its display form. -/
def message (wording : Wording) : Failure → String
  | raised .keyError (some key) _ _ => Quoted.display key
  | raised _ message _ _ => message.getD ""
  | refused refusal => wording.refused refusal
  | invalidFields checked errors => wording.invalidFields checked errors
  | unknownKey key => Quoted.display key
  | badHost fault => fault.message
  | emptyPath => "no path specified"
  | colorChannels .legacy => "Color needs either red/green/blue or hue/saturation/lightness"
  | colorChannels .compiler => "SassColor needs either red/green/blue or hue/saturation/lightness"
  | alphaRange alpha => "alpha must be between 0 and 1, got " ++ alpha.toText
  | separator found => "Unsupported list separator: " ++ separatorText found
  | unconvertible typeName .compiler => "Cannot convert " ++ typeName ++ " to a protocol value"
  | unconvertible typeName .legacy => "Cannot convert " ++ typeName ++ " to a legacy value"
  | unknownExtension path => "Cannot infer stylesheet syntax from " ++ Quoted.display path
  | noCompiler =>
    "No compiler configured; call set_default_compiler() or install a package providing the " ++
      "'sassc_embedded.compilers' entry point"
  | invalidStyle style => "Invalid output style: " ++ style
  | notRendered property => property ++ " is only available after a successful render"
  | compilation message _ => message
  | stylesheet message _ _ _ => message
  | customFunction function _ => "Error: error in C function " ++ function

/-- The whole text. That of a failed function names the kind and the text of its cause. -/
def text (wording : Wording) : Failure → String
  | customFunction function cause =>
    (customFunction function cause).message wording ++ "\n" ++ cause.kind.name ++ ": " ++ cause.text wording
  | failure => failure.message wording

/-- What a compiler's own report says. -/
def reportText : Failure → String
  | compilation message _ => message
  | raised _ message _ _ => message.getD ""
  | _ => ""

/-- The failure that caused this one. -/
def cause? : Failure → Option Failure
  | raised _ _ cause _ => cause
  | stylesheet _ _ _ cause => cause
  | customFunction _ cause => some cause
  | _ => none

/-- What a failure to map a value is about, as far as that is an option value. -/
def data? : Failure → Option Datum
  | raised kind _ _ data => if kind.isA .transformation then some data else none
  | unknownExtension path => some (.text path)
  | _ => none

/-- The place of a stylesheet error: its file, and the line where one is known. -/
def location? : Failure → Option String
  | stylesheet _ (some filename) (some line) _ => some (filename ++ ":" ++ (Numeral.int line).toText)
  | stylesheet _ (some filename) none _ => some filename
  | _ => none

end Failure

end SassBridge
