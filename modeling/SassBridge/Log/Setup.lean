import SassBridge.Failure
import SassBridge.Log.Line
import SassBridge.Options.Settings
import SassBridge.Text.Lines
import SassBridge.Text.Split

/-!
The logger of the bridge. As long as it is not set up, the program around it decides; warnings and above are
shown as named values. Once it is set up it writes its own lines and passes nothing on. What is logged under
other names still goes to the program around it, but then as dictionaries.
-/

namespace SassBridge.Log

structure Logger where
  /-- The least weight that is let through; zero leaves it to the program around. -/
  level : Nat
  handlers : Nat
  propagates : Bool
  /-- The form of the bridge's own lines. -/
  form : Form
  /-- The form of lines that are logged under other names. -/
  otherForm : Form
  deriving Repr

namespace Logger

/-- A logger that is not set up. -/
def initial : Logger :=
  ⟨0, 0, true, .named, .named⟩

/-- The name of the bridge's logger. -/
def bridgeName : String :=
  "sassc_embedded"

/-- Whether what is logged under a name belongs to the bridge: the name is that of the bridge, or continues it
after a dot. Names are parted at every other dot of a run, the last one first, so that an even number of
dots leads past the bridge. -/
def isOwn (name : String) : Bool :=
  match Text.dropStart? bridgeName.toList name.toList with
  | none => false
  | some rest => rest.isEmpty || (rest.takeWhile (· = '.')).length % 2 == 1

/-- Upper case, as far as it can give ASCII letters. -/
def upper (c : Char) : List Char :=
  if c = 'ı' then ['I']
  else if c = 'ſ' then ['S']
  else if c = 'ﬅ' ∨ c = 'ﬆ' then ['S', 'T']
  else [c.toUpper]

/-- The weight of a level name in any case. An unknown name is a warning; two names stand for something that
is no level. -/
def weight (name : String) : Except Failure Nat :=
  match String.ofList (name.toList.flatMap upper) with
  | "NOTSET" => .ok 0
  | "DEBUG" => .ok 10
  | "INFO" => .ok 20
  | "WARN" | "WARNING" => .ok 30
  | "ERROR" => .ok 40
  | "CRITICAL" | "FATAL" => .ok 50
  | "_STYLES" => .error .wrongType
  | "BASIC_FORMAT" =>
    .error (.raised .valueError (some "Unknown level: '%(levelname)s:%(name)s:%(message)s'") none .null)
  | _ => .ok 30

/-- The level that is asked for, or else the one of the settings. -/
def levelName (settings : Settings) : Datum → Except Failure String
  | .null => .ok settings.logLevel
  | .text name => .ok name
  | .octets _ => .error .wrongType
  | _ => .error .noAttribute

/-- A logger that is set up. What is null comes from the settings. -/
def setUp (settings : Settings) (jsonLogs logLevel : Datum) : Except Failure Logger := do
  let json := if jsonLogs.isNull then settings.jsonLogs else jsonLogs.isTrue
  let level ← weight (← levelName settings logLevel)
  return ⟨level, 1, false, if json then .json else .console, .dictionary⟩

/-- The least weight that is let through in effect under a name. -/
def threshold (logger : Logger) (name : String) : Nat :=
  if isOwn name ∧ logger.level ≠ 0 then logger.level else Level.warning.weight

/-- The form of lines under a name. -/
def formOf (logger : Logger) (name : String) : Form :=
  if isOwn name then logger.form else logger.otherForm

/-- The lines for some records that are logged under a name. A record with line breaks takes several. -/
def lines (logger : Logger) (name : String) (records : List Record) : List String :=
  let shown := records.filter fun record => logger.threshold name ≤ record.level.weight
  shown.flatMap fun record =>
    (Text.lines ((record.line (logger.formOf name)).push '\n').toList).map String.ofList

end Logger

end SassBridge.Log
