import SassBridge.Datum.Document
import SassBridge.Json.Printer
import SassBridge.Log.Record

/-!
Lines of a log: as named values, as a dictionary in display form, as JSON, or in columns for a console.
-/

namespace SassBridge.Log

/-- The form of lines. -/
inductive Form where
  | named
  | dictionary
  | json
  | console
  deriving DecidableEq, Repr

namespace Record

def shown? (name : String) (entries : List (String × Datum)) : Option Datum :=
  Assoc.find? (· == ·) name entries

/-- The entries whose names are not among the given ones. -/
def without (names : List String) (entries : List (String × Datum)) : List (String × Datum) :=
  entries.filter fun (name, _) => name ∉ names

def namedValue (entry : String × Datum) : String :=
  entry.1 ++ "=" ++ entry.2.display

/-- What a plain line tells of the failure in flight, which there never is: a line of its own says so. -/
def failureTail (record : Record) : String :=
  if record.tellsFailure then "\nNoneType: None" else ""

/-- The event comes first, then the fields and the level. -/
def namedLine (record : Record) : String :=
  let rest := without ["event"] record.entries
  " ".intercalate ((("event", record.event) :: rest).map namedValue) ++ record.failureTail

def dictionaryLine (record : Record) : String :=
  (Datum.dict record.entries).display ++ record.failureTail

/-- The entries without those that a formatted line uses for itself. -/
def shownEntries (record : Record) : List (String × Datum) :=
  without ["_record", "_from_structlog"] record.entries

def jsonLine (record : Record) : String :=
  Json.printAscii (.object (Datum.entriesToJson record.shownEntries))

/-- Fills a column. -/
def pad (width : Nat) (text : String) : String :=
  text ++ String.ofList (List.replicate (width - text.length) ' ')

def bracket (text : String) : String :=
  "[" ++ text ++ "]"

/-- Entries that have columns of their own, in order, and what is put there. -/
def columns : List (String × (Datum → String)) :=
  [("timestamp", Datum.toText), ("level", fun level => bracket (pad 9 level.toText)),
    ("event", fun event => pad 30 event.toText), ("logger", fun logger => bracket logger.toText),
    ("logger_name", fun name => bracket name.toText)]

/-- Characters for which a console shows a text in display form. -/
def needsQuotes (c : Char) : Bool :=
  c ∈ [' ', '\t', '=', '\r', '\n', '"', '\'']

def consoleValue : Datum → String
  | .text value => if value.toList.any needsQuotes then Quoted.display value else value
  | value => value.display

/-- The text without blanks at its end. -/
def trimBlanks (text : String) : String :=
  .ofList (text.toList.reverse.dropWhile (· = ' ')).reverse

/-- An entry that is shown below the columns, if it is there and not null. -/
def below? (name : String) (entries : List (String × Datum)) : Option String :=
  match shown? name entries with
  | none | some .null => none
  | some value => some value.toText

/-- A line between the two entries that are shown below the columns. -/
def ruler : String :=
  String.ofList (List.replicate 79 '=')

/-- The stack and the exception, each on lines of its own. -/
def consoleTail (entries : List (String × Datum)) : String :=
  match below? "stack" entries, below? "exception" entries with
  | none, none => ""
  | some stack, none => "\n" ++ stack
  | none, some failure => "\n" ++ failure
  | some stack, some failure => "\n" ++ stack ++ "\n\n" ++ ruler ++ "\n" ++ "\n" ++ failure

/-- Some entries in columns, the others in order of their names, and the stack and the exception below. -/
def consoleLine (record : Record) : String :=
  let entries := record.shownEntries
  let front := columns.filterMap fun (name, text) => (shown? name entries).map text
  let others := without ("stack" :: "exception" :: columns.map Prod.fst) entries
  let sorted := others.mergeSort fun a b => decide (a.1 ≤ b.1)
  let pieces := front ++ sorted.map fun (name, value) => name ++ "=" ++ consoleValue value
  trimBlanks (" ".intercalate (pieces.filter (· ≠ ""))) ++ consoleTail entries

def line (form : Form) (record : Record) : String :=
  match form with
  | .named => record.namedLine
  | .dictionary => record.dictionaryLine
  | .json => record.jsonLine
  | .console => record.consoleLine

end Record

end SassBridge.Log
