import SassBridge.Datum.Basic
import SassBridge.Text.Quoted

/-!
Text of option values: plain, where a text is itself, and in display form, where it is quoted. Objects of the
host have no text that could be relied on.
-/

namespace SassBridge.Datum

mutual

def display : Datum → String
  | null => "None"
  | bool true => "True"
  | bool false => "False"
  | number value => value.toText
  | text value => Quoted.display value
  | octets content => Quoted.displayOctets (Utf8.encode content.toList)
  | path value => "PurePosixPath(" ++ Quoted.display value ++ ")"
  | list items => "[" ++ ", ".intercalate (displayItems items) ++ "]"
  | dict entries => "\x7b" ++ ", ".intercalate (displayEntries entries) ++ "\x7d"
  | tagged _ | object | host _ => "<object>"

def displayItems : List Datum → List String
  | [] => []
  | item :: rest => display item :: displayItems rest

def displayEntries : List (String × Datum) → List String
  | [] => []
  | (key, value) :: rest => (Quoted.display key ++ ": " ++ display value) :: displayEntries rest

end

/-- The plain text of a value. -/
def toText : Datum → String
  | text value | path value => value
  | value => value.display

/-- The plain text of an option that may be an object with a `value`. -/
def untaggedText : Datum → String
  | tagged value => value.toText
  | value => value.toText

end SassBridge.Datum
