import SassBridge.Datum.Display
import SassBridge.Value.Basic

/-!
Display forms of script values. A legacy value is shown as its class and what makes up its equality, a value
of the compiler as its class and its named fields.
-/

namespace SassBridge

namespace Display

/-- A tuple; one of a single part is told from a parenthesis by a comma. -/
def tuple : List String → String
  | [part] => "(" ++ part ++ ",)"
  | parts => "(" ++ ", ".intercalate parts ++ ")"

def textTuple (texts : List String) : String :=
  tuple (texts.map Quoted.display)

def truth (value : Bool) : String :=
  if value then "True" else "False"

/-- A class with named fields. -/
def record (className : String) (fields : List (String × String)) : String :=
  className ++ "(" ++ ", ".intercalate (fields.map fun (name, value) => name ++ "=" ++ value) ++ ")"

end Display

open Display

def Color.legacyDisplay (color : Color) : String :=
  match color.channels with
  | .rgb r g b => "Color" ++ tuple ["'rgba'", r.toText, g.toText, b.toText, color.alpha.toText]
  | .hsl h s l => "Color" ++ tuple ["'hsla'", h.toText, s.toText, l.toText, color.alpha.toText]

def Color.compilerDisplay (color : Color) : String :=
  let names := ["red", "green", "blue", "hue", "saturation", "lightness"]
  let channels := match color.channels with
    | .rgb r g b => [r.toText, g.toText, b.toText, "None", "None", "None"]
    | .hsl h s l => ["None", "None", "None", h.toText, s.toText, l.toText]
  record "SassColor" (names.zip channels ++ [("alpha", color.alpha.toText)])

/-- The display form of an atom; an object of the bare legacy class has none. -/
def Atom.display : Atom → Except Failure String
  | .null .legacy => .ok "None"
  | .null .compiler => .ok "SassNull()"
  | .bool .legacy value => .ok ("Bool" ++ tuple [truth value])
  | .bool .compiler value => .ok (record "SassBoolean" [("value", truth value)])
  | .color .legacy value => .ok value.legacyDisplay
  | .color .compiler value => .ok value.compilerDisplay
  | .number .legacy ⟨value, numerators, denominators⟩ =>
    .ok ("Number" ++ tuple [value.toText, textTuple numerators, textTuple denominators])
  | .number .compiler ⟨value, numerators, denominators⟩ =>
    .ok (record "SassNumber" [("value", value.toText), ("numerator_units", textTuple numerators),
      ("denominator_units", textTuple denominators)])
  | .legacyString text type => .ok ("String" ++ tuple [Quoted.display text, Quoted.display type])
  | .compilerString text quoted =>
    .ok (record "SassString" [("text", Quoted.display text), ("quoted", truth quoted)])
  | .foreign "Value" => .error .abstractCall
  | .foreign typeName => .ok ("<" ++ typeName ++ ">")

namespace Value

mutual

def display : Value → Except Failure String
  | atom value => value.display
  | list .legacy elements separator bracketed => do
    let elements ← displayElements elements
    return "List" ++ tuple [tuple elements, Failure.separatorText separator, bracketed.display]
  | list .compiler elements separator bracketed => do
    let elements ← displayElements elements
    return record "SassList" [("contents", tuple elements),
      ("separator", Failure.separatorText separator), ("bracketed", bracketed.display)]
  | map .legacy entries => do
    let entries ← displayEntries (fun key value => tuple [key, value]) entries
    return "Map" ++ tuple [tuple entries]
  | map .compiler entries => do
    let entries ← displayEntries (fun key value => key ++ ": " ++ value) entries
    return record "SassMap" [("contents", "\x7b" ++ ", ".intercalate entries ++ "\x7d")]

def displayElements : List Value → Except Failure (List String)
  | [] => .ok []
  | value :: rest => do
    let value ← display value
    return value :: (← displayElements rest)

def displayEntries (pair : String → String → String) : List (Value × Value) → Except Failure (List String)
  | [] => .ok []
  | (key, value) :: rest => do
    let key ← display key
    let value ← display value
    return pair key value :: (← displayEntries pair rest)

end

end Value

end SassBridge
