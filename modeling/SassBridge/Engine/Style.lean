import SassBridge.Compiler.Request
import SassBridge.Datum.Display

/-!
Output styles of the legacy interface. A style may be written with or without the start that all of them have;
a compiler knows two styles, and nested and compact output each go to one of them.
-/

namespace SassBridge

namespace OutputStyle

/-- The start of legacy style names. -/
def legacyStart : String := "sass_style_"

/-- The legacy styles by their full names. -/
def fullNames : List String :=
  ["sass_style_nested", "sass_style_expanded", "sass_style_compact", "sass_style_compressed"]

/-- The full name of a style; one that has the start anywhere is left alone. -/
def fullName (style : String) : String :=
  if Text.occurs legacyStart.toList style.toList then style else legacyStart ++ style

/-- A style without the start, if that is where it has it. -/
def shortName (style : String) : String :=
  .ofList ((Text.dropStart? legacyStart.toList style.toList).getD style.toList)

/-- The style of a compiler for a legacy style without the start. -/
def ofShortName? : String → Option OutputStyle
  | "nested" | "expanded" => some expanded
  | "compact" | "compressed" => some compressed
  | _ => none

/-- The style that an option asks for. It has to be one of the legacy styles before it is looked up. -/
def ofOption (style : Datum) : Except Failure OutputStyle :=
  let name := fullName style.untaggedText
  if name ∈ fullNames then
    match ofShortName? (shortName name) with
    | some style => .ok style
    | none => .error (.unknownKey (shortName name))
  else .error (.invalidStyle name)

end OutputStyle

end SassBridge
