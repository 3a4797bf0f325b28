import SassBridge.Failure
import SassBridge.Text.Base64
import SassBridge.Text.Percent
import SassBridge.Text.Split
import SassBridge.Text.Utf8
import SassBridge.Text.Wide

/-!
The end of compiled CSS: a line break after a closing brace, and a comment that refers to the source map,
either by the name of its file or by holding it.
-/

namespace SassBridge.Css

/-- Ends CSS that ends in a brace with a line break. -/
def close (css : String) : String :=
  if css.toList.getLast? = some '\x7d' then css ++ "\n" else css

/-- The octets of a source map. Surrogates have none. -/
def octets (sourceMap : Wide) : Except Failure (List UInt8) :=
  match sourceMap.toChars? with
  | some text => .ok (Utf8.encode text)
  | none => .error .unencodable

/-- The URL that holds a source map of these octets. -/
def embedded (octets : List UInt8) : String :=
  "data:application/json;base64," ++ String.ofList (Base64.encode octets)

/-- The comment that refers to a URL. -/
def comment (url : String) : String :=
  "\n/*# sourceMappingURL=" ++ url ++ " */"

/-- How a source map is referred to. -/
inductive Reference where
  | omitted
  | embedded
  /-- By the name of its file, which is empty where there is none. -/
  | file (name : String)
  deriving DecidableEq, Repr

/-- CSS with its end, for the source map that goes with it if there is one. -/
def finish (reference : Reference) (sourceMap : Option Wide) (css : String) : Except Failure String :=
  match sourceMap, reference with
  | none, _ | some _, .omitted => .ok (close css)
  | some sourceMap, .embedded => do return close css ++ comment (embedded (← octets sourceMap))
  | some _, .file name => .ok (close css ++ comment (Percent.escapeUri name))

end SassBridge.Css
