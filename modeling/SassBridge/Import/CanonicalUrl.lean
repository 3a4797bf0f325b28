import SassBridge.Text.Split

/-!
Canonical URLs of imports. A real one names a stylesheet; a synthetic one names the list of imports that
answers a request for that stylesheet, and is told apart by its scheme.
-/

namespace SassBridge

inductive CanonicalUrl where
  | real (fileUrl : String)
  | synthetic (fileUrl : String)
  deriving DecidableEq, Repr

namespace CanonicalUrl

/-- The start of synthetic URLs. -/
def scheme : String := "sass-importer-shim:"

def fileUrl : CanonicalUrl → String
  | real url | synthetic url => url

/-- The URL as a compiler sees it. -/
def wire : CanonicalUrl → String
  | real url => url
  | synthetic url => scheme ++ url

/-- Reads a URL that a compiler gives back. -/
def ofWire (url : String) : CanonicalUrl :=
  match Text.dropStart? scheme.toList url.toList with
  | some rest => synthetic (.ofList rest)
  | none => real url

end CanonicalUrl

end SassBridge
