import SassBridge.Failure
import SassBridge.Receiver

/-!
Legacy importers. An importer is asked for a path and names the stylesheets to import in its place.
-/

namespace SassBridge

/-- A stylesheet that an importer names, with its source if it has that at hand. -/
structure ImportEntry where
  path : String
  source : Option String
  sourceMapPath : Option String
  deriving DecidableEq, Repr

/-- What an importer gives. An element of a sequence that names no stylesheet is `none`. -/
inductive ImportResponse where
  | one (entry : ImportEntry)
  | many (entries : List (Option ImportEntry))
  /-- Neither an entry nor a sequence. -/
  | other
  deriving DecidableEq, Repr

/-- A request to an importer: the path, and the stylesheet that asks as its options tell. -/
structure ImportRequest where
  path : String
  parent : Datum
  deriving Repr

/-- An importer and the state of a new instance. -/
structure LegacyImporter (ι : Type) where
  initial : ι
  /-- Makes an instance of the class for a bag of options, which the class may refuse. -/
  make : Bag → Except Failure (Held ι)
  imports : ImportRequest → Receiver ι → Except Failure ImportResponse × Receiver ι

end SassBridge
