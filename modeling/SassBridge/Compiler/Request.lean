import SassBridge.Import.Bridge
import SassBridge.Value.Basic

/-! What a compiler is asked to compile, and what it gives back. -/

namespace SassBridge

inductive OutputStyle where
  | expanded
  | compressed
  deriving DecidableEq, Repr

def OutputStyle.name : OutputStyle → String
  | expanded => "expanded"
  | compressed => "compressed"

/-- The importers that a compiler can be given. -/
inductive RegisteredImporter where
  /-- Hands `file:` URLs back. -/
  | file
  /-- Asks the legacy importer. -/
  | legacy
  deriving DecidableEq, Repr

def RegisteredImporter.name : RegisteredImporter → String
  | file => "FileImporter"
  | legacy => "Importer"

structure Request where
  source : String
  language : Language
  url : String
  loadPaths : List String
  style : OutputStyle
  sourceMap : Bool
  includeSources : Bool
  /-- The signatures of the functions that can be called. -/
  functions : List String
  importers : List RegisteredImporter
  alertAscii : Bool
  alertColor : Option Bool
  logger : Datum
  quietDeps : Bool
  verbose : Bool
  deriving Repr

structure CompileResult where
  css : String
  sourceMap : Option String
  loadedUrls : List String
  deriving DecidableEq, Repr

end SassBridge
