import SassBridge.Options.Validation

/-!
The options that an engine knows, read once from a bag. Names that it does not know are kept.
-/

namespace SassBridge

structure EngineOptions where
  filename : Option String
  language : String
  style : Datum
  loadPaths : List String
  sourceMapFile : Option String
  sourceMapContents : Bool
  sourceMapEmbed : Bool
  omitSourceMapUrl : Bool
  functions : Datum
  importer : Datum
  alertAscii : Bool
  alertColor : Option Bool
  logger : Datum
  quietDeps : Bool
  verbose : Bool
  quiet : Bool
  extra : Bag
  deriving Repr

namespace EngineOptions

/-- The names of the fields. -/
def fieldNames : List String :=
  ["filename", "syntax", "style", "load_paths", "source_map_file", "source_map_contents",
    "source_map_embed", "omit_source_map_url", "functions", "importer", "alert_ascii", "alert_color",
    "logger", "quiet_deps", "verbose", "quiet"]

/-- The default language, which null stands for too. -/
def defaultLanguage : String := "scss"

/-- The text of whatever is given as the language. -/
def languageText : Field.Check String
  | .null => .ok defaultLanguage
  | value => .ok value.untaggedText

/-- A load path: what names a file, octets included. -/
def loadPath : Datum → Except Failure String
  | .text value | .path value | .octets value => .ok value
  | _ => .error .wrongType

/-- Load paths are taken from whatever can be gone through: a list, a text by characters, a dictionary by
keys. Octets give numbers, which are no paths. -/
def readLoadPaths : Datum → Except Failure (List String)
  | .null => .ok []
  | .list items => items.mapM loadPath
  | .text value => .ok (value.toList.map String.singleton)
  | .dict entries => .ok (entries.map Prod.fst)
  | .octets "" => .ok []
  | _ => .error .wrongType

/-- Reads a bag, with the load paths read already. -/
def validate (bag : Bag) (loadPaths : List String) : Validation EngineOptions :=
  let read {α : Type} (accepts : Field.Check α) (default : α) (name : String) : Validation α :=
    Validation.checkGiven accepts default name (bag.get? name)
  EngineOptions.mk
    <$> read (Field.optional Field.file) none "filename"
    <*> read languageText defaultLanguage "syntax"
    <*> read Field.any (.text "sass_style_nested") "style"
    <*> .valid loadPaths
    <*> read (Field.optional Field.file) none "source_map_file"
    <*> read Field.truth false "source_map_contents"
    <*> read Field.truth false "source_map_embed"
    <*> read Field.truth false "omit_source_map_url"
    <*> read Field.any .null "functions"
    <*> read Field.any .null "importer"
    <*> read Field.truth false "alert_ascii"
    <*> read (Field.optional Field.truth) none "alert_color"
    <*> read Field.any .null "logger"
    <*> read Field.truth false "quiet_deps"
    <*> read Field.truth false "verbose"
    <*> read Field.truth false "quiet"
    <*> .valid (bag.filter fun (name, _) => name ∉ fieldNames)

/-- The options in a bag. Load paths of a wrong type fail before any field is reported. -/
def ofBag (bag : Bag) : Except Failure EngineOptions := do
  let loadPaths ← readLoadPaths ((bag.get? "load_paths").getD .null)
  (validate bag loadPaths).toExcept .engineOptions

end EngineOptions

end SassBridge
