import SassBridge.Datum.Display
import SassBridge.Engine.Reference
import SassBridge.Engine.SourceMap
import SassBridge.Engine.Style
import SassBridge.Options.EngineOptions
import SassBridge.Surroundings
import SassBridge.Session

/-!
Engines: a template with its options, and what the renders of it left behind. The options are read once, when
the engine is made; the bag that they came from stays open to functions and importers.
-/

namespace SassBridge

structure Engine (κ ι : Type) where
  template : Datum
  bag : Bag
  options : EngineOptions
  /-- The compiler to use in place of the default one. -/
  compiler? : Option κ
  /-- The importer object that the bag may name. -/
  importer : Held ι
  fileUrl? : Option String
  dependencies? : Option (List String)
  sourceMap? : Option Wide
  rendered : Bool

/-- An engine and the surroundings that it works in. -/
structure World (κ ι : Type) where
  surroundings : Surroundings κ
  engine : Engine κ ι

/-- What the program around an engine supplies. -/
structure Host (κ σ ι : Type) where
  functions : FunctionSet σ
  importer : LegacyImporter ι
  /-- Whether a compiler counts as true. -/
  isTrue : κ → Bool
  compile : κ → Request → Compilation

namespace Engine

variable {κ ι α : Type}

/-- Names that options on top of the others cannot have, because an engine is made from arguments of these
names. -/
def ownNames : List String :=
  ["self", "template", "options"]

/-- A new engine; `more` options are set on top of the others. -/
def ofOptions (template : Datum) (options more : Bag) (compiler? : Option κ) (importer : Held ι) :
    Except Failure (Engine κ ι) := do
  if more.any fun (name, _) => name ∈ ownNames then throw .wrongType
  let bag := options.merge more
  return {
    template := template
    bag := bag
    options := ← EngineOptions.ofBag bag
    compiler? := compiler?
    importer := importer
    fileUrl? := none
    dependencies? := none
    sourceMap? := none
    rendered := false }

/-- The name of the language that the options ask for. -/
def languageName (engine : Engine κ ι) : String :=
  if engine.options.language = "sass" then "indented" else engine.options.language

def style (engine : Engine κ ι) : Except Failure OutputStyle :=
  OutputStyle.ofOption engine.options.style

/-- The files that the last render read. -/
def dependencies (engine : Engine κ ι) : Except Failure (List String) :=
  match engine.rendered, engine.dependencies? with
  | true, some dependencies => .ok dependencies
  | _, _ => .error (.notRendered "dependencies")

/-- The source map of the last render. -/
def sourceMap (engine : Engine κ ι) : Except Failure (Option Wide) :=
  if engine.rendered then .ok engine.sourceMap? else .error (.notRendered "source_map")

/-- The compiler of an engine, if it has one that counts as true. -/
def ownCompiler? (engine : Engine κ ι) (isTrue : κ → Bool) : Option κ :=
  engine.compiler?.filter isTrue

/-- How CSS refers to its source map. -/
def reference (engine : Engine κ ι) : Css.Reference :=
  if engine.options.omitSourceMapUrl then .omitted
  else if engine.options.sourceMapEmbed then .embedded
  else .file (engine.options.sourceMapFile.getD "")

/-- CSS with its end. -/
def finishCss (engine : Engine κ ι) (css : String) : Except Failure String :=
  Css.finish engine.reference engine.sourceMap? css

/-- What a render returns for compiled CSS: nothing where it is quiet, or else the CSS with its end. -/
def output (engine : Engine κ ι) (css : String) : Except Failure (Option String) :=
  if engine.options.quiet then .ok none else (engine.finishCss css).map some

/-- The name of the template's file. -/
def filename (engine : Engine κ ι) : String :=
  match engine.options.filename with
  | none | some "" => "stdin"
  | some filename => filename

end Engine

namespace World

variable {κ ι α : Type}

def onSurroundings (step : Step (Surroundings κ) α) : Step (World κ ι) α :=
  step.onPart World.surroundings fun surroundings world => { world with surroundings := surroundings }

def modifyEngine (change : Engine κ ι → Engine κ ι) : Step (World κ ι) Unit :=
  .modify fun world => { world with engine := change world.engine }

/-- The URL of the template, which stays what it was when it was first asked for. -/
def fileUrl : Step (World κ ι) String := do
  let world ← .get
  match world.engine.fileUrl? with
  | some url => return url
  | none =>
    let url := Url.ofPath .posix world.surroundings.cwd world.engine.filename
    modifyEngine fun engine => { engine with fileUrl? := some url }
    return url

/-- The load paths of the options, followed by those of the surroundings. -/
def loadPaths : Step (World κ ι) (List String) := do
  let world ← .get
  return world.engine.options.loadPaths ++ (← onSurroundings Surroundings.loadPaths)

/-- Writes an option into the bag. The options of the engine stay as they were read. -/
def setOption (name : String) (value : Datum) : Step (World κ ι) Unit :=
  modifyEngine fun engine => { engine with bag := engine.bag.set name value }

/-- A source map made relative to the working directory. -/
def relativizeSourceMap (sourceMap : Datum) : Step (World κ ι) (Option Wide) := do
  let world ← .get
  match sourceMap with
  | .null => return none
  | .text text => return some (← .ofExcept (SourceMap.relativizeText world.surroundings.cwd text))
  | _ => Step.fail .wrongType

end World

end SassBridge
