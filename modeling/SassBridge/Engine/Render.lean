import SassBridge.Engine.Basic

/-!
Rendering: a request is made from the options, a compiler works on it with the help of the host, and its
result is kept. The checks come in a fixed order, so that the first thing wrong decides the failure.
-/

namespace SassBridge

namespace SourceMap

/-- The name of the file that a URL of a span stands for. -/
def spanFilename (cwd url : String) : Except Failure String :=
  let fileUrl := (CanonicalUrl.ofWire url).fileUrl
  if Url.isFile fileUrl then relativePath cwd fileUrl else .ok url

end SourceMap

namespace Failure

def span? : Failure → Option Span
  | compilation _ span => span
  | _ => none

/-- The report of a compiler as the legacy interface gives it: lines count from one, and files are named from
the working directory. -/
def ofCompilation (cwd : String) (failure : Failure) : Except Failure Failure := do
  let filename ← match failure.span?.bind Span.url with
    | none => pure none
    | some url => some <$> SourceMap.spanFilename cwd url
  return stylesheet failure.reportText filename (failure.span?.map fun span => span.line + 1) (some failure)

end Failure

/-- The files among loaded URLs, without the template itself. -/
def dependenciesOf (fileUrl : String) (loadedUrls : List String) : Except Failure (List String) :=
  (loadedUrls.filter fun url => Url.isFile url && url != fileUrl).mapM fun url =>
    (Url.toPath .posix url).mapError .badHost

namespace Host

variable {κ σ ι : Type}

/-- The set that is used where none is given. -/
def emptySet (host : Host κ σ ι) : FunctionSet σ :=
  ⟨"Functions", host.functions.initial, [], fun _ _ => none⟩

/-- The function set that an option names. -/
def functionSet (host : Host κ σ ι) : Datum → Except Failure (FunctionSet σ)
  | .host .functionSet => .ok host.functions
  | other => if other.isTrue then .error .wrongType else .ok host.emptySet

/-- Sets up the host's side of a render: first the functions, then the importer. -/
def startSession (host : Host κ σ ι) : Step (World κ ι) (Session σ ι) := do
  let world ← Step.get
  let engine := world.engine
  let set ← .ofExcept (host.functionSet engine.options.functions)
  let functions ← .ofExcept (FunctionSession.start set engine.bag)
  World.onSurroundings (Surroundings.report (.functionsRegistered functions.table.signatures))
  .ofExcept (Session.start world.surroundings.cwd engine.bag functions host.importer engine.importer)

/-- The source of a request, which has to be text. -/
def requestSource (template : Datum) : Validation String :=
  .check Field.text "source" template

/-- The language of a request, which has to be a known one. -/
def requestLanguage (name : String) : Validation Language :=
  match Language.ofName? name with
  | some language => .valid language
  | none => .invalid [⟨"syntax", .unknownLiteral⟩]

/-- The request for an engine's template. -/
def request (engine : Engine κ ι) (loadPaths : List String) (url : String) (style : OutputStyle)
    (session : Session σ ι) : Except Failure Request :=
  let options := engine.options
  let make (source : String) (language : Language) : Request := {
    source := source
    language := language
    url := url
    loadPaths := loadPaths
    style := style
    sourceMap := options.sourceMapFile.isSome
    includeSources := options.sourceMapContents
    functions := session.signatures
    importers := session.importers
    alertAscii := options.alertAscii
    alertColor := options.alertColor
    logger := options.logger
    quietDeps := options.quietDeps
    verbose := options.verbose }
  (make <$> requestSource engine.template <*> requestLanguage engine.languageName).toExcept .request

/-- The compiler of the engine if it has one that counts as true, or else the default one. -/
def chooseCompiler (isTrue : κ → Bool) : Step (World κ ι) κ := do
  match (← Step.get).engine.ownCompiler? isTrue with
  | some compiler => return compiler
  | none => World.onSurroundings Surroundings.defaultCompiler

/-- Keeps what a session changed. -/
def keepSession (session : Session σ ι) : Step (World κ ι) Unit := do
  World.onSurroundings (Surroundings.note session.journal)
  World.modifyEngine fun engine =>
    let outliving := session.importer.filter ImporterSession.outlives
    { engine with bag := session.bag, importer := (outliving.map ImporterSession.held).getD engine.importer }

/-- Has a compiler work on a request. Its report of a stylesheet that does not compile is put into the form of
the legacy interface. -/
def runCompiler (host : Host κ σ ι) (compiler : κ) (request : Request) (session : Session σ ι) :
    Step (World κ ι) CompileResult := do
  World.onSurroundings (Surroundings.note [.compiled request])
  let (outcome, session) := session.drive (host.compile compiler request)
  keepSession session
  match outcome with
  | .ok result => return result
  | .error failure =>
    if failure.kind = .compilation then
      let report ← .ofExcept (failure.ofCompilation (← Step.get).surroundings.cwd)
      if let .stylesheet _ filename line _ := report then
        World.onSurroundings (Surroundings.report (.renderFailed request.url filename line))
      Step.fail report
    else Step.fail failure

/-- Keeps the result of a render. The dependencies are kept before the source map is looked at. -/
def keepResult (url : String) (result : CompileResult) : Step (World κ ι) Unit := do
  let dependencies ← .ofExcept (dependenciesOf url result.loadedUrls)
  World.modifyEngine fun engine => { engine with dependencies? := some dependencies }
  let sourceMap ← World.relativizeSourceMap ((result.sourceMap.map Datum.text).getD .null)
  World.modifyEngine fun engine => { engine with sourceMap? := sourceMap, rendered := true }
  World.onSurroundings (Surroundings.report (.renderCompleted url dependencies.length sourceMap.isSome))

/-- What a render gives back once a result is kept. -/
def giveBack (css : String) : Step (World κ ι) (Option String) := do
  .ofExcept ((← Step.get).engine.output css)

/-- Renders a template that is not empty. -/
def renderTemplate (host : Host κ σ ι) : Step (World κ ι) (Option String) := do
  let loadPaths ← World.loadPaths
  let url ← World.fileUrl
  let style ← .ofExcept (← Step.get).engine.style
  let session ← host.startSession
  let request ← .ofExcept (request (← Step.get).engine loadPaths url style session)
  let compiler ← chooseCompiler host.isTrue
  World.onSurroundings (Surroundings.report (.renderStarted url request.language.name style.name))
  let result ← host.runCompiler compiler request session
  keepResult url result
  giveBack result.css

/-- Renders the template of an engine. An empty one is its own text. -/
def render (host : Host κ σ ι) : Step (World κ ι) (Option String) := do
  let engine := (← Step.get).engine
  if engine.template.isTrue then host.renderTemplate
  else return some engine.template.toText

end Host

end SassBridge
