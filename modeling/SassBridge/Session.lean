import SassBridge.Function.Table
import SassBridge.Journal
import SassBridge.Step

/-!
The host's side of one compilation: the functions and the importer that a compiler can reach, the bag of
options that they share, and how queries are answered.
-/

namespace SassBridge

/-- A function set in use. -/
structure FunctionSession (σ : Type) where
  set : FunctionSet σ
  table : FunctionTable
  held : Held σ

/-- An importer in use. -/
structure ImporterSession (ι : Type) where
  importer : LegacyImporter ι
  cache : Cache
  held : Held ι
  /-- Whether the object is the caller's and is there after the render. -/
  outlives : Bool

structure Session (σ ι : Type) where
  cwd : String
  bag : Bag
  functions : FunctionSession σ
  importer : Option (ImporterSession ι)
  journal : Journal

namespace FunctionSession

variable {σ : Type}

/-- An instance of a set for a bag of options, which the instance shares if it keeps any. -/
def start (set : FunctionSet σ) (bag : Bag) : Except Failure (FunctionSession σ) := do
  let receiver ← set.instantiate bag
  let options := if receiver.options.isSome then OptionsHolder.shared else .missing
  return ⟨set, ← set.table, ⟨receiver.state, options⟩⟩

end FunctionSession

namespace ImporterSession

variable {ι : Type}

/-- The importer that a bag of options names, if it names one. A class gives a new instance for the bag, if one can
be made; an instance comes with options of its own; whatever else was put there keeps no options. -/
def start (importer : LegacyImporter ι) (existing : Held ι) (bag : Bag) :
    Except Failure (Option (ImporterSession ι)) :=
  match bag.get? "importer" with
  | none | some .null => .ok none
  | some (.host .importerClass) => do return some ⟨importer, [], ← importer.make bag, false⟩
  | some (.host .importer) => .ok (some ⟨importer, [], existing, true⟩)
  | some _ => .ok (some ⟨importer, [], ⟨importer.initial, .missing⟩, false⟩)

end ImporterSession

namespace Session

variable {σ ι : Type}

/-- A session with a function set in use, and with the importer that the bag names. -/
def start (cwd : String) (bag : Bag) (functions : FunctionSession σ) (importer : LegacyImporter ι)
    (existing : Held ι) : Except Failure (Session σ ι) := do
  return {
    cwd := cwd
    bag := bag
    functions := functions
    importer := ← ImporterSession.start importer existing bag
    journal := [] }

def importers (session : Session σ ι) : List RegisteredImporter :=
  .file :: (if session.importer.isSome then [.legacy] else [])

/-- The signatures of the functions that can be called. -/
def signatures (session : Session σ ι) : List String :=
  session.functions.table.signatures

def setOption (session : Session σ ι) (name : String) (value : Datum) : Session σ ι :=
  { session with bag := session.bag.set name value }

def note (session : Session σ ι) (entries : Journal) : Session σ ι :=
  { session with journal := session.journal ++ entries }

/-- Calls a function by its signature. -/
def call (session : Session σ ι) (signature : String) (arguments : List Value) :
    Except Failure Reply × Session σ ι :=
  let functions := session.functions
  match functions.table.find? signature with
  | none => (.error (.unknownKey signature), session)
  | some name =>
    let outcome := functions.set.callback name arguments (functions.held.receiver session.bag)
    let (held, bag) := functions.held.update session.bag outcome.receiver
    let session := { session with functions := { functions with held := held }, bag := bag }
    (outcome.answer.map Reply.value, session.note (outcome.events.map .reported))

/-- Asks the legacy importer for a canonical URL. -/
def canonicalize (session : Session σ ι) (url : Option String) : Except Failure Reply × Session σ ι :=
  match session.importer, url with
  | none, _ => (.ok .nobody, session)
  | some _, none => (.ok (.url none), session)
  | some importer, some url =>
    let outcome := importer.importer.canonicalize session.cwd url importer.cache
      (importer.held.receiver session.bag)
    let (held, bag) := importer.held.update session.bag outcome.receiver
    let session :=
      { session with importer := some { importer with cache := outcome.cache, held := held }, bag := bag }
    (outcome.answer.map Reply.url, session.note
      (outcome.asked.toList.map .asked ++ outcome.event.toList.map .reported))

/-- Asks the legacy importer for the stylesheet of a canonical URL. -/
def load (session : Session σ ι) (url : Option String) : Except Failure Reply :=
  match session.importer, url with
  | none, _ => .ok .nobody
  | some _, none => .error .noAttribute
  | some importer, some url => .ok (.sheet (importer.cache.load url))

/-- Asks which file a URL names. -/
def find (url : Option String) : Except Failure Reply :=
  match url with
  | none => .error .noAttribute
  | some url => .ok (.url (findFileUrl url))

/-- Answers a query. -/
def answer (session : Session σ ι) : Query → Except Failure Reply × Session σ ι
  | .call signature arguments => session.call signature arguments
  | .canonicalize url => session.canonicalize url
  | .load url => (session.load url, session)
  | .find url => (find url, session)

/-- Runs a compilation to its end. -/
def drive (session : Session σ ι) : Compilation → Except Failure CompileResult × Session σ ι
  | .done outcome => (outcome, session)
  | .ask query next =>
    let (reply, session) := session.answer query
    (session.note [.answered query reply]).drive (next reply)

end Session

end SassBridge
