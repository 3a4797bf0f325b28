import SassBridge.Compiler.Registry
import SassBridge.Journal
import SassBridge.Log.Setup
import SassBridge.Step

/-!
What lives as long as the process: the working directory, the environment, the settings once they were read,
the default load paths, the default compiler and the journal.
-/

namespace SassBridge

structure Surroundings (κ : Type) where
  cwd : String
  environment : Environment
  settings? : Option Settings
  loadPaths? : Option (List String)
  registry : Registry κ
  journal : Journal

namespace Surroundings

variable {κ : Type}

/-- Surroundings in which nothing was done yet. -/
def start (cwd : String) (environment : Environment) (registry : Registry κ) : Surroundings κ :=
  ⟨cwd, environment, none, none, registry, []⟩

def note (entries : Journal) : Step (Surroundings κ) Unit :=
  .modify fun surroundings => { surroundings with journal := surroundings.journal ++ entries }

def report (event : Event) : Step (Surroundings κ) Unit :=
  note [.reported event]

/-- The settings, which are read from the environment the first time that succeeds. -/
def settings : Step (Surroundings κ) Settings := do
  let surroundings ← .get
  match surroundings.settings? with
  | some settings => return settings
  | none =>
    let settings ← .ofExcept (Settings.read surroundings.environment [])
    Step.modify fun surroundings => { surroundings with settings? := some settings }
    return settings

/-- A logger that is set up. What is null comes from the settings, which are read in any case. -/
def setUpLogging (jsonLogs logLevel : Datum) : Step (Surroundings κ) Log.Logger := do
  .ofExcept (Log.Logger.setUp (← settings) jsonLogs logLevel)

/-- The default load paths, which start as those of the settings. -/
def loadPaths : Step (Surroundings κ) (List String) := do
  let surroundings ← .get
  match surroundings.loadPaths? with
  | some paths => return paths
  | none =>
    let paths := (← settings).loadPaths
    Step.modify fun surroundings => { surroundings with loadPaths? := some paths }
    return paths

def setLoadPaths (paths : List String) : Step (Surroundings κ) Unit :=
  .modify fun surroundings => { surroundings with loadPaths? := some paths }

def appendLoadPath (path : String) : Step (Surroundings κ) Unit := do
  setLoadPaths ((← loadPaths) ++ [path])

def clearLoadPaths : Step (Surroundings κ) Unit := do
  let _ ← loadPaths
  setLoadPaths []

/-- Forgets the settings and the default load paths. -/
def resetLoadPaths : Step (Surroundings κ) Unit :=
  .modify fun surroundings => { surroundings with settings? := none, loadPaths? := none }

def setVariable (name value : String) : Step (Surroundings κ) Unit :=
  .modify fun surroundings => { surroundings with environment := surroundings.environment.set name value }

def changeDirectory (cwd : String) : Step (Surroundings κ) Unit :=
  .modify fun surroundings => { surroundings with cwd := cwd }

/-- The default compiler. -/
def defaultCompiler : Step (Surroundings κ) κ := do
  let surroundings ← .get
  let (compiler, registry, events) := surroundings.registry.get
  Step.modify fun surroundings => { surroundings with registry := registry }
  note (events.map JournalEntry.reported)
  .ofExcept compiler

end Surroundings

end SassBridge
