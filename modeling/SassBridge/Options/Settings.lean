import SassBridge.Options.Validation
import SassBridge.Text.Split

/-!
Settings of the process, read from what is given by name and then from the environment, in which the case of
names does not matter.
-/

namespace SassBridge

/-- Environment variables in the order in which they were first set. -/
abbrev Environment := List (String × String)

namespace Environment

def lower (name : String) : String :=
  .ofList (name.toList.map Char.toLower)

/-- The variable of a name in lower case. Of names that differ in case only, the last counts. -/
def find? (environment : Environment) (name : String) : Option String :=
  (environment.reverse.find? fun (key, _) => lower key == name).map Prod.snd

def set (environment : Environment) (name value : String) : Environment :=
  Assoc.insert (· == ·) name value environment

end Environment

structure Settings where
  sassPath : String
  logLevel : String
  jsonLogs : Bool
  deriving DecidableEq, Repr

namespace Settings

/-- The default load paths: the parts of the path setting that are not empty. -/
def loadPaths (settings : Settings) : List String :=
  ((Text.split ':' settings.sassPath.toList).filter (· ≠ [])).map String.ofList

/-- The first of some names that is given, or else the first that the environment has. -/
def lookUp (environment : Environment) (given : Bag) (names inEnvironment : List String) : Option Datum :=
  (names.findSome? given.get?).or ((inEnvironment.findSome? environment.find?).map Datum.text)

def read (environment : Environment) (given : Bag) : Except Failure Settings :=
  let read {α : Type} (accepts : Field.Check α) (default : α) (name : String)
      (names inEnvironment : List String) : Validation α :=
    Validation.checkGiven accepts default name (lookUp environment given names inEnvironment)
  let settings := Settings.mk
    <$> read Field.text "" "sass_path" ["SASS_PATH", "SASSC_EMBEDDED_SASS_PATH", "sass_path"]
      ["sass_path", "sassc_embedded_sass_path"]
    <*> read Field.text "WARNING" "log_level" ["log_level"] ["sassc_embedded_log_level"]
    <*> read Field.truth false "json_logs" ["json_logs"] ["sassc_embedded_json_logs"]
  settings.toExcept .settings

end Settings

end SassBridge
