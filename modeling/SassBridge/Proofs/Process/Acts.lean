import Mathlib.Data.List.DropRight
import SassBridge.Engine.Render
import SassBridge.Proofs.Step

/-! What a program does with the bridge, one act after the other, and what each act meets. -/

namespace SassBridge

variable {κ σ ι : Type}

/-- What concerns the whole process. A render comes with its host and with its engine as it is by then, so that renders
of one engine are among them. -/
inductive Act (κ σ ι : Type) where
  | changeEnvironment (change : Environment → Environment)
  | readSettings
  | setUpLogging (jsonLogs logLevel : Datum)
  | readLoadPaths
  /-- Appends to the list that the load paths are. -/
  | appendLoadPath (path : String)
  | resetLoadPaths
  | setCompiler (compiler : Option κ)
  | changeEntryPoints (entryPoints : List (EntryPoint κ))
  | getCompiler
  | render (host : Host κ σ ι) (engine : Engine κ ι)

/-- An act, and the surroundings that it meets. -/
structure Moment (κ σ ι : Type) where
  surroundings : Surroundings κ
  act : Act κ σ ι

namespace Surroundings

/-- The surroundings after an act, be it that it fails or not. -/
def after (surroundings : Surroundings κ) : Act κ σ ι → Surroundings κ
  | .changeEnvironment change => { surroundings with environment := change surroundings.environment }
  | .readSettings => (settings.run surroundings).2
  | .setUpLogging jsonLogs logLevel => ((setUpLogging jsonLogs logLevel).run surroundings).2
  | .readLoadPaths => (loadPaths.run surroundings).2
  | .appendLoadPath path => ((appendLoadPath path).run surroundings).2
  | .resetLoadPaths => (resetLoadPaths.run surroundings).2
  | .setCompiler compiler => { surroundings with registry := surroundings.registry.set compiler }
  | .changeEntryPoints entryPoints =>
    { surroundings with registry := { surroundings.registry with entryPoints := entryPoints } }
  | .getCompiler => (defaultCompiler.run surroundings).2
  | .render host engine => (host.render.run ⟨surroundings, engine⟩).2.surroundings

def afterAll (surroundings : Surroundings κ) (acts : List (Act κ σ ι)) : Surroundings κ :=
  acts.foldl after surroundings

/-- The moments of some acts. -/
def moments (surroundings : Surroundings κ) : List (Act κ σ ι) → List (Moment κ σ ι)
  | [] => []
  | act :: acts => ⟨surroundings, act⟩ :: moments (surroundings.after act) acts

/-- To set a variable is one change of the environment. -/
example (surroundings : Surroundings κ) (name value : String) :
    surroundings.after (.changeEnvironment (·.set name value) : Act κ σ ι) =
      ((setVariable name value).run surroundings).2 := rfl

/-- To set up a logger is to ask for the settings. -/
theorem after_setUpLogging (surroundings : Surroundings κ) (jsonLogs logLevel : Datum) :
    surroundings.after (.setUpLogging jsonLogs logLevel : Act κ σ ι) = surroundings.after (.readSettings : Act κ σ ι) :=
  Step.Keeps.view_run_bind id fun _ _ _ => rfl

theorem afterAll_concat (surroundings : Surroundings κ) (acts : List (Act κ σ ι)) (act : Act κ σ ι) :
    surroundings.afterAll (acts ++ [act]) = (surroundings.afterAll acts).after act := by
  rw [afterAll, List.foldl_concat]
  rfl

theorem moments_concat (surroundings : Surroundings κ) (acts : List (Act κ σ ι)) (act : Act κ σ ι) :
    surroundings.moments (acts ++ [act]) = surroundings.moments acts ++ [⟨surroundings.afterAll acts, act⟩] := by
  induction acts generalizing surroundings with
  | nil => rfl
  | cons first acts ih => exact congrArg _ (ih (surroundings.after first))

end Surroundings

namespace Moment

/-- The moments after the last act that starts anew. -/
def since (startsAnew : Act κ σ ι → Bool) (history : List (Moment κ σ ι)) : List (Moment κ σ ι) :=
  history.rtakeWhile fun moment => !startsAnew moment.act

variable {startsAnew : Act κ σ ι → Bool} {moment : Moment κ σ ι}

theorem since_concat_of_anew (hanew : startsAnew moment.act = true) (history : List (Moment κ σ ι)) :
    since startsAnew (history ++ [moment]) = [] :=
  List.rtakeWhile_concat_neg _ _ _ (by rw [hanew]; decide)

theorem since_concat (hanew : startsAnew moment.act = false) (history : List (Moment κ σ ι)) :
    since startsAnew (history ++ [moment]) = since startsAnew history ++ [moment] :=
  List.rtakeWhile_concat_pos _ _ _ (by rw [hanew]; decide)

end Moment

end SassBridge
