import SassBridge.Proofs.Compiler.Registry
import SassBridge.Proofs.Step
import SassBridge.Surroundings

/-! What the steps on the surroundings come to: the settings and the load paths as they are cached or else read from the
environment, and the default compiler as the registry gives it. -/

namespace SassBridge

variable {κ : Type}

/-- What a render depends on in its surroundings: the working directory, and what load paths and default compiler come
to if they are asked for. -/
structure Outlook (κ : Type) where
  cwd : String
  loadPaths : Except Failure (List String)
  compiler : Except Failure κ

namespace Surroundings

def outlook (surroundings : Surroundings κ) : Outlook κ where
  cwd := surroundings.cwd
  loadPaths := (loadPaths.run surroundings).1
  compiler := (defaultCompiler.run surroundings).1

/-- What the settings are if they are asked for now. -/
def settingsNow (surroundings : Surroundings κ) : Except Failure Settings :=
  match surroundings.settings? with
  | some settings => .ok settings
  | none => Settings.read surroundings.environment []

/-- What the load paths are if they are asked for now. -/
def loadPathsNow (surroundings : Surroundings κ) : Except Failure (List String) :=
  match surroundings.loadPaths? with
  | some paths => .ok paths
  | none => surroundings.settingsNow.map Settings.loadPaths

theorem settings_run (surroundings : Surroundings κ) :
    settings.run surroundings =
      (surroundings.settingsNow, { surroundings with settings? := surroundings.settingsNow.toOption }) := by
  obtain ⟨cwd, environment, settings?, loadPaths?, registry, journal⟩ := surroundings
  cases settings? with
  | some known => rfl
  | none =>
      rw [settings, Step.run_get_bind, settingsNow]
      cases hread : Settings.read environment [] with
      | ok read => rfl
      | error failure => rfl

theorem loadPaths_run (surroundings : Surroundings κ) :
    loadPaths.run surroundings =
      (surroundings.loadPathsNow, { surroundings with
        settings? :=
          if surroundings.loadPaths?.isSome then surroundings.settings? else surroundings.settingsNow.toOption
        loadPaths? := surroundings.loadPathsNow.toOption }) := by
  obtain ⟨cwd, environment, settings?, loadPaths?, registry, journal⟩ := surroundings
  cases loadPaths? with
  | some paths => rfl
  | none =>
      have hsettings := settings_run ⟨cwd, environment, settings?, none, registry, journal⟩
      rw [loadPaths, Step.run_get_bind, loadPathsNow]
      cases hread : settingsNow ⟨cwd, environment, settings?, none, registry, journal⟩ with
      | ok read =>
          rw [hread] at hsettings
          exact Step.run_bind_of_ok hsettings _
      | error failure =>
          rw [hread] at hsettings
          exact Step.run_bind_of_error hsettings _

/-- To append a path is to ask for the load paths first. -/
theorem appendLoadPath_run (surroundings : Surroundings κ) (path : String) :
    (appendLoadPath path).run surroundings =
      (surroundings.loadPathsNow.map fun _ => (), { (loadPaths.run surroundings).2 with
        loadPaths? := (surroundings.loadPathsNow.map (· ++ [path])).toOption }) := by
  have hrun := loadPaths_run surroundings
  cases hnow : surroundings.loadPathsNow with
  | ok paths =>
      rw [hnow] at hrun
      refine (Step.run_bind_of_ok hrun _).trans ?_
      rw [hrun]
      rfl
  | error failure =>
      rw [hnow] at hrun
      refine (Step.run_bind_of_error hrun _).trans ?_
      rw [hrun]
      rfl

theorem defaultCompiler_run (surroundings : Surroundings κ) :
    defaultCompiler.run surroundings =
      (surroundings.registry.get.1, { surroundings with
        registry := surroundings.registry.get.2.1
        journal := surroundings.journal ++ surroundings.registry.get.2.2.map .reported }) := rfl

theorem outlook_eq (surroundings : Surroundings κ) :
    surroundings.outlook = ⟨surroundings.cwd, surroundings.loadPathsNow, surroundings.registry.get.1⟩ := by
  rw [outlook, loadPaths_run]
  rfl

/-- Load paths that were asked for stay what they were, and so do those that could not be read. -/
theorem loadPathsNow_loadPaths (surroundings : Surroundings κ) :
    (loadPaths.run surroundings).2.loadPathsNow = surroundings.loadPathsNow := by
  obtain ⟨cwd, environment, settings?, loadPaths?, registry, journal⟩ := surroundings
  rw [loadPaths_run]
  cases loadPaths? with
  | some paths => rfl
  | none =>
      cases settings? with
      | some settings => rfl
      | none =>
          cases hread : Settings.read environment [] <;>
            simp [loadPathsNow, settingsNow, hread, Except.map, Except.toOption]

theorem outlook_loadPaths (surroundings : Surroundings κ) :
    (loadPaths.run surroundings).2.outlook = surroundings.outlook := by
  rw [outlook_eq, outlook_eq, loadPathsNow_loadPaths, loadPaths_run]

theorem outlook_defaultCompiler (surroundings : Surroundings κ) :
    (defaultCompiler.run surroundings).2.outlook = surroundings.outlook := by
  rw [outlook_eq, outlook_eq, defaultCompiler_run, Registry.get_get]
  rfl

end Surroundings

end SassBridge
