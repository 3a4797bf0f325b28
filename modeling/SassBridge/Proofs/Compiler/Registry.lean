import SassBridge.Compiler.Registry
import SassBridge.Proofs.Journal

/-! The registry of compilers. A search among entry points goes through them in order; what it finds is kept, and what
is kept is given without a search. -/

namespace SassBridge

variable {κ : Type}

/-- Whether no entry point of a list gives something that can compile. -/
def EntryPoint.AreIdle (entryPoints : List (EntryPoint κ)) : Prop :=
  ∀ entryPoint ∈ entryPoints, entryPoint.compiler = .ok none

/-- The reports of entry points that are skipped. -/
def EntryPoint.ignoredAll (entryPoints : List (EntryPoint κ)) : List Event :=
  entryPoints.map fun entryPoint => .entryPointIgnored entryPoint.name

/-- How a search among entry points ends, which of them it skips, and what it reports. The entry points after the one
that ends it have no say. -/
inductive Discovery :
    List (EntryPoint κ) → List (EntryPoint κ) → Except Failure κ → List Event → Prop where
  | found {skipped : List (EntryPoint κ)} {entryPoint : EntryPoint κ} {compiler : κ} (rest : List (EntryPoint κ))
      (hskipped : EntryPoint.AreIdle skipped) (hcompiler : entryPoint.compiler = .ok (some compiler)) :
      Discovery (skipped ++ entryPoint :: rest) skipped (.ok compiler)
        (EntryPoint.ignoredAll skipped ++ [.compilerDiscovered entryPoint.name])
  | broken {skipped : List (EntryPoint κ)} {entryPoint : EntryPoint κ} {failure : Failure}
      (rest : List (EntryPoint κ)) (hskipped : EntryPoint.AreIdle skipped)
      (hcompiler : entryPoint.compiler = .error failure) :
      Discovery (skipped ++ entryPoint :: rest) skipped (.error failure) (EntryPoint.ignoredAll skipped)
  | nothing {skipped : List (EntryPoint κ)} (hskipped : EntryPoint.AreIdle skipped) :
      Discovery skipped skipped (.error .noCompiler) (EntryPoint.ignoredAll skipped)

namespace Discovery

variable {entryPoints skipped : List (EntryPoint κ)} {outcome : Except Failure κ} {events : List Event}

theorem skip (hrest : Discovery entryPoints skipped outcome events) {entryPoint : EntryPoint κ}
    (hcompiler : entryPoint.compiler = .ok none) :
    Discovery (entryPoint :: entryPoints) (entryPoint :: skipped) outcome
      (.entryPointIgnored entryPoint.name :: events) := by
  cases hrest with
  | found rest hskipped hlast => exact .found rest (List.forall_mem_cons.mpr ⟨hcompiler, hskipped⟩) hlast
  | broken rest hskipped hlast => exact .broken rest (List.forall_mem_cons.mpr ⟨hcompiler, hskipped⟩) hlast
  | nothing hskipped => exact .nothing (List.forall_mem_cons.mpr ⟨hcompiler, hskipped⟩)

/-- The warnings among events. -/
def warnings (wording : Wording) (events : List Event) : List Log.Record :=
  (events.map (Event.toRecord wording)).filter (·.level = .warning)

theorem warnings_ignoredAll (wording : Wording) (skipped : List (EntryPoint κ)) :
    warnings wording (EntryPoint.ignoredAll skipped) =
      (EntryPoint.ignoredAll skipped).map (Event.toRecord wording) := by
  rw [warnings, List.filter_eq_self, EntryPoint.ignoredAll, List.map_map]
  intro record hrecord
  obtain ⟨entryPoint, -, rfl⟩ := List.mem_map.mp hrecord
  rfl

/-- There is a warning for every entry point that is skipped, and no other. -/
theorem warnings_eq (hends : Discovery entryPoints skipped outcome events) (wording : Wording) :
    warnings wording events = (EntryPoint.ignoredAll skipped).map (Event.toRecord wording) := by
  cases hends with
  | found rest hskipped hcompiler =>
      rw [← warnings_ignoredAll, warnings, List.map_append, List.filter_append]
      exact List.append_nil _
  | broken rest hskipped hcompiler => exact warnings_ignoredAll wording skipped
  | nothing hskipped => exact warnings_ignoredAll wording _

theorem isOfRegistry_ignoredAll (skipped : List (EntryPoint κ)) :
    ∀ event ∈ EntryPoint.ignoredAll skipped, event.isOfRegistry = true := by
  intro event hevent
  obtain ⟨entryPoint, -, rfl⟩ := List.mem_map.mp hevent
  rfl

/-- All reports are of the registry. -/
theorem isOfRegistry (hends : Discovery entryPoints skipped outcome events) :
    ∀ event ∈ events, event.isOfRegistry = true := by
  cases hends with
  | found rest hskipped hcompiler =>
      exact List.forall_mem_append.mpr ⟨isOfRegistry_ignoredAll skipped, List.forall_mem_singleton.mpr rfl⟩
  | broken rest hskipped hcompiler => exact isOfRegistry_ignoredAll skipped
  | nothing hskipped => exact isOfRegistry_ignoredAll _

end Discovery

namespace Registry

theorem discovery_discover (entryPoints : List (EntryPoint κ)) :
    ∃ skipped, Discovery entryPoints skipped (discover entryPoints).1 (discover entryPoints).2 := by
  induction entryPoints with
  | nil => exact ⟨[], .nothing (List.forall_mem_nil _)⟩
  | cons entryPoint rest ih =>
      rcases hcompiler : entryPoint.compiler with failure | compiler?
      · have hends : Discovery ([] ++ entryPoint :: rest) [] _ _ := .broken rest (List.forall_mem_nil _) hcompiler
        rw [discover, hcompiler]
        exact ⟨[], hends⟩
      · cases compiler? with
        | some compiler =>
            have hends : Discovery ([] ++ entryPoint :: rest) [] _ _ := .found rest (List.forall_mem_nil _) hcompiler
            rw [discover, hcompiler]
            exact ⟨[], hends⟩
        | none =>
            obtain ⟨skipped, hrest⟩ := ih
            rw [discover, hcompiler]
            exact ⟨entryPoint :: skipped, hrest.skip hcompiler⟩

theorem isOfRegistry_discover (entryPoints : List (EntryPoint κ)) :
    ∀ event ∈ (discover entryPoints).2, event.isOfRegistry = true := by
  obtain ⟨skipped, hends⟩ := discovery_discover entryPoints
  exact hends.isOfRegistry

theorem outcome_get (registry : Registry κ) :
    registry.get.1 = registry.chosen.elim (discover registry.entryPoints).1 .ok := by
  obtain ⟨chosen, entryPoints⟩ := registry
  cases chosen with
  | some compiler => rfl
  | none => rcases hfound : discover entryPoints with ⟨failure | compiler, events⟩ <;> simp [get, hfound]

theorem events_get (registry : Registry κ) :
    registry.get.2.2 = if registry.chosen.isSome then [] else (discover registry.entryPoints).2 := by
  obtain ⟨chosen, entryPoints⟩ := registry
  cases chosen with
  | some compiler => rfl
  | none => rcases hfound : discover entryPoints with ⟨failure | compiler, events⟩ <;> simp [get, hfound]

/-- A registry keeps what it gives. -/
theorem chosen_get (registry : Registry κ) : registry.get.2.1.chosen = registry.get.1.toOption := by
  obtain ⟨chosen, entryPoints⟩ := registry
  cases chosen with
  | some compiler => rfl
  | none =>
      rcases hfound : discover entryPoints with ⟨failure | compiler, events⟩ <;>
        simp [get, hfound, set, Except.toOption]

theorem chosen_get_eq_or (registry : Registry κ) :
    registry.get.2.1.chosen = registry.chosen.or (discover registry.entryPoints).1.toOption := by
  rw [chosen_get, outcome_get]
  cases registry.chosen <;> rfl

/-- A registry makes a search if it keeps nothing. -/
theorem discovery_get (registry : Registry κ) :
    ∃ skipped outcome events, Discovery registry.entryPoints skipped outcome events ∧
      registry.get.1 = registry.chosen.elim outcome .ok ∧
      registry.get.2.2 = if registry.chosen.isSome then [] else events := by
  obtain ⟨skipped, hends⟩ := discovery_discover registry.entryPoints
  exact ⟨skipped, _, _, hends, registry.outcome_get, registry.events_get⟩

theorem isOfRegistry_get (registry : Registry κ) : ∀ event ∈ registry.get.2.2, event.isOfRegistry = true := by
  rw [events_get]
  split
  · exact fun _ => nofun
  · exact isOfRegistry_discover registry.entryPoints

/-- A registry that was asked gives the same when it is asked again. -/
theorem get_get (registry : Registry κ) : registry.get.2.1.get.1 = registry.get.1 := by
  obtain ⟨chosen, entryPoints⟩ := registry
  cases chosen with
  | some compiler => rfl
  | none => rcases hfound : discover entryPoints with ⟨failure | compiler, events⟩ <;> simp [get, hfound, set]

end Registry

end SassBridge
