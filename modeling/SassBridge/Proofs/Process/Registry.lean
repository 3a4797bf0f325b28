import SassBridge.Proofs.Engine.Congruence
import SassBridge.Proofs.Process.Acts

/-! The default compiler of the process. It is the one that was set last, or else the one that was discovered since;
a search that fails leaves nothing behind. -/

namespace SassBridge

variable {κ σ ι : Type}

/-! What a render asks of the registry. It comes to that only if it has no compiler of its own and a request to send. -/

namespace Surroundings

/-- The registry, and what it reported. -/
def registered (surroundings : Surroundings κ) : Registry κ × List Event :=
  (surroundings.registry, surroundings.journal.registryEvents)

theorem registered_defaultCompiler (surroundings : Surroundings κ) :
    (defaultCompiler.run surroundings).2.registered =
      (surroundings.registry.get.2.1,
        surroundings.journal.registryEvents ++ surroundings.registry.get.2.2.filter Event.isOfRegistry) := by
  rw [defaultCompiler_run, registered, Journal.registryEvents_append, Journal.registryEvents_reported]

end Surroundings

namespace World

def registered (world : World κ ι) : Registry κ × List Event :=
  world.surroundings.registered

theorem registered_calmToEnd : CalmToEnd (registered : World κ ι → Registry κ × List Event) where
  note world entries hentries := by
    refine Prod.ext rfl ((Journal.registryEvents_append _ _).trans ?_)
    rw [hentries.registryEvents, List.append_nil]
    rfl
  session _ _ _ := rfl
  shown _ _ _ _ := rfl

theorem registered_note_compiled (request : Request) :
    (onSurroundings (Surroundings.note [.compiled request]) : Step (World κ ι) Unit).Keeps registered :=
  fun _ => Prod.ext rfl ((Journal.registryEvents_append _ _).trans (List.append_nil _))

theorem registered_loadPaths : (World.loadPaths : Step (World κ ι) (List String)).Keeps registered := by
  intro world
  rw [loadPaths_run, Surroundings.loadPaths_run]
  rfl

theorem registered_fileUrl : (World.fileUrl : Step (World κ ι) String).Keeps registered := by
  intro world
  rw [fileUrl_run]
  rfl

end World

namespace Host

/-- What a render has at hand before it chooses a compiler, if it comes to that. -/
def draft? (host : Host κ σ ι) (world : World κ ι) : Option (Draft σ ι) :=
  if world.engine.template.isTrue then (host.draft.run world).1.toOption else none

/-- Whether a render asks for the default compiler. -/
def needsDefault (host : Host κ σ ι) (world : World κ ι) : Bool :=
  (world.engine.ownCompiler? host.isTrue).isNone && (host.draft? world).isSome

theorem choice_of_draft {host : Host κ σ ι} {world drafted : World κ ι} {draft : Draft σ ι}
    (hdraft : host.draft.run world = (.ok draft, drafted)) :
    drafted.engine.ownCompiler? host.isTrue = world.engine.ownCompiler? host.isTrue ∧
      drafted.registered = world.registered ∧ drafted.choice host.isTrue = world.choice host.isTrue := by
  have hstanding := draft_keeps World.standing_steady.calm.note World.standing_steady.loadPaths
    World.fileUrl_keeps_standing host world
  have hregistered := draft_keeps World.registered_calmToEnd.note World.registered_loadPaths
    World.registered_fileUrl host world
  rw [hdraft] at hstanding hregistered
  have hcompiler : drafted.engine.ownCompiler? host.isTrue = world.engine.ownCompiler? host.isTrue :=
    congrArg (Option.filter host.isTrue) (congrArg Standing.compiler? hstanding)
  have hregistry : drafted.surroundings.registry = world.surroundings.registry := congrArg Prod.fst hregistered
  refine ⟨hcompiler, hregistered, ?_⟩
  rw [World.choice, World.choice, hcompiler, Surroundings.defaultCompiler_run, Surroundings.defaultCompiler_run,
    hregistry]

theorem outcome_prepare_of_draft {host : Host κ σ ι} {world drafted : World κ ι} {draft : Draft σ ι}
    (hdraft : host.draft.run world = (.ok draft, drafted)) :
    (host.prepare.run world).1 =
      (world.choice host.isTrue).map fun compiler => ⟨draft.url, compiler, draft.request, draft.session⟩ := by
  obtain ⟨-, -, hchoice⟩ := choice_of_draft hdraft
  have hchosen := World.chooseCompiler_run drafted host.isTrue
  rw [hchoice] at hchosen
  rw [prepare_eq_draft, Step.run_bind_of_ok hdraft, equip]
  cases hcompiler : world.choice host.isTrue with
  | error failure =>
      rw [hcompiler] at hchosen
      exact Step.outcome_bind_of_error (congrArg Prod.fst hchosen) _
  | ok compiler =>
      rw [hcompiler] at hchosen
      rw [Step.run_bind_of_ok hchosen]
      rfl

theorem registered_prepare_of_draft {host : Host κ σ ι} {world drafted : World κ ι} {draft : Draft σ ι}
    (hdraft : host.draft.run world = (.ok draft, drafted)) :
    (host.prepare.run world).2.registered =
      if (world.engine.ownCompiler? host.isTrue).isSome then world.registered
      else (Surroundings.defaultCompiler.run world.surroundings).2.registered := by
  obtain ⟨hcompiler, hregistered, -⟩ := choice_of_draft hdraft
  rw [prepare_eq_draft, Step.run_bind_of_ok hdraft, equip, Step.Keeps.view_run_bind World.registered]
  · rw [World.chooseCompiler_run, hcompiler]
    split
    · exact hregistered
    · have hregistry : drafted.surroundings.registry = world.surroundings.registry := congrArg Prod.fst hregistered
      have hevents : drafted.surroundings.journal.registryEvents = world.surroundings.journal.registryEvents :=
        congrArg Prod.snd hregistered
      change (Surroundings.defaultCompiler.run drafted.surroundings).2.registered = _
      rw [Surroundings.registered_defaultCompiler, Surroundings.registered_defaultCompiler, hregistry, hevents]
  · intro compiler after _
    exact Step.Keeps.bind (World.registered_calmToEnd.note.report rfl) (fun _ => .pure _) after

/-- The registry after a render is as if the default compiler was asked for, if it comes to that. -/
theorem registered_render (host : Host κ σ ι) (world : World κ ι) :
    (host.render.run world).2.registered =
      if host.needsDefault world then (Surroundings.defaultCompiler.run world.surroundings).2.registered
      else world.registered := by
  rw [view_render_of_noted World.registered_calmToEnd World.registered_note_compiled, needsDefault, draft?]
  by_cases htemplate : world.engine.template.isTrue
  · rw [if_pos htemplate, if_pos htemplate]
    rcases hdraft : host.draft.run world with ⟨failure | draft, drafted⟩
    · have hkept := draft_keeps World.registered_calmToEnd.note World.registered_loadPaths
        World.registered_fileUrl host world
      rw [hdraft] at hkept
      rw [prepare_eq_draft, Step.run_bind_of_error hdraft, hkept]
      simp [Except.toOption]
    · rw [registered_prepare_of_draft hdraft]
      cases world.engine.ownCompiler? host.isTrue <;> simp [Except.toOption]
  · rw [if_neg htemplate, if_neg htemplate]
    simp

/-- What a render hands its request to, if it comes to that. -/
theorem prepared?_eq (host : Host κ σ ι) (world : World κ ι) :
    host.prepared? world = (do
      let draft ← host.draft? world
      let compiler ← (world.choice host.isTrue).toOption
      return ⟨draft.url, compiler, draft.request, draft.session⟩) := by
  rw [prepared?, draft?]
  by_cases htemplate : world.engine.template.isTrue
  · rw [if_pos htemplate, if_pos htemplate]
    rcases hdraft : host.draft.run world with ⟨failure | draft, drafted⟩
    · rw [prepare_eq_draft, Step.run_bind_of_error hdraft]
      rfl
    · rw [outcome_prepare_of_draft hdraft]
      cases world.choice host.isTrue <;> rfl
  · rw [if_neg htemplate, if_neg htemplate]
    rfl

/-- A render that needs a compiler and gets none fails for that. -/
theorem render_of_no_choice {host : Host κ σ ι} {world : World κ ι} {failure : Failure}
    (hdraft : (host.draft? world).isSome) (hchoice : world.choice host.isTrue = .error failure) :
    (host.render.run world).1 = .error failure := by
  rw [draft?] at hdraft
  split at hdraft
  · rename_i htemplate
    rcases hrun : host.draft.run world with ⟨other | draft, drafted⟩
    · rw [hrun] at hdraft
      cases hdraft
    · rw [render, Step.run_get_bind, if_pos htemplate, renderTemplate_eq]
      apply Step.outcome_bind_of_error
      rw [compiled]
      apply Step.outcome_bind_of_error
      rw [outcome_prepare_of_draft hrun, hchoice]
      rfl
  · cases hdraft

/-- A host whose compilers work in another way. -/
def compilingBy (host : Host κ σ ι) (compile : κ → Request → Compilation) : Host κ σ ι :=
  { host with compile := compile }

/-- Whether a render has its request compiled by a compiler. It sends the request, no matter how anything else is
compiled; and if the compiler fails on it, the render does. -/
def Uses (host : Host κ σ ι) (world : World κ ι) (compiler : κ) : Prop :=
  ∃ request, (host.render.run world).2.requests = world.requests ++ [request] ∧
    (∀ compile, compile compiler request = host.compile compiler request →
      (host.compilingBy compile).render.run world = host.render.run world) ∧
    ∀ compile failure, failure.kind ≠ .compilation → compile compiler request = .done (.error failure) →
      ((host.compilingBy compile).render.run world).1 = .error failure

/-- Whether a render has nothing compiled. -/
def UsesNone (host : Host κ σ ι) (world : World κ ι) : Prop :=
  (host.render.run world).2.requests = world.requests ∧
    ∀ compile, (host.compilingBy compile).render.run world = host.render.run world

/-- A render depends on how its own request is compiled by the compiler of its choice, and on no other compilation. -/
theorem render_compilingBy {host : Host κ σ ι} {world : World κ ι} {compile : κ → Request → Compilation}
    (hsame : ∀ prepared, host.prepared? world = some prepared →
      compile prepared.compiler prepared.request = host.compile prepared.compiler prepared.request) :
    (host.compilingBy compile).render.run world = host.render.run world := by
  rw [render, render, Step.run_get_bind, Step.run_get_bind]
  by_cases htemplate : world.engine.template.isTrue
  · rw [if_pos htemplate, if_pos htemplate, renderTemplate_eq, renderTemplate_eq]
    have hcompiled : (host.compilingBy compile).compiled.run world = host.compiled.run world := by
      have hprepare : (host.compilingBy compile).prepare = host.prepare := rfl
      rw [compiled, compiled, hprepare]
      rcases hready : host.prepare.run world with ⟨failure | prepared, ready⟩
      · rw [Step.run_bind_of_error hready, Step.run_bind_of_error hready]
      · have hcompile := hsame prepared (by rw [prepared?, if_pos htemplate, hready]; rfl)
        rw [Step.run_bind_of_ok hready, Step.run_bind_of_ok hready, runCompiler_eq, runCompiler_eq, ← hcompile]
        rfl
    exact Step.run_bind_congr hcompiled _
  · rw [if_neg htemplate, if_neg htemplate]

/-- A render fails if the compiler of its choice fails, unless that reports a stylesheet. -/
theorem render_of_failed {host : Host κ σ ι} {world : World κ ι} {prepared : Prepared κ σ ι}
    (hprepared : host.prepared? world = some prepared) {failure : Failure} (hkind : failure.kind ≠ .compilation)
    (hfailed : host.compile prepared.compiler prepared.request = .done (.error failure)) :
    (host.render.run world).1 = .error failure := by
  obtain ⟨htemplate, ready, hready⟩ := exists_run_of_prepared? hprepared
  rw [render, Step.run_get_bind, if_pos htemplate, renderTemplate_eq]
  apply Step.outcome_bind_of_error
  rw [compiled, Step.run_bind_of_ok hready]
  apply Step.outcome_bind_of_error
  rw [runCompiler_eq, Step.run_bind_of_ok (World.note_run _ ready), hfailed, conclude_eq]
  change ((deliver _ (.error failure)).run _).1 = _
  rw [deliver.eq_def]
  simp only [if_neg hkind]
  rfl

theorem usesNone_of_not_prepared {host : Host κ σ ι} {world : World κ ι} (hprepared : host.prepared? world = none) :
    host.UsesNone world := by
  refine ⟨?_, fun compile => render_compilingBy fun prepared hsome => ?_⟩
  · rw [requests_render, request?, hprepared, Option.map_none, Option.toList_none, List.append_nil]
  · rw [hprepared] at hsome
    cases hsome

/-- A render that comes to its choice uses the compiler that it chooses. -/
theorem uses_of_choice {host : Host κ σ ι} {world : World κ ι} {compiler : κ}
    (hdraft : (host.draft? world).isSome) (hchoice : world.choice host.isTrue = .ok compiler) :
    host.Uses world compiler := by
  obtain ⟨draft, hdraft⟩ := Option.isSome_iff_exists.mp hdraft
  have hprepared : host.prepared? world = some ⟨draft.url, compiler, draft.request, draft.session⟩ := by
    rw [prepared?_eq, hdraft, hchoice]
    rfl
  refine ⟨draft.request, ?_, fun compile hcompile => render_compilingBy fun prepared hsome => ?_,
    fun compile failure hkind hfailed => ?_⟩
  · rw [requests_render, request?, hprepared]
    rfl
  · obtain rfl := Option.some.inj (hprepared.symm.trans hsome)
    exact hcompile
  · have hother : (host.compilingBy compile).prepared? world =
        some ⟨draft.url, compiler, draft.request, draft.session⟩ := hprepared
    exact render_of_failed hother hkind hfailed

/-- A render with a compiler of its own that counts as true leaves the registry as it was. -/
theorem registered_of_own_compiler (host : Host κ σ ι) {world : World κ ι} {compiler : κ}
    (hown : world.engine.ownCompiler? host.isTrue = some compiler) :
    (host.render.run world).2.registered = world.registered := by
  rw [registered_render, needsDefault, hown]
  rfl

/-- Any other render that gets as far as its request asks for the default compiler. -/
theorem render_of_default_compiler {host : Host κ σ ι} {world : World κ ι} (hnone : world.engine.compiler? = none)
    (hdraft : (host.draft? world).isSome) :
    let asked := Surroundings.defaultCompiler.run world.surroundings
    (host.render.run world).2.registered = asked.2.registered ∧
      (∀ compiler, asked.1 = .ok compiler → host.Uses world compiler) ∧
      ∀ failure, asked.1 = .error failure → (host.render.run world).1 = .error failure ∧ host.UsesNone world := by
  intro asked
  have hown : world.engine.ownCompiler? host.isTrue = none := by rw [Engine.ownCompiler?, hnone]; rfl
  have hchoice : world.choice host.isTrue = asked.1 := by rw [World.choice, hown]
  refine ⟨?_, fun compiler hcompiler => uses_of_choice hdraft (hchoice.trans hcompiler), fun failure hfailure => ?_⟩
  · rw [registered_render, needsDefault, hown, hdraft]
    rfl
  · refine ⟨render_of_no_choice hdraft (hchoice.trans hfailure), usesNone_of_not_prepared ?_⟩
    rw [prepared?_eq, hchoice, hfailure]
    cases host.draft? world <;> rfl

/-- A render that does not get as far asks for none. -/
theorem render_of_no_draft {host : Host κ σ ι} {world : World κ ι} (hdraft : host.draft? world = none) :
    host.UsesNone world ∧ (host.render.run world).2.registered = world.registered := by
  refine ⟨usesNone_of_not_prepared (by rw [prepared?_eq, hdraft]; rfl), ?_⟩
  rw [registered_render, needsDefault, hdraft, Option.isSome_none, Bool.and_false]
  rfl

end Host

/-! A render with a compiler of its own does not look at the registry. -/

namespace World

def withRegistry (world : World κ ι) (registry : Registry κ) : World κ ι :=
  { world with surroundings := { world.surroundings with registry := registry } }

/-- Whether worlds are the same but for the registry, and their engine has a compiler that counts as true. -/
def DifferInRegistry (isTrue : κ → Bool) (registry : Registry κ) (world other : World κ ι) : Prop :=
  other = world.withRegistry registry ∧ (world.engine.ownCompiler? isTrue).isSome

theorem differInRegistry_congruence (isTrue : κ → Bool) (registry : Registry κ) :
    Congruence isTrue (DifferInRegistry isTrue registry : World κ ι → World κ ι → Prop) where
  cwd := by rintro world _ ⟨rfl, -⟩; rfl
  template := by rintro world _ ⟨rfl, -⟩; rfl
  options := by rintro world _ ⟨rfl, -⟩; rfl
  bag := by rintro world _ ⟨rfl, -⟩; rfl
  importer := by rintro world _ ⟨rfl, -⟩; rfl
  loadPaths := by
    rintro world _ ⟨rfl, hcompiler⟩
    rw [loadPaths_run, loadPaths_run, withRegistry, Surroundings.loadPaths_run, Surroundings.loadPaths_run]
    exact ⟨rfl, rfl, hcompiler⟩
  fileUrl := by
    rintro world _ ⟨rfl, hcompiler⟩
    rw [fileUrl_run, fileUrl_run]
    exact ⟨rfl, rfl, hcompiler⟩
  chooseCompiler := by
    rintro world _ ⟨rfl, hcompiler⟩
    obtain ⟨compiler, hown⟩ := Option.isSome_iff_exists.mp hcompiler
    have hother : (world.withRegistry registry).engine.ownCompiler? isTrue = some compiler := hown
    rw [chooseCompiler_run, chooseCompiler_run, choice, choice, hown, hother]
    exact ⟨rfl, rfl, hcompiler⟩
  note entries := by
    rintro world _ ⟨rfl, hcompiler⟩
    exact ⟨rfl, rfl, hcompiler⟩
  session bag importer := by
    rintro ⟨rfl, hcompiler⟩
    exact ⟨rfl, hcompiler⟩
  dependencies dependencies? := by
    rintro world _ ⟨rfl, hcompiler⟩
    exact ⟨rfl, rfl, hcompiler⟩
  sourceMap sourceMap? := by
    rintro world _ ⟨rfl, hcompiler⟩
    exact ⟨rfl, rfl, hcompiler⟩

end World

theorem Host.render_withRegistry (host : Host κ σ ι) {world : World κ ι}
    (hcompiler : (world.engine.ownCompiler? host.isTrue).isSome) (registry : Registry κ) :
    host.render.run (world.withRegistry registry) =
      ((host.render.run world).1, (host.render.run world).2.withRegistry registry) := by
  obtain ⟨houtcome, hafter, -⟩ :=
    (World.differInRegistry_congruence host.isTrue registry).render world _ ⟨rfl, hcompiler⟩
  exact Prod.ext houtcome.symm hafter

/-! What some acts make of the registry. -/

namespace Act

def isSet : Act κ σ ι → Bool
  | setCompiler _ => true
  | _ => false

/-- What an act sets. -/
def set? : Act κ σ ι → Option (Option κ)
  | setCompiler compiler => some compiler
  | _ => none

end Act

namespace Moment

/-- Whether a moment asks for the default compiler. -/
def asks (moment : Moment κ σ ι) : Bool :=
  match moment.act with
  | .getCompiler => true
  | .render host engine => host.needsDefault ⟨moment.surroundings, engine⟩
  | _ => false

/-- What a search would find in a moment that asks for the default compiler. -/
def found? (moment : Moment κ σ ι) : Option κ :=
  if moment.asks then (Registry.discover moment.surroundings.registry.entryPoints).1.toOption else none

/-- The compiler that was set last, if the last that was set was one. -/
def lastSet? (history : List (Moment κ σ ι)) : Option κ :=
  (history.reverse.findSome? fun moment => moment.act.set?).join

/-- The compiler that was set last, or else the first that was found since. -/
def chosen? (history : List (Moment κ σ ι)) : Option κ :=
  (lastSet? history).or ((since Act.isSet history).findSome? found?)

variable {moment : Moment κ σ ι}

theorem chosen?_concat_of_set {compiler : Option κ} (hset : moment.act = .setCompiler compiler)
    (history : List (Moment κ σ ι)) : chosen? (history ++ [moment]) = compiler := by
  have hanew : moment.act.isSet = true := by rw [hset]; rfl
  rw [chosen?, since_concat_of_anew hanew, lastSet?, List.reverse_append, List.reverse_singleton,
    List.singleton_append, List.findSome?_cons, hset]
  exact Option.or_none

theorem chosen?_concat (hset : moment.act.isSet = false) (history : List (Moment κ σ ι)) :
    chosen? (history ++ [moment]) = (chosen? history).or moment.found? := by
  have hnothing : moment.act.set? = none := by
    cases hact : moment.act <;> rw [hact] at hset <;> first | rfl | cases hset
  rw [chosen?, chosen?, since_concat hset, List.findSome?_append, Option.or_assoc]
  rw [lastSet?, List.reverse_append, List.reverse_singleton, List.singleton_append, List.findSome?_cons, hnothing,
    List.findSome?_singleton]
  rfl

/-- One act. -/
theorem chosen_after (moment : Moment κ σ ι) :
    (moment.surroundings.after moment.act).registry.chosen =
      moment.act.set?.getD (moment.surroundings.registry.chosen.or moment.found?) := by
  obtain ⟨surroundings, act⟩ := moment
  cases act with
  | changeEnvironment change => exact Option.or_none.symm
  | readSettings =>
      rw [Surroundings.after, Surroundings.settings_run]
      exact Option.or_none.symm
  | setUpLogging jsonLogs logLevel =>
      rw [Surroundings.after_setUpLogging, Surroundings.after, Surroundings.settings_run]
      exact Option.or_none.symm
  | readLoadPaths =>
      rw [Surroundings.after, Surroundings.loadPaths_run]
      exact Option.or_none.symm
  | appendLoadPath path =>
      rw [Surroundings.after, Surroundings.appendLoadPath_run, Surroundings.loadPaths_run]
      exact Option.or_none.symm
  | resetLoadPaths => exact Option.or_none.symm
  | setCompiler compiler => rfl
  | changeEntryPoints entryPoints => exact Option.or_none.symm
  | getCompiler => exact surroundings.registry.chosen_get_eq_or
  | render host engine =>
      have hregistered := host.registered_render ⟨surroundings, engine⟩
      have hchosen := congrArg (fun registered => registered.1.chosen) hregistered
      refine hchosen.trans ?_
      rw [found?, asks]
      split
      · exact surroundings.registry.chosen_get_eq_or
      · exact Option.or_none.symm

/-- What the registry keeps is the compiler that was set last, or else the first that was found since. -/
theorem chosen_afterAll (cwd : String) (environment : Environment) (entryPoints : List (EntryPoint κ))
    (acts : List (Act κ σ ι)) :
    let start := Surroundings.start cwd environment ⟨none, entryPoints⟩
    (start.afterAll acts).registry.chosen = chosen? (start.moments acts) := by
  intro start
  induction acts using List.reverseRecOn with
  | nil => rfl
  | append_singleton acts act ih =>
      rw [Surroundings.moments_concat, Surroundings.afterAll_concat]
      refine (chosen_after ⟨start.afterAll acts, act⟩).trans ?_
      cases hset : act.isSet with
      | false =>
          rw [chosen?_concat hset, ← ih]
          cases act <;> first | rfl | cases hset
      | true =>
          cases act with
          | setCompiler compiler => exact (chosen?_concat_of_set rfl _).symm
          | _ => cases hset

end Moment

/-- The default compiler is the one that was set last, unless that is none; then it is the one that was discovered
since. A discovery that succeeds is kept, and one that fails leaves nothing, so that the next request makes another. A
render that comes to its choice of a compiler has its request compiled by its own one if that counts as true, and what
it does has nothing to do with the registry. Without a compiler of its own it asks for the default compiler, and has its
request compiled by that. A render that does not come to the choice has nothing compiled and leaves the registry. -/
theorem Host.registry_history (cwd : String) (environment : Environment) (entryPoints : List (EntryPoint κ))
    (acts : List (Act κ σ ι)) :
    let start := Surroundings.start cwd environment ⟨none, entryPoints⟩
    let before := start.afterAll acts
    let chosen? := Moment.chosen? (start.moments acts)
    let asked := Surroundings.defaultCompiler.run before
    (∃ skipped outcome events, Discovery before.registry.entryPoints skipped outcome events ∧
      (∀ wording, Discovery.warnings wording events =
        (EntryPoint.ignoredAll skipped).map (Event.toRecord wording)) ∧
      asked.1 = chosen?.elim outcome .ok ∧
      asked.2.journal = before.journal ++ (if chosen?.isSome then [] else events.map .reported)) ∧
    before.registry.chosen = chosen? ∧ asked.2.registry.chosen = asked.1.toOption ∧
    ∀ (host : Host κ σ ι) (engine : Engine κ ι),
      let world : World κ ι := ⟨before, engine⟩
      let ended := host.render.run world
      (∀ compiler, engine.ownCompiler? host.isTrue = some compiler →
        ((host.draft? world).isSome → host.Uses world compiler) ∧ ended.2.registered = before.registered ∧
        ∀ registry, host.render.run (world.withRegistry registry) = (ended.1, ended.2.withRegistry registry)) ∧
      (engine.compiler? = none → (host.draft? world).isSome →
        ended.2.registered = asked.2.registered ∧ (∀ compiler, asked.1 = .ok compiler → host.Uses world compiler) ∧
        ∀ failure, asked.1 = .error failure → ended.1 = .error failure ∧ host.UsesNone world) ∧
      (host.draft? world = none → host.UsesNone world ∧ ended.2.registered = before.registered) := by
  intro start before chosen? asked
  have hchosen : before.registry.chosen = chosen? := Moment.chosen_afterAll cwd environment entryPoints acts
  refine ⟨?_, hchosen, before.registry.chosen_get, ?_⟩
  · obtain ⟨skipped, outcome, events, hends, houtcome, hevents⟩ := before.registry.discovery_get
    rw [hchosen] at houtcome hevents
    refine ⟨skipped, outcome, events, hends, fun wording => hends.warnings_eq wording, houtcome, ?_⟩
    change before.journal ++ before.registry.get.2.2.map .reported = _
    rw [hevents]
    cases chosen? <;> rfl
  · intro host engine world ended
    refine ⟨?_, fun hnone hdraft => render_of_default_compiler hnone hdraft, render_of_no_draft⟩
    intro compiler hcompiler
    have hown : world.engine.ownCompiler? host.isTrue = some compiler := hcompiler
    refine ⟨fun hdraft => uses_of_choice hdraft ?_, host.registered_of_own_compiler hown,
      host.render_withRegistry (by rw [hown]; rfl)⟩
    rw [World.choice, hown]

/-- What was discovered is forgotten once another compiler was set and taken back. By then the entry points are gone. -/
theorem Host.registry_history_forgotten :
    let entryPoints : List (EntryPoint String) :=
      [⟨"idle", .ok none⟩, ⟨"here", .ok (some (.ofClass (.ok (some "sass"))))⟩]
    let found := (Surroundings.start "/work/project" [] ⟨none, entryPoints⟩).after (.getCompiler : Act String Unit Unit)
    let acts : List (Act String Unit Unit) := [.changeEntryPoints [], .setCompiler (some "other"), .setCompiler none]
    let forgotten := found.afterAll acts
    found.registry.chosen = some "sass" ∧ forgotten.registry.chosen = none ∧
      (Surroundings.defaultCompiler.run forgotten).2.registry.chosen = none := by
  intro entryPoints found acts forgotten
  obtain ⟨-, hfound, -, -⟩ := registry_history "/work/project" [] entryPoints [(.getCompiler : Act String Unit Unit)]
  obtain ⟨-, hforgotten, hkept, -⟩ := registry_history "/work/project" [] entryPoints (.getCompiler :: acts)
  exact ⟨hfound, hforgotten, hkept⟩

/-- A host of two compilers. One compiles everything; the other fails and does not count as true. -/
def twoCompilers : Host Bool Unit Unit where
  functions := ⟨"Functions", (), [], fun _ _ => none⟩
  importer := Engine.idleImporter
  isTrue := id
  compile works _ := .done (if works then .ok Engine.acceptedResult else .error .noAttribute)

/-- A new engine with one of these compilers. -/
def Engine.compiledBy (compiler : Bool) (template : String) : Engine Bool Unit where
  template := .text template
  bag := []
  options := plain.options
  compiler? := some compiler
  importer := ⟨(), .shared⟩
  fileUrl? := none
  dependencies? := none
  sourceMap? := none
  rendered := false

/-- With an empty template there is nothing to compile. A compiler that does not count as true is passed over, so that
the render has the registry search for another. -/
theorem Host.own_compiler_unused :
    let before : Surroundings Bool := .start "/work/project" [] ⟨none, [⟨"here", .ok (some true)⟩]⟩
    let empty : World Bool Unit := ⟨before, .compiledBy true ""⟩
    let passed : World Bool Unit := ⟨before, .compiledBy false "a { b: c }"⟩
    ¬ twoCompilers.Uses empty true ∧ ¬ twoCompilers.Uses passed false ∧
      (twoCompilers.render.run passed).2.registered ≠ passed.registered := by
  intro before empty passed
  refine ⟨?_, ?_, ?_⟩
  · rintro ⟨request, hrequests, -⟩
    have hnone : (twoCompilers.render.run empty).2.requests.length = 0 := by decide +kernel
    rw [hrequests] at hnone
    cases hnone
  · rintro ⟨request, -, -, hfails⟩
    have hfailed : (twoCompilers.render.run passed).1 = .error .noAttribute :=
      hfails twoCompilers.compile .noAttribute nofun rfl
    have hreturned : (twoCompilers.render.run passed).1.isOk = true := by decide +kernel
    rw [hfailed] at hreturned
    cases hreturned
  · intro hsame
    have hfound : (twoCompilers.render.run passed).2.registered.1.chosen = some true := by decide +kernel
    rw [hsame] at hfound
    cases hfound

end SassBridge
