import SassBridge.Proofs.Assoc
import SassBridge.Proofs.Engine.Congruence
import SassBridge.Scripted.Functions

/-! Renders do not leak into each other. If functions and importers leave the bag alone, all that a render leaves behind
for the next one are its results, which no render reads. So the next render is the same all over again. -/

namespace SassBridge

variable {κ σ ι : Type}

/-! Which objects a render starts with. -/

/-- An importer that is not an object of the caller is made for the render. -/
theorem ImporterSession.outlives_of_start {importer : LegacyImporter ι} {existing : Held ι} {bag : Bag}
    (hoption : bag.get? "importer" ≠ some (.host .importer)) {session : ImporterSession ι}
    (hstart : start importer existing bag = .ok (some session)) :
    session.importer = importer ∧ session.outlives = false := by
  rw [start.eq_def] at hstart
  split at hstart
  · cases hstart
  · cases hstart
  · obtain ⟨held, -, hsession⟩ := Lists.bind_ok_iff.mp hstart
    obtain rfl := Option.some.inj (Except.ok.inj hsession)
    exact ⟨rfl, rfl⟩
  · contradiction
  · obtain rfl := Option.some.inj (Except.ok.inj hstart)
    exact ⟨rfl, rfl⟩

/-- What a session starts with. -/
theorem Session.frame_start {cwd : String} {bag : Bag} {functions : FunctionSession σ} {importer : LegacyImporter ι}
    {existing : Held ι} {session : Session σ ι} (hsession : start cwd bag functions importer existing = .ok session) :
    session.frame.bag = bag ∧ session.frame.functions = functions.set ∧
      ImporterSession.start importer existing bag = .ok session.importer := by
  obtain ⟨started, hstarted, hsession⟩ := Lists.bind_ok_iff.mp hsession
  obtain rfl := Except.ok.inj hsession
  exact ⟨rfl, rfl, hstarted⟩

theorem FunctionSession.set_of_start {set : FunctionSet σ} {bag : Bag} {functions : FunctionSession σ}
    (hstart : start set bag = .ok functions) : functions.set = set := by
  obtain ⟨receiver, -, hstart⟩ := Lists.bind_ok_iff.mp hstart
  obtain ⟨table, -, hstart⟩ := Lists.bind_ok_iff.mp hstart
  rw [← Except.ok.inj hstart]

/-- Whether what a frame holds is for one render only: the bag of the engine, and no importer of the caller. -/
structure Frame.IsFresh (frame : Frame σ ι) (bag : Bag) : Prop where
  bag : frame.bag = bag
  keeps : frame.KeepsOptions
  importer : ∀ importer holder, frame.importer ≠ some (importer, holder, true)

namespace Host

variable {host : Host κ σ ι} {world : World κ ι}

/-- Whether neither functions nor importers change their options, and the bag names no importer of the caller. -/
structure IsSealed (host : Host κ σ ι) (engine : Engine κ ι) : Prop where
  functions : host.functions.KeepsOptions
  importer : host.importer.KeepsOptions
  option : engine.bag.get? "importer" ≠ some (.host .importer)

theorem keepsOptions_of_functionSet (hfunctions : host.functions.KeepsOptions) {option : Datum} {set : FunctionSet σ}
    (hset : host.functionSet option = .ok set) : set.KeepsOptions := by
  rw [functionSet.eq_def] at hset
  split at hset
  · obtain rfl := Except.ok.inj hset
    exact hfunctions
  · split at hset
    · cases hset
    · obtain rfl := Except.ok.inj hset
      exact ⟨fun _ _ => nofun, fun _ _ _ => nofun⟩

theorem IsSealed.isFresh (hsealed : host.IsSealed world.engine) {session : Session σ ι}
    (hstarts : host.StartsWith world session) : session.frame.IsFresh world.engine.bag := by
  obtain ⟨set, functions, hset, hfunctions, hsession⟩ := hstarts
  obtain ⟨hbag, hsame, himporter⟩ := Session.frame_start hsession
  have hmade (started : ImporterSession ι) (hstarted : session.importer = some started) :
      started.importer = host.importer ∧ started.outlives = false :=
    ImporterSession.outlives_of_start hsealed.option (hstarted ▸ himporter)
  refine ⟨hbag, ⟨?_, ?_⟩, ?_⟩
  · rw [hsame, FunctionSession.set_of_start hfunctions]
    exact keepsOptions_of_functionSet hsealed.functions hset
  · intro importer rest hheld
    obtain ⟨started, hstarted, hheld⟩ := Option.map_eq_some_iff.mp hheld
    obtain rfl : started.importer = importer := congrArg Prod.fst hheld
    rw [(hmade started hstarted).1]
    exact hsealed.importer
  · intro importer holder hheld
    obtain ⟨started, hstarted, hheld⟩ := Option.map_eq_some_iff.mp hheld
    have houtlives : started.outlives = true := congrArg (fun held => held.2.2) hheld
    rw [(hmade started hstarted).2] at houtlives
    cases houtlives

end Host

/-! What a render leaves in the bag and of the importer. -/

namespace World

/-- The bag, and the importer of the caller. -/
def contents (world : World κ ι) : Bag × Held ι :=
  (world.engine.bag, world.engine.importer)

theorem contents_ignoresNotes : IgnoresNotes (contents : World κ ι → Bag × Held ι) :=
  fun _ _ _ => rfl

theorem contents_prepare (host : Host κ σ ι) : host.prepare.Keeps contents := by
  refine Host.prepare_keeps_of contents_ignoresNotes (fun world => ?_) (fun world => ?_) fun world => ?_
  · rw [loadPaths_run]
    rfl
  · rw [fileUrl_run]
    rfl
  · rw [chooseCompiler_run]
    rfl

theorem contents_keepSession {world : World κ ι} {session : Session σ ι}
    (hfresh : session.frame.IsFresh world.engine.bag) :
    ((Host.keepSession session : Step (World κ ι) Unit).run world).2.contents = world.contents := by
  have hnone : session.importer.filter ImporterSession.outlives = none := by
    refine Option.filter_eq_none_iff.mpr fun importer himporter houtlives => ?_
    refine hfresh.importer importer.importer importer.held.options ?_
    rw [Session.frame, himporter, Option.map_some, houtlives]
  refine Prod.ext hfresh.bag ?_
  change ((session.importer.filter ImporterSession.outlives).map ImporterSession.held).getD _ = _
  rw [hnone]
  rfl

end World

namespace Host

/-- What functions and importers leave alone, a render leaves alone. -/
theorem contents_render {host : Host κ σ ι} (world : World κ ι) (hsealed : host.IsSealed world.engine) :
    (host.render.run world).2.contents = world.contents := by
  have hcompiled : (host.compiled.run world).2.contents = world.contents := by
    rw [← World.contents_prepare host world]
    apply Step.Keeps.view_run_bind
    intro prepared ready hprepare
    have hkept : ready.contents = world.contents := by
      have hkeeps := World.contents_prepare host world
      rwa [hprepare] at hkeeps
    have hbag : ready.engine.bag = world.engine.bag := congrArg Prod.fst hkept
    have hfresh := hsealed.isFresh (prepares_of_prepare hprepare).session
    have hdriven := Session.frame_drive hfresh.keeps (host.compile prepared.compiler prepared.request)
    rw [← hdriven, ← hbag] at hfresh
    rw [Step.Keeps.view_run_bind World.contents fun _ _ _ => rfl, runCompiler_eq]
    rw [Step.run_bind_of_ok (World.note_run _ ready), conclude_eq]
    rw [Step.Keeps.view_run_bind World.contents fun _ after _ => deliver_keeps World.contents_ignoresNotes _ _ after]
    exact World.contents_keepSession hfresh
  rw [view_render World.contents_ignoresNotes fun _ _ _ _ => rfl, hcompiled]
  exact ite_self _

end Host

/-! Worlds that a render cannot tell apart. -/

namespace World

/-- An engine is its standing, its contents and the URL of its template. -/
theorem engine_eq {world other : World κ ι} (hstanding : world.standing = other.standing)
    (hcontents : world.contents = other.contents) (hurl : world.knownUrl? = other.knownUrl?) :
    world.engine = other.engine := by
  obtain ⟨surroundings, engine⟩ := world
  obtain ⟨otherSurroundings, otherEngine⟩ := other
  obtain ⟨template, bag, options, compiler?, importer, url?, dependencies?, sourceMap?, rendered⟩ := engine
  simp only [standing, Standing.mk.injEq, contents, Prod.mk.injEq, knownUrl?] at hstanding hcontents hurl
  obtain ⟨-, rfl, rfl, rfl, rfl, rfl, rfl⟩ := hstanding
  obtain ⟨rfl, rfl⟩ := hcontents
  rw [hurl]

/-- Whether worlds are the same in all that a render depends on, and the same work was done in both since two
journals. -/
structure Alike (first second : Journal) (world other : World κ ι) : Prop where
  outlook : world.surroundings.outlook = other.surroundings.outlook
  template : world.engine.template = other.engine.template
  options : world.engine.options = other.engine.options
  compiler? : world.engine.compiler? = other.engine.compiler?
  contents : world.contents = other.contents
  templateUrl : world.templateUrl = other.templateUrl
  work : ∃ entries others, world.surroundings.journal = first ++ entries ∧
    other.surroundings.journal = second ++ others ∧ entries.work = others.work

namespace Alike

variable {first second : Journal} {world other : World κ ι}

theorem ownCompiler? (hsame : Alike first second world other) (isTrue : κ → Bool) :
    world.engine.ownCompiler? isTrue = other.engine.ownCompiler? isTrue :=
  congrArg (Option.filter isTrue) hsame.compiler?

theorem choice (hsame : Alike first second world other) (isTrue : κ → Bool) :
    world.choice isTrue = other.choice isTrue := by
  have hdefault : (Surroundings.defaultCompiler.run world.surroundings).1 =
      (Surroundings.defaultCompiler.run other.surroundings).1 := congrArg Outlook.compiler hsame.outlook
  rw [World.choice, World.choice, hsame.ownCompiler? isTrue, hdefault]

/-- More of the journal, with the same work in it. -/
theorem work_append (hsame : Alike first second world other) {more others : Journal} (hmore : more.work = others.work) :
    ∃ entries entries', world.surroundings.journal ++ more = first ++ entries ∧
      other.surroundings.journal ++ others = second ++ entries' ∧ entries.work = entries'.work := by
  obtain ⟨entries, entries', hfirst, hsecond, hwork⟩ := hsame.work
  refine ⟨entries ++ more, entries' ++ others, ?_, ?_, ?_⟩
  · rw [hfirst, List.append_assoc]
  · rw [hsecond, List.append_assoc]
  · rw [Journal.work_append, Journal.work_append, hwork, hmore]

end Alike

theorem alike_congruence (isTrue : κ → Bool) (first second : Journal) :
    Congruence isTrue (Alike first second : World κ ι → World κ ι → Prop) where
  cwd hsame := congrArg Outlook.cwd hsame.outlook
  template hsame := hsame.template
  options hsame := hsame.options
  bag hsame := congrArg Prod.fst hsame.contents
  importer hsame := congrArg Prod.snd hsame.contents
  loadPaths := by
    intro world other hsame
    have hshared : (Surroundings.loadPaths.run world.surroundings).1 =
        (Surroundings.loadPaths.run other.surroundings).1 := congrArg Outlook.loadPaths hsame.outlook
    have hurl := templateUrl_steady.loadPaths world
    have hotherUrl := templateUrl_steady.loadPaths other
    rw [loadPaths_run] at hurl hotherUrl
    rw [loadPaths_run, loadPaths_run, hsame.options, hshared]
    refine ⟨rfl, ?_, hsame.template, hsame.options, hsame.compiler?, hsame.contents, ?_, ?_⟩
    · exact (Surroundings.outlook_loadPaths _).trans (hsame.outlook.trans (Surroundings.outlook_loadPaths _).symm)
    · exact hurl.trans (hsame.templateUrl.trans hotherUrl.symm)
    · rw [Surroundings.loadPaths_run, Surroundings.loadPaths_run]
      exact hsame.work
  fileUrl := by
    intro world other hsame
    rw [fileUrl_run, fileUrl_run]
    exact ⟨congrArg Except.ok hsame.templateUrl, hsame.outlook, hsame.template, hsame.options, hsame.compiler?,
      hsame.contents, hsame.templateUrl, hsame.work⟩
  chooseCompiler := by
    intro world other hsame
    have hurl := templateUrl_steady.chooseCompiler isTrue world
    have hotherUrl := templateUrl_steady.chooseCompiler isTrue other
    rw [chooseCompiler_run] at hurl hotherUrl
    rw [chooseCompiler_run, chooseCompiler_run]
    refine ⟨hsame.choice isTrue, ?_, hsame.template, hsame.options, hsame.compiler?, hsame.contents, ?_, ?_⟩
    · rw [← hsame.ownCompiler? isTrue]
      split
      · exact hsame.outlook
      · rw [Surroundings.outlook_defaultCompiler, Surroundings.outlook_defaultCompiler, hsame.outlook]
    · exact hurl.trans (hsame.templateUrl.trans hotherUrl.symm)
    · rw [← hsame.ownCompiler? isTrue]
      split
      · exact hsame.work
      · have hnone (surroundings : Surroundings κ) :
            Journal.work (surroundings.registry.get.2.2.map .reported) = [] :=
          Journal.work_reported surroundings.registry.isOfRegistry_get
        exact hsame.work_append ((hnone _).trans (hnone _).symm)
  note entries := by
    intro world other hsame
    refine ⟨rfl, ?_, hsame.template, hsame.options, hsame.compiler?, hsame.contents, hsame.templateUrl, ?_⟩
    · have houtlook := hsame.outlook
      rw [Surroundings.outlook_eq, Surroundings.outlook_eq] at houtlook ⊢
      exact houtlook
    · exact hsame.work_append rfl
  session bag importer hsame :=
    ⟨hsame.outlook, hsame.template, hsame.options, hsame.compiler?, rfl, hsame.templateUrl, hsame.work⟩
  dependencies dependencies? world other hsame :=
    ⟨rfl, hsame.outlook, hsame.template, hsame.options, hsame.compiler?, hsame.contents, hsame.templateUrl, hsame.work⟩
  sourceMap sourceMap? world other hsame :=
    ⟨rfl, hsame.outlook, hsame.template, hsame.options, hsame.compiler?, hsame.contents, hsame.templateUrl, hsame.work⟩

end World

/-! What a render keeps of its result. -/

/-- The standing once the result of a render is kept, as far as it can be. -/
def Standing.keep (standing : Standing κ) (rendering? : Option Rendering) : Standing κ :=
  match rendering? with
  | none => standing
  | some rendering =>
    match rendering.dependencies, rendering.sourceMap with
    | .error _, _ => standing
    | .ok dependencies, .error _ => { standing with dependencies? := some dependencies }
    | .ok dependencies, .ok sourceMap =>
      { standing with dependencies? := some dependencies, sourceMap? := sourceMap, rendered := true }

/-- What is kept of a result is not among the options. -/
theorem Standing.keep_same (standing : Standing κ) (rendering? : Option Rendering) :
    (standing.keep rendering?).template = standing.template ∧ (standing.keep rendering?).options = standing.options ∧
      (standing.keep rendering?).compiler? = standing.compiler? := by
  cases rendering? with
  | none => exact ⟨rfl, rfl, rfl⟩
  | some rendering =>
      rw [keep.eq_def]
      split
      · exact ⟨rfl, rfl, rfl⟩
      · split <;> exact ⟨rfl, rfl, rfl⟩

/-- To keep a result twice is to keep it once. -/
theorem Standing.keep_keep (standing : Standing κ) (rendering? : Option Rendering) :
    (standing.keep rendering?).keep rendering? = standing.keep rendering? := by
  cases rendering? with
  | none => rfl
  | some rendering =>
      cases hdependencies : rendering.dependencies <;> cases hmap : rendering.sourceMap <;>
        simp only [keep, hdependencies, hmap]

namespace Host

theorem standing_render (host : Host κ σ ι) (world : World κ ι) :
    (host.render.run world).2.standing = world.standing.keep (host.rendering? world) := by
  have hto := host.rendersTo_render world
  generalize (host.render.run world).1 = outcome at hto
  generalize (host.render.run world).2.standing = standing at hto ⊢
  cases hto with
  | uncompiled hnone => rw [hnone]; rfl
  | unreadable hsome hdependencies => simp only [hsome, Standing.keep, hdependencies]
  | refused hsome hdependencies hmap => simp only [hsome, Standing.keep, hdependencies, hmap]
  | kept hsome hdependencies hmap => simp only [hsome, Standing.keep, hdependencies, hmap]

theorem templateUrl_render (host : Host κ σ ι) (world : World κ ι) :
    (host.render.run world).2.templateUrl = world.templateUrl := by
  refine render_keeps World.templateUrl_steady ⟨World.templateUrl_steady.calm, fun _ _ _ _ => rfl⟩ (fun world => ?_)
    (fun _ _ => rfl) host world
  rw [World.fileUrl_run]
  rfl

section Alike

variable {host : Host κ σ ι} {world other : World κ ι} {first second : Journal}

theorem rendering?_congr (hsame : World.Alike first second world other) :
    host.rendering? world = host.rendering? other := by
  have hcwd : world.surroundings.cwd = other.surroundings.cwd := congrArg Outlook.cwd hsame.outlook
  have hcompiled := ((World.alike_congruence host.isTrue first second).compiled world other hsame).1
  rw [rendering?, rendering?, hsame.template, hcompiled, hcwd]

theorem prepared?_congr (hsame : World.Alike first second world other) :
    host.prepared? world = host.prepared? other := by
  have hprepared := ((World.alike_congruence host.isTrue first second).prepare world other hsame).1
  rw [prepared?, prepared?, hsame.template, hprepared]

end Alike

section Next

variable {host : Host κ σ ι} {engine : Engine κ ι} {before later : Surroundings κ}

/-- What the next render of an engine meets is what the first one met. -/
theorem alike_next (hsealed : host.IsSealed engine)
    (hlater : later.outlook = (host.render.run ⟨before, engine⟩).2.surroundings.outlook) :
    World.Alike before.journal later.journal ⟨before, engine⟩ ⟨later, (host.render.run ⟨before, engine⟩).2.engine⟩ := by
  have houtlook := host.outlook_render ⟨before, engine⟩
  have hcontents := contents_render ⟨before, engine⟩ hsealed
  have hurl := host.templateUrl_render ⟨before, engine⟩
  have hstanding := host.standing_render ⟨before, engine⟩
  obtain ⟨htemplate, hoptions, hcompiler⟩ := Standing.keep_same _ (host.rendering? ⟨before, engine⟩)
  rw [← hstanding] at htemplate hoptions hcompiler
  have hcwd : later.cwd = (host.render.run ⟨before, engine⟩).2.surroundings.cwd := congrArg Outlook.cwd hlater
  refine {
    outlook := houtlook.symm.trans hlater.symm
    template := htemplate.symm
    options := hoptions.symm
    compiler? := hcompiler.symm
    contents := hcontents.symm
    templateUrl := ?_
    work := ⟨[], [], (List.append_nil _).symm, (List.append_nil _).symm, rfl⟩ }
  refine hurl.symm.trans ?_
  rw [World.templateUrl, World.templateUrl, hcwd]

/-- An engine that has been rendered is left as it is by the next render. -/
theorem engine_next (hsealed : host.IsSealed engine)
    (hlater : later.outlook = (host.render.run ⟨before, engine⟩).2.surroundings.outlook) :
    (host.render.run ⟨later, (host.render.run ⟨before, engine⟩).2.engine⟩).2.engine =
      (host.render.run ⟨before, engine⟩).2.engine := by
  have hsame := alike_next hsealed hlater
  have hcwd : later.cwd = (host.render.run ⟨before, engine⟩).2.surroundings.cwd := congrArg Outlook.cwd hlater
  have hfirst := host.standing_render ⟨before, engine⟩
  have hsecond := host.standing_render ⟨later, (host.render.run ⟨before, engine⟩).2.engine⟩
  have hstanding : (host.render.run ⟨later, (host.render.run ⟨before, engine⟩).2.engine⟩).2.standing =
      (host.render.run ⟨before, engine⟩).2.standing := by
    have hmet : World.standing ⟨later, (host.render.run ⟨before, engine⟩).2.engine⟩ =
        (host.render.run ⟨before, engine⟩).2.standing := by
      rw [World.standing, World.standing, hcwd]
    rw [hsecond, ← rendering?_congr hsame, hmet, hfirst, Standing.keep_keep]
  have hcontents : (host.render.run ⟨later, (host.render.run ⟨before, engine⟩).2.engine⟩).2.contents =
      (host.render.run ⟨before, engine⟩).2.contents := by
    have hbag : (host.render.run ⟨before, engine⟩).2.engine.bag = engine.bag :=
      congrArg Prod.fst (contents_render ⟨before, engine⟩ hsealed)
    refine contents_render ⟨later, _⟩ ⟨hsealed.functions, hsealed.importer, ?_⟩
    rw [hbag]
    exact hsealed.option
  refine World.engine_eq hstanding hcontents ?_
  have hshared : (Surroundings.loadPaths.run before).1 = (Surroundings.loadPaths.run later).1 :=
    congrArg Outlook.loadPaths hsame.outlook
  have hurl := host.knownUrl?_render ⟨before, engine⟩
  rw [hsame.template, hsame.templateUrl, hshared] at hurl
  rw [knownUrl?_render, hurl]
  split
  · rfl
  · rename_i hnever
    rw [if_neg hnever] at hurl
    exact hurl

/-- If functions and importers leave the bag alone, and the bag names no importer of the caller, the next render gives
back the same or fails for the same reason, and leaves the engine with the same results, whatever happened meanwhile
that left the working directory, the load paths and the default compiler as they were. The compiler is handed the same,
and the same work is done: what it asks, what importers are asked and how it is answered. -/
theorem render_repeats (hsealed : host.IsSealed engine)
    (hlater : later.outlook = (host.render.run ⟨before, engine⟩).2.surroundings.outlook) :
    let first := host.render.run ⟨before, engine⟩
    let second := host.render.run ⟨later, first.2.engine⟩
    second.1 = first.1 ∧ second.2.engine = first.2.engine ∧
      host.prepared? ⟨later, first.2.engine⟩ = host.prepared? ⟨before, engine⟩ ∧
      ∃ entries others, first.2.surroundings.journal = before.journal ++ entries ∧
        second.2.surroundings.journal = later.journal ++ others ∧ others.work = entries.work := by
  intro first second
  have hsame := alike_next hsealed hlater
  obtain ⟨houtcome, hafter⟩ := (World.alike_congruence host.isTrue _ _).render _ _ hsame
  obtain ⟨entries, others, hfirst, hsecond, hwork⟩ := hafter.work
  exact ⟨houtcome.symm, engine_next hsealed hlater, (prepared?_congr hsame).symm, entries, others, hfirst, hsecond,
    hwork.symm⟩

end Next

/-- A host whose functions and importer count, and whose compiler gives what it is told of that. -/
def countingHost : Host Unit Nat Nat where
  functions := Scripted.functionSet "Functions" [[("count", Scripted.method [] .count)]]
  importer := {
    initial := 0
    make := fun _ => .ok ⟨0, .shared⟩
    imports := fun _ receiver =>
      (if receiver.state = 0 then .ok (.many []) else .ok .other, { receiver with state := receiver.state + 1 }) }
  isTrue _ := true
  compile _ _ := .ask (.call "count()" []) fun
    | .ok (.value (.atom (.number _ ⟨.int 1, _, _⟩))) =>
      .ask (.canonicalize (some "file:///work/project/part")) fun
        | .ok _ => .done (.ok ⟨"a", none, ["file:///work/project/part.scss"]⟩)
        | .error failure => .done (.error failure)
    | _ => .done (.error .noAttribute)

/-- An engine with functions and the class of an importer, and without a compiler. -/
def countingEngine : Engine Unit Nat where
  template := .text "a"
  bag := [("importer", .host .importerClass)]
  options := { Engine.plain.options with functions := .host .functionSet }
  compiler? := none
  importer := ⟨0, .missing⟩
  fileUrl? := none
  dependencies? := none
  sourceMap? := none
  rendered := false

theorem isSealed_counting : countingHost.IsSealed countingEngine where
  functions := {
    defined := by
      intro name definition hnearest body hbody bound receiver
      obtain ⟨layer, hlayer, hfound⟩ := List.exists_of_findSome?_eq_some hnearest
      obtain rfl := List.mem_singleton.mp hlayer
      obtain ⟨-, rfl⟩ := Prod.mk.inj (List.mem_singleton.mp (Assoc.mem_of_find? hfound))
      obtain rfl := Option.some.inj hbody
      rfl
    own := fun _ _ _ => nofun }
  importer _ _ := rfl
  option := by
    have hoption : countingEngine.bag.get? "importer" = some (.host .importerClass) := rfl
    rw [hoption]
    nofun

/-- The second render counts from one again. It finds the compiler that the first one discovered, so that it does the
same work without a search. -/
theorem render_repeats_counted :
    let first := countingHost.render.run ⟨.start "/work/project" [] ⟨none, [⟨"here", .ok (some ())⟩]⟩, countingEngine⟩
    let second := countingHost.render.run ⟨first.2.surroundings, first.2.engine⟩
    second.1 = first.1 ∧ second.2.engine = first.2.engine ∧ first.1 = .ok (some "a") ∧
      first.2.surroundings.journal.importRequests.length = 1 ∧ second.2.surroundings.journal.importRequests.length = 2 ∧
      second.2.surroundings.journal.registryEvents.length = 1 := by
  intro first second
  have hlater : first.2.surroundings.outlook = first.2.surroundings.outlook := rfl
  obtain ⟨houtcome, hengine, -, -⟩ := render_repeats isSealed_counting hlater
  have hreturned : first.1.toOption = some (some "a") := by decide +kernel
  refine ⟨houtcome, hengine, ?_, ?_, ?_, ?_⟩
  · cases hfirst : first.1 with
    | error failure =>
        rw [hfirst] at hreturned
        cases hreturned
    | ok css =>
        rw [hfirst] at hreturned
        rw [Option.some.inj hreturned]
  · decide +kernel
  · decide +kernel
  · decide +kernel

end Host

end SassBridge
