import Mathlib
import SassBridge.Proofs.Engine.Render
import SassBridge.Proofs.Lists

/-! What an engine shows of its renders: the dependencies and the source map. The dependencies are those of the last
result whose loaded URLs could be read, and the source map is that of the last result whose source map could be made
relative besides. So a render that fails can be shown: by its dependencies where its source map was refused, and by
both where the source map was kept and then could not be embedded. -/

namespace SassBridge

variable {κ σ ι : Type}

/-- What a compiler gave: the result, the URL of the template and the working directory. -/
structure Rendering where
  cwd : String
  url : String
  result : CompileResult
  deriving DecidableEq

namespace Rendering

/-- The files that were read. -/
def dependencies (rendering : Rendering) : Except Failure (List String) :=
  dependenciesOf rendering.url rendering.result.loadedUrls

/-- The source map, made relative to the working directory. -/
def sourceMap (rendering : Rendering) : Except Failure (Option Wide) :=
  match rendering.result.sourceMap with
  | none => .ok none
  | some text => (SourceMap.relativizeText rendering.cwd text).map some

end Rendering

/-- What becomes of a result: it is refused, or else kept quiet about or finished as the options say. -/
def Engine.treat (engine : Engine κ ι) (rendering : Rendering) : Except Failure (Option String) := do
  let _ ← rendering.dependencies
  let sourceMap ← rendering.sourceMap
  { engine with sourceMap? := sourceMap }.output rendering.result.css

/-- CSS cannot be given its end in one case only: its source map is to be embedded, and holds a surrogate. -/
theorem Css.finish_eq_error_iff {reference : Reference} {sourceMap : Option Wide} {css : String} {failure : Failure} :
    finish reference sourceMap css = .error failure ↔
      failure = .unencodable ∧ reference = .embedded ∧ ∃ text, sourceMap = some text ∧ text.toChars? = none := by
  cases sourceMap with
  | none => simp [finish]
  | some text =>
      cases reference with
      | omitted => simp [finish]
      | file name => simp [finish]
      | embedded =>
          cases hchars : text.toChars? with
          | none =>
              have hfails : finish .embedded (some text) css = .error .unencodable := by
                rw [finish, octets, hchars]
                rfl
              simp [hfails, hchars, eq_comm]
          | some chars =>
              have hreturns : ∃ ended, finish .embedded (some text) css = .ok ended := by
                rw [finish, octets, hchars]
                exact ⟨_, rfl⟩
              obtain ⟨ended, hended⟩ := hreturns
              simp [hended, hchars]

theorem Engine.output_eq_error_iff {engine : Engine κ ι} {css : String} {failure : Failure} :
    engine.output css = .error failure ↔ failure = .unencodable ∧ engine.options.quiet = false ∧
      engine.reference = .embedded ∧ ∃ text, engine.sourceMap? = some text ∧ text.toChars? = none := by
  rw [output]
  cases engine.options.quiet with
  | true => simp
  | false =>
      have hmap : (engine.finishCss css).map some = .error failure ↔ engine.finishCss css = .error failure := by
        cases engine.finishCss css <;> simp [Except.map]
      rw [if_neg Bool.false_ne_true, hmap, finishCss, Css.finish_eq_error_iff]
      simp

/-- What is given back depends on the options and on the source map that was kept. -/
theorem Engine.output_eq {engine other : Engine κ ι} {sourceMap : Option Wide}
    (hoptions : other.options = engine.options) (hmap : other.sourceMap? = sourceMap) (css : String) :
    other.output css = { engine with sourceMap? := sourceMap }.output css := by
  rw [output, output, finishCss, finishCss, reference, reference, hoptions, hmap]

namespace Host

/-- What the compiler gives in a render, if the render comes to that. An empty template is not compiled. -/
def rendering? (host : Host κ σ ι) (world : World κ ι) : Option Rendering :=
  if world.engine.template.isTrue then
    match (host.compiled.run world).1 with
    | .ok (url, result) => some ⟨world.surroundings.cwd, url, result⟩
    | .error _ => none
  else none

end Host

theorem World.relativizeSourceMap_text (world : World κ ι) (text : String) :
    (World.relativizeSourceMap (.text text)).run world =
      ((SourceMap.relativizeText world.surroundings.cwd text).map some, world) := by
  have hworld : (Step.get : Step (World κ ι) (World κ ι)).run world = (.ok world, world) := rfl
  refine (Step.run_bind_of_ok hworld _).trans ?_
  cases hrelative : SourceMap.relativizeText world.surroundings.cwd text with
  | ok relative => simp only [hrelative]; rfl
  | error failure => simp only [hrelative]; rfl

theorem World.relativizeSourceMap_run (world : World κ ι) (url : String) (result : CompileResult) :
    (World.relativizeSourceMap ((result.sourceMap.map Datum.text).getD .null)).run world =
      (Rendering.sourceMap ⟨world.surroundings.cwd, url, result⟩, world) := by
  rw [Rendering.sourceMap]
  cases result.sourceMap with
  | none => rfl
  | some text => exact World.relativizeSourceMap_text world text

namespace Host

/-- What a render leads to, by cause: its outcome and the standing after it. -/
inductive RendersTo (host : Host κ σ ι) (world : World κ ι) :
    Except Failure (Option String) → Standing κ → Prop where
  | uncompiled {outcome : Except Failure (Option String)} (hnone : host.rendering? world = none) :
      RendersTo host world outcome world.standing
  | unreadable {rendering : Rendering} {failure : Failure} (hsome : host.rendering? world = some rendering)
      (hdependencies : rendering.dependencies = .error failure) :
      RendersTo host world (.error failure) world.standing
  | refused {rendering : Rendering} {dependencies : List String} {failure : Failure}
      (hsome : host.rendering? world = some rendering) (hdependencies : rendering.dependencies = .ok dependencies)
      (hmap : rendering.sourceMap = .error failure) :
      RendersTo host world (.error failure) { world.standing with dependencies? := some dependencies }
  | kept {rendering : Rendering} {dependencies : List String} {sourceMap : Option Wide}
      (hsome : host.rendering? world = some rendering) (hdependencies : rendering.dependencies = .ok dependencies)
      (hmap : rendering.sourceMap = .ok sourceMap) :
      RendersTo host world ({ world.engine with sourceMap? := sourceMap }.output rendering.result.css)
        { world.standing with dependencies? := some dependencies, sourceMap? := sourceMap, rendered := true }

theorem keepResult_of_unreadable {world : World κ ι} {url : String} {result : CompileResult} {failure : Failure}
    (hdependencies : dependenciesOf url result.loadedUrls = .error failure) :
    (keepResult url result).run world = (.error failure, world) := by
  apply Step.run_bind_of_error
  rw [hdependencies]
  rfl

/-- The dependencies are kept before the source map is made relative, which may fail. -/
theorem keepResult_of_readable {world : World κ ι} {url : String} {result : CompileResult}
    {dependencies : List String} (hdependencies : dependenciesOf url result.loadedUrls = .ok dependencies) :
    (keepResult url result).run world =
      (do
        let sourceMap ← World.relativizeSourceMap ((result.sourceMap.map Datum.text).getD .null)
        World.modifyEngine fun engine => { engine with sourceMap? := sourceMap, rendered := true }
        World.onSurroundings
          (Surroundings.report (.renderCompleted url dependencies.length sourceMap.isSome))).run
        { world with engine := { world.engine with dependencies? := some dependencies } } := by
  have hread : (Step.ofExcept (dependenciesOf url result.loadedUrls) : Step (World κ ι) _).run world =
      (.ok dependencies, world) := by
    rw [hdependencies]
    rfl
  exact (Step.run_bind_of_ok hread _).trans (Step.run_bind_of_ok rfl _)

theorem keepResult_of_refused {world : World κ ι} {url : String} {result : CompileResult}
    {dependencies : List String} {failure : Failure}
    (hdependencies : dependenciesOf url result.loadedUrls = .ok dependencies)
    (hmap : Rendering.sourceMap ⟨world.surroundings.cwd, url, result⟩ = .error failure) :
    (keepResult url result).run world =
      (.error failure, { world with engine := { world.engine with dependencies? := some dependencies } }) := by
  rw [keepResult_of_readable hdependencies]
  apply Step.run_bind_of_error
  rw [World.relativizeSourceMap_run _ url result]
  exact congrArg (·, _) hmap

theorem keepResult_of_accepted {world : World κ ι} {url : String} {result : CompileResult}
    {dependencies : List String} {sourceMap : Option Wide}
    (hdependencies : dependenciesOf url result.loadedUrls = .ok dependencies)
    (hmap : Rendering.sourceMap ⟨world.surroundings.cwd, url, result⟩ = .ok sourceMap) :
    ∃ after, (keepResult url result).run world = (.ok (), after) ∧ after.standing =
      { world.standing with dependencies? := some dependencies, sourceMap? := sourceMap, rendered := true } := by
  have hrelative := World.relativizeSourceMap_run
    { world with engine := { world.engine with dependencies? := some dependencies } } url result
  rw [hmap] at hrelative
  rw [keepResult_of_readable hdependencies, Step.run_bind_of_ok hrelative]
  exact ⟨_, rfl, rfl⟩

theorem giveBack_run (world : World κ ι) (css : String) :
    (giveBack css).run world = (world.engine.output css, world) :=
  rfl

/-- Every render leads to its outcome and to the standing after it. -/
theorem rendersTo_render (host : Host κ σ ι) (world : World κ ι) :
    host.RendersTo world (host.render.run world).1 (host.render.run world).2.standing := by
  have hget : (Step.get : Step (World κ ι) (World κ ι)).run world = (.ok world, world) := rfl
  rw [render, Step.run_bind_of_ok hget]
  by_cases htemplate : world.engine.template.isTrue
  · rw [if_pos htemplate, renderTemplate_eq]
    have hkeeps := host.compiled_keeps world
    rcases hcompiled : host.compiled.run world with ⟨failure | ⟨url, result⟩, compiled⟩
    · rw [hcompiled] at hkeeps
      rw [Step.run_bind_of_error hcompiled, hkeeps]
      apply RendersTo.uncompiled
      rw [rendering?, if_pos htemplate, hcompiled]
    · rw [hcompiled] at hkeeps
      have hcwd : compiled.surroundings.cwd = world.surroundings.cwd := congrArg Standing.cwd hkeeps
      have hsome : host.rendering? world = some ⟨world.surroundings.cwd, url, result⟩ := by
        rw [rendering?, if_pos htemplate, hcompiled]
      rw [Step.run_bind_of_ok hcompiled]
      cases hdependencies : dependenciesOf url result.loadedUrls with
      | error failure =>
          rw [Step.run_bind_of_error (keepResult_of_unreadable hdependencies), hkeeps]
          exact .unreadable hsome hdependencies
      | ok dependencies =>
          cases hmap : Rendering.sourceMap ⟨compiled.surroundings.cwd, url, result⟩ with
          | error failure =>
              rw [Step.run_bind_of_error (keepResult_of_refused hdependencies hmap)]
              change host.RendersTo world (.error failure)
                { World.standing compiled with dependencies? := some dependencies }
              rw [hcwd] at hmap
              rw [hkeeps]
              exact .refused hsome hdependencies hmap
          | ok sourceMap =>
              obtain ⟨after, hrun, hafter⟩ := keepResult_of_accepted hdependencies hmap
              have hoptions : after.engine.options = world.engine.options :=
                (congrArg Standing.options hafter).trans (congrArg Standing.options hkeeps)
              have hkept : after.engine.sourceMap? = sourceMap := congrArg Standing.sourceMap? hafter
              rw [Step.run_bind_of_ok hrun, giveBack_run, Engine.output_eq hoptions hkept, hafter, hkeeps]
              rw [hcwd] at hmap
              exact .kept hsome hdependencies hmap
  · rw [if_neg htemplate]
    apply RendersTo.uncompiled
    rw [rendering?, if_neg htemplate]

end Host

/-- A call of `render`: what the host supplies, the surroundings of that time and what the bag holds by then. -/
structure Occasion (κ σ ι : Type) where
  host : Host κ σ ι
  surroundings : Surroundings κ
  bag : Bag

namespace Engine

def worldOn (engine : Engine κ ι) (occasion : Occasion κ σ ι) : World κ ι :=
  ⟨occasion.surroundings, { engine with bag := occasion.bag }⟩

/-- The outcome of a render, and the engine after it. -/
def renderOn (engine : Engine κ ι) (occasion : Occasion κ σ ι) : Except Failure (Option String) × Engine κ ι :=
  let (outcome, world) := occasion.host.render.run (engine.worldOn occasion)
  (outcome, world.engine)

/-- The engine after some renders. -/
def afterAll : Engine κ ι → List (Occasion κ σ ι) → Engine κ ι
  | engine, [] => engine
  | engine, occasion :: occasions => afterAll (engine.renderOn occasion).2 occasions

/-- The last of what is seen of some renders. -/
def lastOf {α : Type} (seen? : Engine κ ι → Occasion κ σ ι → Option α) :
    Engine κ ι → List (Occasion κ σ ι) → Option α
  | _, [] => none
  | engine, occasion :: occasions =>
    (lastOf seen? (engine.renderOn occasion).2 occasions).or (seen? engine occasion)

/-- What the compiler gave in a render that returned. -/
def returned? (engine : Engine κ ι) (occasion : Occasion κ σ ι) : Option Rendering :=
  if (engine.renderOn occasion).1.isOk then occasion.host.rendering? (engine.worldOn occasion) else none

/-- The dependencies of what the compiler gave, whether the render returned or not. -/
def read? (engine : Engine κ ι) (occasion : Occasion κ σ ι) : Option (List String) :=
  (occasion.host.rendering? (engine.worldOn occasion)).bind (·.dependencies.toOption)

/-- The source map of what the compiler gave, where it was kept, whether the render returned or not. -/
def kept? (engine : Engine κ ι) (occasion : Occasion κ σ ι) : Option (Option Wide) :=
  (occasion.host.rendering? (engine.worldOn occasion)).bind fun rendering =>
    if rendering.dependencies.isOk then rendering.sourceMap.toOption else none

/-- Whether an engine shows both properties of a rendering, or neither property if there is none. -/
def Shows (engine : Engine κ ι) : Option Rendering → Prop
  | none =>
    engine.dependencies = .error (.notRendered "dependencies") ∧
      engine.sourceMap = .error (.notRendered "source_map")
  | some rendering =>
    ∃ dependencies sourceMap, rendering.dependencies = .ok dependencies ∧ rendering.sourceMap = .ok sourceMap ∧
      engine.dependencies = .ok dependencies ∧ engine.sourceMap = .ok sourceMap

/-- How an engine reflects its renders: the dependencies that were read last, and the source map that was kept last. -/
structure Reflects (engine : Engine κ ι) (read? : Option (List String)) (kept? : Option (Option Wide)) : Prop where
  rendered : engine.rendered = kept?.isSome
  dependencies? : engine.dependencies? = read?
  sourceMap? : ∀ sourceMap, kept? = some sourceMap → engine.sourceMap? = sourceMap
  known : kept?.isSome → read?.isSome

section New

variable {template : Datum} {options more : Bag} {compiler? : Option κ} {importer : Held ι} {engine : Engine κ ι}

theorem eq_of_ofOptions (hnew : ofOptions template options more compiler? importer = .ok engine) :
    ∃ read, EngineOptions.ofBag (options.merge more) = .ok read ∧
      engine = ⟨template, options.merge more, read, compiler?, importer, none, none, none, false⟩ := by
  rw [ofOptions] at hnew
  split at hnew
  · cases hnew
  · cases hoptions : EngineOptions.ofBag (options.merge more) with
    | error failure =>
        simp only [hoptions] at hnew
        cases hnew
    | ok read =>
        simp only [hoptions] at hnew
        exact ⟨read, rfl, (Except.ok.inj hnew).symm⟩

theorem reflects_ofOptions (hnew : ofOptions template options more compiler? importer = .ok engine) :
    engine.Reflects none none := by
  obtain ⟨read, -, rfl⟩ := eq_of_ofOptions hnew
  exact ⟨rfl, rfl, nofun, nofun⟩

end New

section Occasions

variable {engine : Engine κ ι} {occasion : Occasion κ σ ι} {rendering : Rendering} {dependencies : List String}
  {sourceMap : Option Wide} {failure : Failure} {known? : Option (List String)} {shown? : Option (Option Wide)}

theorem read?_of_ok (hsome : occasion.host.rendering? (engine.worldOn occasion) = some rendering)
    (hread : rendering.dependencies = .ok dependencies) : engine.read? occasion = some dependencies := by
  rw [read?, hsome, Option.bind_some, hread]
  rfl

theorem read?_of_error (hsome : occasion.host.rendering? (engine.worldOn occasion) = some rendering)
    (hunreadable : rendering.dependencies = .error failure) : engine.read? occasion = none := by
  rw [read?, hsome, Option.bind_some, hunreadable]
  rfl

theorem kept?_of_ok (hsome : occasion.host.rendering? (engine.worldOn occasion) = some rendering)
    (hread : rendering.dependencies = .ok dependencies) :
    engine.kept? occasion = rendering.sourceMap.toOption := by
  rw [kept?, hsome, Option.bind_some, hread]
  rfl

theorem kept?_of_error (hsome : occasion.host.rendering? (engine.worldOn occasion) = some rendering)
    (hunreadable : rendering.dependencies = .error failure) : engine.kept? occasion = none := by
  rw [kept?, hsome, Option.bind_some, hunreadable]
  rfl

theorem Reflects.congr {other : Engine κ ι} (hreflects : engine.Reflects known? shown?)
    (hrendered : other.rendered = engine.rendered)
    (hdependencies : other.dependencies? = engine.dependencies?) (hmap : other.sourceMap? = engine.sourceMap?) :
    other.Reflects known? shown? where
  rendered := hrendered.trans hreflects.rendered
  dependencies? := hdependencies.trans hreflects.dependencies?
  sourceMap? sourceMap hshown := by rw [hmap, hreflects.sourceMap? sourceMap hshown]
  known := hreflects.known

/-- One render. A result whose source map was refused is read, but not kept. -/
theorem reflects_renderOn (hreflects : engine.Reflects known? shown?) (occasion : Occasion κ σ ι) :
    (engine.renderOn occasion).2.Reflects ((engine.read? occasion).or known?) ((engine.kept? occasion).or shown?) := by
  have hto := occasion.host.rendersTo_render (engine.worldOn occasion)
  rcases hrun : occasion.host.render.run (engine.worldOn occasion) with ⟨outcome, world⟩
  have hrender : engine.renderOn occasion = (outcome, world.engine) := by rw [renderOn, hrun]
  rw [hrun] at hto
  rw [hrender]
  generalize hstanding : world.standing = standing at hto
  have hrendered : world.engine.rendered = standing.rendered := congrArg Standing.rendered hstanding
  have hdependencies : world.engine.dependencies? = standing.dependencies? :=
    congrArg Standing.dependencies? hstanding
  have hmap : world.engine.sourceMap? = standing.sourceMap? := congrArg Standing.sourceMap? hstanding
  cases hto with
  | uncompiled hnone =>
      rw [read?, kept?, hnone]
      exact hreflects.congr hrendered hdependencies hmap
  | @unreadable rendering failure hsome hunreadable =>
      rw [read?_of_error hsome hunreadable, kept?_of_error hsome hunreadable]
      exact hreflects.congr hrendered hdependencies hmap
  | @refused rendering dependencies failure hsome hread hrefused =>
      rw [read?_of_ok hsome hread, kept?_of_ok hsome hread, hrefused]
      exact {
        rendered := hrendered.trans hreflects.rendered
        dependencies? := hdependencies
        sourceMap? := fun sourceMap hshown => by rw [hmap]; exact hreflects.sourceMap? sourceMap hshown
        known := fun _ => rfl }
  | @kept rendering dependencies sourceMap hsome hread haccepted =>
      rw [read?_of_ok hsome hread, kept?_of_ok hsome hread, haccepted]
      exact {
        rendered := hrendered
        dependencies? := hdependencies
        sourceMap? := fun shown hshown => hmap.trans (Option.some.inj hshown)
        known := fun _ => rfl }

/-- A render that returned, if it compiled, was read and kept. -/
theorem kept_of_returned (hreturned : engine.returned? occasion = some rendering) :
    ∃ dependencies sourceMap, rendering.dependencies = .ok dependencies ∧ rendering.sourceMap = .ok sourceMap ∧
      engine.read? occasion = some dependencies ∧ engine.kept? occasion = some sourceMap := by
  rw [returned?] at hreturned
  split at hreturned
  swap
  · cases hreturned
  next hok =>
  have hto := occasion.host.rendersTo_render (engine.worldOn occasion)
  change (occasion.host.render.run (engine.worldOn occasion)).1.isOk = true at hok
  generalize (occasion.host.render.run (engine.worldOn occasion)).1 = outcome at hto hok
  generalize (occasion.host.render.run (engine.worldOn occasion)).2.standing = standing at hto
  cases hto with
  | uncompiled hnone =>
      rw [hnone] at hreturned
      cases hreturned
  | unreadable hsome hunreadable => cases hok
  | refused hsome hread hrefused => cases hok
  | @kept _ dependencies sourceMap hsome hread haccepted =>
      obtain rfl := Option.some.inj (hsome.symm.trans hreturned)
      refine ⟨dependencies, sourceMap, hread, haccepted, read?_of_ok hsome hread, ?_⟩
      rw [kept?_of_ok hsome hread, haccepted]
      rfl

/-- A render that fails although its dependencies were read fails on its source map: this is refused, or it is kept and
cannot be embedded. -/
theorem sourceMap_of_failed (hfailed : (engine.renderOn occasion).1 = .error failure)
    (hread : engine.read? occasion = some dependencies) :
    ∃ rendering, occasion.host.rendering? (engine.worldOn occasion) = some rendering ∧
      (engine.kept? occasion = none ∧ rendering.sourceMap = .error failure ∨
        ∃ text, engine.kept? occasion = some (some text) ∧ text.toChars? = none ∧ failure = .unencodable ∧
          engine.options.quiet = false ∧ engine.reference = .embedded) := by
  have hto := occasion.host.rendersTo_render (engine.worldOn occasion)
  have houtcome : (occasion.host.render.run (engine.worldOn occasion)).1 = .error failure := hfailed
  generalize (occasion.host.render.run (engine.worldOn occasion)).1 = outcome at hto houtcome
  generalize (occasion.host.render.run (engine.worldOn occasion)).2.standing = standing at hto
  cases hto with
  | uncompiled hnone =>
      rw [read?, hnone] at hread
      cases hread
  | unreadable hsome hunreadable =>
      rw [read?_of_error hsome hunreadable] at hread
      cases hread
  | @refused rendering _ _ hsome hdependencies hrefused =>
      obtain rfl := Except.error.inj houtcome
      refine ⟨rendering, hsome, Or.inl ⟨?_, hrefused⟩⟩
      rw [kept?_of_ok hsome hdependencies, hrefused]
      rfl
  | @kept rendering _ sourceMap hsome hdependencies haccepted =>
      obtain ⟨rfl, hquiet, hreference, text, htext, hchars⟩ := output_eq_error_iff.mp houtcome
      obtain rfl : sourceMap = some text := htext
      refine ⟨rendering, hsome, Or.inr ⟨text, ?_, hchars, rfl, hquiet, hreference⟩⟩
      rw [kept?_of_ok hsome hdependencies, haccepted]
      rfl

theorem reflects_afterAll (hreflects : engine.Reflects known? shown?) (occasions : List (Occasion κ σ ι)) :
    (engine.afterAll occasions).Reflects ((engine.lastOf read? occasions).or known?)
      ((engine.lastOf kept? occasions).or shown?) := by
  induction occasions generalizing engine known? shown? with
  | nil => exact hreflects
  | cons occasion occasions ih =>
      rw [lastOf, lastOf, Option.or_assoc, Option.or_assoc]
      exact ih (reflects_renderOn hreflects occasion)

/-- The last render that returned was read and kept, unless it did not compile; then there may have been others
since. -/
theorem lastOf_returned {occasions : List (Occasion κ σ ι)}
    (hlast : engine.lastOf returned? occasions = some rendering) :
    ∃ dependencies sourceMap, rendering.dependencies = .ok dependencies ∧ rendering.sourceMap = .ok sourceMap ∧
      (engine.lastOf kept? occasions).isSome := by
  induction occasions generalizing engine with
  | nil => cases hlast
  | cons occasion occasions ih =>
      rw [lastOf] at hlast ⊢
      rcases Option.or_eq_some_iff.mp hlast with hlater | ⟨-, hreturned⟩
      · obtain ⟨dependencies, sourceMap, hread, hmap, hkept⟩ := ih hlater
        exact ⟨dependencies, sourceMap, hread, hmap, by rw [Option.isSome_or, hkept]; rfl⟩
      · obtain ⟨dependencies, sourceMap, hread, hmap, -, hkept⟩ := kept_of_returned hreturned
        exact ⟨dependencies, sourceMap, hread, hmap, by rw [Option.isSome_or, hkept, Bool.or_comm]; rfl⟩

end Occasions

namespace Reflects

variable {engine : Engine κ ι} {known? : Option (List String)}

/-- Before the first source map is kept nothing is shown. -/
theorem shows_none (hreflects : engine.Reflects known? none) : engine.Shows none := by
  have hrendered : engine.rendered = false := hreflects.rendered
  constructor
  · rw [Engine.dependencies, hrendered]
  · rw [Engine.sourceMap, hrendered]
    rfl

/-- After it the last one is shown, with the dependencies that were read last. -/
theorem shown_of_some {sourceMap : Option Wide} (hreflects : engine.Reflects known? (some sourceMap)) :
    ∃ known, known? = some known ∧ engine.sourceMap = .ok sourceMap ∧ engine.dependencies = .ok known := by
  have hrendered : engine.rendered = true := hreflects.rendered
  obtain ⟨known, hknown⟩ := Option.isSome_iff_exists.mp (hreflects.known rfl)
  refine ⟨known, hknown, ?_, ?_⟩
  · rw [Engine.sourceMap, hrendered, hreflects.sourceMap? sourceMap rfl]
    rfl
  · rw [Engine.dependencies, hrendered, hreflects.dependencies?, hknown]

theorem shows_iff {returned? : Option Rendering} {kept? : Option (Option Wide)}
    (hreflects : engine.Reflects known? kept?)
    (hreturned : ∀ rendering, returned? = some rendering → kept?.isSome) :
    engine.Shows returned? ↔ (returned? = none → kept? = none) ∧ ∀ rendering, returned? = some rendering →
      ∃ dependencies sourceMap, rendering.dependencies = .ok dependencies ∧ rendering.sourceMap = .ok sourceMap ∧
        known? = some dependencies ∧ kept? = some sourceMap := by
  cases kept? with
  | none =>
      cases returned? with
      | none => exact iff_of_true hreflects.shows_none ⟨fun _ => rfl, nofun⟩
      | some rendering => cases hreturned rendering rfl
  | some shown =>
      obtain ⟨known, rfl, hmap, hdependencies⟩ := hreflects.shown_of_some
      cases returned? with
      | none =>
          refine iff_of_false ?_ fun hnone => nomatch hnone.1 rfl
          rintro ⟨-, hneither⟩
          rw [hmap] at hneither
          cases hneither
      | some rendering =>
          rw [Shows, hmap, hdependencies]
          constructor
          · rintro ⟨others, otherMap, hothers, hother, hknown, hshown⟩
            refine ⟨nofun, fun returned hreturned => ?_⟩
            obtain rfl := Option.some.inj hreturned
            exact ⟨others, otherMap, hothers, hother, congrArg some (Except.ok.inj hknown),
              congrArg some (Except.ok.inj hshown)⟩
          · rintro ⟨-, hall⟩
            obtain ⟨others, otherMap, hothers, hother, hknown, hshown⟩ := hall rendering rfl
            exact ⟨others, otherMap, hothers, hother, congrArg Except.ok (Option.some.inj hknown),
              congrArg Except.ok (Option.some.inj hshown)⟩

theorem ok_getD_eq_iff {α : Type} {next? : Option α} {shown : α} :
    (.ok (next?.getD shown) : Except Failure α) = .ok shown ↔ ∀ next, next? = some next → some shown = some next := by
  cases next? with
  | none => exact iff_of_true rfl nofun
  | some next => simp [eq_comm]

/-- What one more render leaves as it was. The source map is another one if another one was kept. So are the
dependencies if others were read, once anything is shown; and they are shown from when the first source map is kept. -/
theorem keeps_iff {kept? : Option (Option Wide)} (hreflects : engine.Reflects known? kept?)
    (occasion : Occasion κ σ ι) :
    ((engine.renderOn occasion).2.sourceMap = engine.sourceMap ↔
      ∀ sourceMap, engine.kept? occasion = some sourceMap → kept? = some sourceMap) ∧
    ((engine.renderOn occasion).2.dependencies = engine.dependencies ↔
      (kept? = none → engine.kept? occasion = none) ∧
        (kept?.isSome → ∀ read, engine.read? occasion = some read → known? = some read)) := by
  have hnext := reflects_renderOn hreflects occasion
  cases kept? with
  | none =>
      obtain ⟨hdependencies, hmap⟩ := hreflects.shows_none
      rw [hdependencies, hmap]
      cases hkept : engine.kept? occasion with
      | none =>
          rw [hkept] at hnext
          obtain ⟨hdependencies, hmap⟩ := hnext.shows_none
          rw [hdependencies, hmap]
          exact ⟨iff_of_true rfl (by simp), iff_of_true rfl ⟨fun _ => rfl, by simp⟩⟩
      | some sourceMap =>
          rw [hkept] at hnext
          obtain ⟨known, -, hmap, hdependencies⟩ := hnext.shown_of_some
          rw [hdependencies, hmap]
          constructor
          · refine iff_of_false nofun fun hall => ?_
            cases hall sourceMap rfl
          · refine iff_of_false nofun fun hall => ?_
            cases hall.1 rfl
  | some shown =>
      obtain ⟨known, rfl, hmap, hdependencies⟩ := hreflects.shown_of_some
      rw [Option.or_some, Option.or_some] at hnext
      obtain ⟨knownNext, hknown, hmapNext, hdependenciesNext⟩ := hnext.shown_of_some
      obtain rfl := Option.some.inj hknown
      rw [hmap, hdependencies, hmapNext, hdependenciesNext]
      exact ⟨ok_getD_eq_iff, ok_getD_eq_iff.trans ⟨fun hall => ⟨nofun, fun _ => hall⟩, fun hall => hall.2 rfl⟩⟩

end Reflects

/-- An engine shows its last render that returned exactly if that has the dependencies which were read last and the
source map which was kept last; and shows nothing before the first exactly if no source map was kept. What it shows are
always the dependencies that were read last and the source map that was kept last. A render that fails can change both,
and if it came to read dependencies it failed on its source map, which was refused or could not be embedded. -/
theorem shows_last_iff {template : Datum} {options more : Bag} {compiler? : Option κ} {importer : Held ι}
    {engine : Engine κ ι} (hnew : ofOptions template options more compiler? importer = .ok engine)
    (occasions : List (Occasion κ σ ι)) :
    let after := engine.afterAll occasions
    let last? := engine.lastOf returned? occasions
    let known? := engine.lastOf read? occasions
    let shown? := engine.lastOf kept? occasions
    (after.Shows last? ↔ (last? = none → shown? = none) ∧ ∀ rendering, last? = some rendering →
      ∃ dependencies sourceMap, rendering.dependencies = .ok dependencies ∧ rendering.sourceMap = .ok sourceMap ∧
        known? = some dependencies ∧ shown? = some sourceMap) ∧
    (∀ rendering, last? = some rendering → ∃ dependencies sourceMap,
      rendering.dependencies = .ok dependencies ∧ rendering.sourceMap = .ok sourceMap ∧ shown?.isSome) ∧
    (shown? = none → after.Shows none) ∧
    (∀ sourceMap, shown? = some sourceMap → ∃ known, known? = some known ∧ after.sourceMap = .ok sourceMap ∧
      after.dependencies = .ok known) ∧
    ∀ (occasion : Occasion κ σ ι) (failure : Failure), (after.renderOn occasion).1 = .error failure →
      ((after.renderOn occasion).2.sourceMap = after.sourceMap ↔
        ∀ sourceMap, after.kept? occasion = some sourceMap → shown? = some sourceMap) ∧
      ((after.renderOn occasion).2.dependencies = after.dependencies ↔
        (shown? = none → after.kept? occasion = none) ∧
          (shown?.isSome → ∀ read, after.read? occasion = some read → known? = some read)) ∧
      ∀ read, after.read? occasion = some read → ∃ rendering,
        occasion.host.rendering? (after.worldOn occasion) = some rendering ∧
          (after.kept? occasion = none ∧ rendering.sourceMap = .error failure ∨
            ∃ text, after.kept? occasion = some (some text) ∧ text.toChars? = none ∧ failure = .unencodable ∧
              after.options.quiet = false ∧ after.reference = .embedded) := by
  intro after last? known? shown?
  have hreflects : after.Reflects known? shown? := by
    have hall := reflects_afterAll (reflects_ofOptions hnew) occasions
    rwa [Option.or_none, Option.or_none] at hall
  have hreturned : ∀ rendering, last? = some rendering → ∃ dependencies sourceMap,
      rendering.dependencies = .ok dependencies ∧ rendering.sourceMap = .ok sourceMap ∧ shown?.isSome :=
    fun rendering hlast => lastOf_returned hlast
  refine ⟨hreflects.shows_iff fun rendering hlast => ?_, hreturned, ?_, ?_, ?_⟩
  · obtain ⟨-, -, -, -, hshown⟩ := hreturned rendering hlast
    exact hshown
  · intro hnone
    rw [hnone] at hreflects
    exact hreflects.shows_none
  · intro sourceMap hshown
    rw [hshown] at hreflects
    exact hreflects.shown_of_some
  · intro occasion failure hfailed
    obtain ⟨hmap, hdependencies⟩ := hreflects.keeps_iff occasion
    exact ⟨hmap, hdependencies, fun read hread => sourceMap_of_failed hfailed hread⟩

/-- A new engine with a compiler and no options. -/
def plain : Engine Unit Unit where
  template := .text "a { b: c }"
  bag := []
  options := {
    filename := none
    language := "scss"
    style := .text "sass_style_nested"
    loadPaths := []
    sourceMapFile := none
    sourceMapContents := false
    sourceMapEmbed := false
    omitSourceMapUrl := false
    functions := .null
    importer := .null
    alertAscii := false
    alertColor := none
    logger := .null
    quietDeps := false
    verbose := false
    quiet := false
    extra := [] }
  compiler? := some ()
  importer := ⟨(), .shared⟩
  fileUrl? := none
  dependencies? := none
  sourceMap? := none
  rendered := false

theorem ofOptions_plain : ofOptions (.text "a { b: c }") [] [] (some ()) ⟨(), .shared⟩ = .ok plain := by
  rfl

/-- An importer that gives nothing of use. -/
def idleImporter : LegacyImporter Unit where
  initial := ()
  make _ := .ok ⟨(), .shared⟩
  imports _ receiver := (.ok .other, receiver)

/-- A render whose compiler comes to one outcome, whatever it is asked. -/
def compilingTo (outcome : Except Failure CompileResult) : Occasion Unit Unit Unit where
  host := ⟨⟨"Functions", (), [], fun _ _ => none⟩, idleImporter, fun _ => true, fun _ _ => .done outcome⟩
  surroundings := .start "/work/project" [] ⟨none, []⟩
  bag := []

/-- A result with a source map. -/
def acceptedResult : CompileResult :=
  ⟨"a", some "\x7b\x7d", ["file:///work/project/first.scss"]⟩

/-- A result with a source map that is no document. -/
def refusedResult : CompileResult :=
  ⟨"a", some "", ["file:///work/project/second.scss"]⟩

/-- A render that does not compile leaves the engine with what it showed before. -/
theorem shows_last_iff_uncompiled :
    let after := plain.afterAll [compilingTo (.ok acceptedResult)]
    let uncompiled := after.renderOn (compilingTo (.error (.compilation "boom" none)))
    after.Shows (some ⟨"/work/project", "file:///work/project/stdin", acceptedResult⟩) ∧
      (∃ failure, uncompiled.1 = .error failure) ∧
      uncompiled.2.sourceMap = after.sourceMap ∧ uncompiled.2.dependencies = after.dependencies := by
  intro after uncompiled
  have hlast : plain.lastOf returned? [compilingTo (.ok acceptedResult)] =
      some ⟨"/work/project", "file:///work/project/stdin", acceptedResult⟩ := by decide +kernel
  have hknown : plain.lastOf read? [compilingTo (.ok acceptedResult)] = some ["/work/project/first.scss"] := by
    decide +kernel
  have hshown : plain.lastOf kept? [compilingTo (.ok acceptedResult)] = some (some (.ofString "\x7b\x7d")) := by
    decide +kernel
  have hunread : after.read? (compilingTo (.error (.compilation "boom" none))) = none := by decide +kernel
  have hunkept : after.kept? (compilingTo (.error (.compilation "boom" none))) = none := by decide +kernel
  obtain ⟨failure, hfailed⟩ := Lists.exists_error_of_isOk (by decide +kernel : uncompiled.1.isOk = false)
  obtain ⟨hshows, -, -, -, hfails⟩ := shows_last_iff ofOptions_plain [compilingTo (.ok acceptedResult)]
  rw [hlast, hknown, hshown] at hshows
  obtain ⟨hmap, hdependencies, -⟩ := hfails _ failure hfailed
  refine ⟨hshows.mpr ⟨nofun, ?_⟩, ⟨failure, hfailed⟩, hmap.mpr ?_, hdependencies.mpr ⟨fun _ => hunkept, ?_⟩⟩
  · intro rendering hrendering
    obtain rfl := Option.some.inj hrendering
    exact ⟨_, _, by cbv, by cbv, rfl, rfl⟩
  · intro sourceMap hkept
    rw [hunkept] at hkept
    cases hkept
  · intro _ read hread
    rw [hunread] at hread
    cases hread

/-- A result whose source map holds a surrogate. -/
def surrogateResult : CompileResult :=
  ⟨"a", some "\x7b\"file\": \"\\ud800\"\x7d", ["file:///work/project/third.scss"]⟩

/-- A render that fails on embedding has been kept whole. -/
example :
    let embedding := { plain with options := { plain.options with sourceMapEmbed := true } }
    let (outcome, after) := embedding.renderOn (compilingTo (.ok surrogateResult))
    outcome.isOk = false ∧ after.rendered = true ∧ after.dependencies? = some ["/work/project/third.scss"] ∧
      after.sourceMap?.any (·.toChars?.isNone) = true := by
  decide +kernel

/-- After a result whose source map is refused the engine shows its dependencies, with the source map of the result
before it. -/
theorem refused_result_shown :
    let occasions := [compilingTo (.ok acceptedResult), compilingTo (.ok refusedResult)]
    plain.lastOf returned? occasions = some ⟨"/work/project", "file:///work/project/stdin", acceptedResult⟩ ∧
      (plain.afterAll occasions).dependencies = .ok ["/work/project/second.scss"] ∧
      (plain.afterAll occasions).sourceMap = .ok (some "\x7b\x7d") ∧
      ¬(plain.afterAll occasions).Shows (plain.lastOf returned? occasions) := by
  intro occasions
  have hlast : plain.lastOf returned? occasions =
      some ⟨"/work/project", "file:///work/project/stdin", acceptedResult⟩ := by decide +kernel
  have hrendered : (plain.afterAll occasions).rendered = true := by decide +kernel
  have hdependencies? : (plain.afterAll occasions).dependencies? = some ["/work/project/second.scss"] := by
    decide +kernel
  have hmap? : (plain.afterAll occasions).sourceMap? = some "\x7b\x7d" := by decide +kernel
  have hdependencies : (plain.afterAll occasions).dependencies = .ok ["/work/project/second.scss"] := by
    rw [Engine.dependencies, hrendered, hdependencies?]
  refine ⟨hlast, hdependencies, ?_, ?_⟩
  · rw [Engine.sourceMap, hrendered, hmap?]
    rfl
  · rw [hlast]
    rintro ⟨dependencies, sourceMap, hread, -, hshown, -⟩
    have hfirst : Rendering.dependencies ⟨"/work/project", "file:///work/project/stdin", acceptedResult⟩ =
        .ok ["/work/project/first.scss"] := by cbv
    rw [hfirst] at hread
    rw [hdependencies] at hshown
    have hsame : ["/work/project/second.scss"] = ["/work/project/first.scss"] :=
      (Except.ok.inj hshown).trans (Except.ok.inj hread).symm
    exact absurd hsame (by decide)

end Engine

end SassBridge
