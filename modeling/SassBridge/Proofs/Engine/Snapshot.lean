import SassBridge.Proofs.Engine.LastResult
import SassBridge.Proofs.Engine.Requests

/-! The options of an engine are a snapshot. Functions write to the bag that the options came from, in the middle of a
render or between renders; what the compiler is asked and what becomes of its result is settled by the options that were
read when the engine was made. -/

namespace SassBridge

variable {κ σ ι : Type}

/-! What the options say of a request. -/

namespace Engine

/-- The table of the functions that an engine announces, where its host has a function set with the given table. -/
def announced (engine : Engine κ ι) (table : Except Failure FunctionTable) : Except Failure FunctionTable :=
  match engine.options.functions with
  | .host .functionSet => table
  | _ => .ok []

theorem announced_of_eq {engine : Engine κ ι} {table : Except Failure FunctionTable}
    (hnamed : engine.options.functions = .host .functionSet) : engine.announced table = table := by
  rw [announced, hnamed]

theorem announced_of_ne {engine : Engine κ ι} {table : Except Failure FunctionTable}
    (hnamed : engine.options.functions ≠ .host .functionSet) : engine.announced table = .ok [] := by
  rw [announced]
  split
  · contradiction
  · rfl

/-- Whether a request says what the template and the options of an engine say. Importers are left out, because it is
the bag that names them. -/
structure Settles (engine : Engine κ ι) (url : String) (shared : List String) (table : Except Failure FunctionTable)
    (request : Request) : Prop where
  source : Field.text engine.template = .ok request.source
  language : Language.ofName? engine.languageName = some request.language
  url : request.url = url
  loadPaths : request.loadPaths = engine.options.loadPaths ++ shared
  style : engine.style = .ok request.style
  sourceMap : request.sourceMap = engine.options.sourceMapFile.isSome
  includeSources : request.includeSources = engine.options.sourceMapContents
  functions : (engine.announced table).map FunctionTable.signatures = .ok request.functions
  alertAscii : request.alertAscii = engine.options.alertAscii
  alertColor : request.alertColor = engine.options.alertColor
  logger : request.logger = engine.options.logger
  quietDeps : request.quietDeps = engine.options.quietDeps
  verbose : request.verbose = engine.options.verbose

/-- Engines with the same template and options. -/
structure SameOptions (engine other : Engine κ ι) : Prop where
  template : engine.template = other.template
  options : engine.options = other.options

namespace SameOptions

variable {engine other : Engine κ ι}

theorem refl (engine : Engine κ ι) : engine.SameOptions engine :=
  ⟨rfl, rfl⟩

theorem trans {last : Engine κ ι} (hsame : engine.SameOptions other) (hlast : other.SameOptions last) :
    engine.SameOptions last :=
  ⟨hsame.template.trans hlast.template, hsame.options.trans hlast.options⟩

theorem style_eq (hsame : engine.SameOptions other) : engine.style = other.style := by
  rw [style, style, hsame.options]

theorem filename_eq (hsame : engine.SameOptions other) : engine.filename = other.filename := by
  rw [filename, filename, hsame.options]

theorem announced_eq (hsame : engine.SameOptions other) : engine.announced = other.announced := by
  funext table
  rw [announced, announced, hsame.options]

theorem treat_eq (hsame : engine.SameOptions other) : engine.treat = other.treat := by
  funext rendering
  have houtput : ∀ sourceMap : Option Wide, { engine with sourceMap? := sourceMap }.output rendering.result.css =
      { other with sourceMap? := sourceMap }.output rendering.result.css := by
    intro sourceMap
    have hoptions : { engine with sourceMap? := sourceMap }.options = other.options := hsame.options
    exact output_eq hoptions rfl _
  simp only [treat, houtput]

end SameOptions

end Engine

namespace Host

theorem table_emptySet (host : Host κ σ ι) : host.emptySet.table = .ok [] := by
  rw [FunctionSet.table, FunctionSet.names]
  simp [emptySet]
  rfl

theorem functionSet_of_ne (host : Host κ σ ι) {named : Datum} (hnamed : named ≠ .host .functionSet) :
    host.functionSet named = if named.isTrue then .error .wrongType else .ok host.emptySet :=
  functionSet.eq_2 host named hnamed

theorem announced_of_functionSet {host : Host κ σ ι} {engine : Engine κ ι} {table : FunctionTable}
    (htable : host.functionSet engine.options.functions >>= FunctionSet.table = .ok table) :
    engine.announced host.functions.table = .ok table := by
  obtain ⟨set, hset, htable⟩ := Lists.bind_ok_iff.mp htable
  by_cases hnamed : engine.options.functions = .host .functionSet
  · rw [hnamed] at hset
    obtain rfl : host.functions = set := Except.ok.inj hset
    rw [Engine.announced_of_eq hnamed]
    exact htable
  · rw [functionSet_of_ne host hnamed] at hset
    split at hset
    · cases hset
    · obtain rfl := Except.ok.inj hset
      rw [Engine.announced_of_ne hnamed, ← htable, table_emptySet]

/-- A request that can be made says what the options say. -/
theorem settles_of_request {engine : Engine κ ι} {url : String} {shared : List String} {style : OutputStyle}
    {session : Session σ ι} {table : Except Failure FunctionTable} {made : Request}
    (hrequest : request engine (engine.options.loadPaths ++ shared) url style session = .ok made)
    (hstyle : engine.style = .ok style) (hannounced : engine.announced table = .ok session.functions.table) :
    engine.Settles url shared table made := by
  rw [request, requestSource, Validation.check, requestLanguage] at hrequest
  cases hlanguage : Language.ofName? engine.languageName with
  | none => cases hsource : Field.text engine.template <;> simp only [hlanguage, hsource] at hrequest <;> cases hrequest
  | some language =>
      cases hsource : Field.text engine.template with
      | error fault =>
          simp only [hlanguage, hsource] at hrequest
          cases hrequest
      | ok source =>
          simp only [hlanguage, hsource] at hrequest
          obtain rfl := Except.ok.inj hrequest
          exact {
            source := hsource
            language := hlanguage
            url := rfl
            loadPaths := rfl
            style := hstyle
            sourceMap := rfl
            includeSources := rfl
            functions := congrArg (Except.map FunctionTable.signatures) hannounced
            alertAscii := rfl
            alertColor := rfl
            logger := rfl
            quietDeps := rfl
            verbose := rfl }

/-- What a preparation hands to the compiler is settled by the options. -/
theorem Prepares.settles {host : Host κ σ ι} {world : World κ ι} {prepared : Prepared κ σ ι}
    (hprepares : host.Prepares world prepared) {engine : Engine κ ι} (hsame : world.engine.SameOptions engine) :
    ∃ shared, (Surroundings.loadPaths.run world.surroundings).1 = .ok shared ∧
      engine.Settles world.templateUrl shared host.functions.table prepared.request := by
  obtain ⟨shared, style, hshared, hstyle, hrequest⟩ := hprepares.request
  rw [request_congr hsame.template hsame.options, hsame.options] at hrequest
  rw [hsame.style_eq] at hstyle
  have hannounced := announced_of_functionSet hprepares.table
  rw [hsame.announced_eq] at hannounced
  exact ⟨shared, hshared, settles_of_request hrequest hstyle hannounced⟩

/-- How a result came to a render. -/
theorem exists_compiled_of_rendering {host : Host κ σ ι} {world : World κ ι} {rendering : Rendering}
    (hrendering : host.rendering? world = some rendering) :
    world.engine.template.isTrue ∧ ∃ compiled : World κ ι, compiled.standing = world.standing ∧
      host.compiled.run world = (.ok (rendering.url, rendering.result), compiled) ∧
      rendering.cwd = compiled.surroundings.cwd := by
  have hkeeps := host.compiled_keeps world
  rw [rendering?] at hrendering
  split at hrendering
  · rename_i htemplate
    rcases hcompiled : host.compiled.run world with ⟨failure | ⟨url, result⟩, compiled⟩
    · rw [hcompiled] at hrendering
      cases hrendering
    · rw [hcompiled] at hrendering hkeeps
      obtain rfl := Option.some.inj hrendering
      exact ⟨htemplate, compiled, hkeeps, rfl, (congrArg Standing.cwd hkeeps).symm⟩
  · cases hrendering

/-- The end of a render: a result is refused, or it is kept and then treated as the options say. -/
theorem keepResult_treats {world : World κ ι} {rendering : Rendering} (hcwd : rendering.cwd = world.surroundings.cwd) :
    ((keepResult rendering.url rendering.result >>= fun _ => giveBack rendering.result.css).run world).1 =
      world.engine.treat rendering := by
  obtain ⟨cwd, url, result⟩ := rendering
  obtain rfl : cwd = world.surroundings.cwd := hcwd
  rw [Engine.treat]
  cases hdependencies : dependenciesOf url result.loadedUrls with
  | error failure =>
      rw [Step.run_bind_of_error (keepResult_of_unreadable hdependencies), Rendering.dependencies, hdependencies]
      rfl
  | ok dependencies =>
      rw [Rendering.dependencies, hdependencies]
      cases hmap : Rendering.sourceMap ⟨world.surroundings.cwd, url, result⟩ with
      | error failure =>
          rw [Step.run_bind_of_error (keepResult_of_refused hdependencies hmap)]
          rfl
      | ok sourceMap =>
          obtain ⟨after, hrun, hafter⟩ := keepResult_of_accepted hdependencies hmap
          have hoptions : after.engine.options = world.engine.options := congrArg Standing.options hafter
          have hkept : after.engine.sourceMap? = sourceMap := congrArg Standing.sourceMap? hafter
          rw [Step.run_bind_of_ok hrun, giveBack_run, Engine.output_eq hoptions hkept]
          rfl

theorem render_of_rendering {host : Host κ σ ι} {world : World κ ι} {rendering : Rendering}
    (hrendering : host.rendering? world = some rendering) :
    (host.render.run world).1 = world.engine.treat rendering := by
  obtain ⟨htemplate, compiled, hstanding, hcompiled, hcwd⟩ := exists_compiled_of_rendering hrendering
  have hsame : compiled.engine.SameOptions world.engine :=
    ⟨congrArg Standing.template hstanding, congrArg Standing.options hstanding⟩
  rw [render, Step.run_get_bind, if_pos htemplate, renderTemplate_eq, Step.run_bind_of_ok hcompiled]
  exact (keepResult_treats hcwd).trans (congrFun hsame.treat_eq rendering)

end Host

/-! One render, and renders one after the other. -/

theorem Host.RendersTo.template_options {host : Host κ σ ι} {world : World κ ι}
    {outcome : Except Failure (Option String)} {standing : Standing κ} (hto : host.RendersTo world outcome standing) :
    standing.template = world.engine.template ∧ standing.options = world.engine.options := by
  cases hto <;> exact ⟨rfl, rfl⟩

namespace Engine

theorem sameOptions_renderOn (engine : Engine κ ι) (occasion : Occasion κ σ ι) :
    (engine.renderOn occasion).2.SameOptions engine := by
  obtain ⟨htemplate, hoptions⟩ := (occasion.host.rendersTo_render (engine.worldOn occasion)).template_options
  exact ⟨htemplate, hoptions⟩

theorem sameOptions_afterAll (engine : Engine κ ι) (occasions : List (Occasion κ σ ι)) :
    (engine.afterAll occasions).SameOptions engine := by
  induction occasions generalizing engine with
  | nil => exact .refl engine
  | cons occasion occasions ih => exact (ih (engine.renderOn occasion).2).trans (sameOptions_renderOn engine occasion)

/-- The URL that a render gives to a template that has none, if the render comes to that. -/
def urlGiven? (engine : Engine κ ι) (occasion : Occasion κ σ ι) : Option String :=
  if engine.template.isTrue ∧ (Surroundings.loadPaths.run occasion.surroundings).1.isOk then
    some (Url.ofPath .posix occasion.surroundings.cwd engine.filename)
  else none

/-- The URL of the template in some renders: the one that it has, or else the first that it is given. -/
def settledUrl? (engine : Engine κ ι) (occasions : List (Occasion κ σ ι)) : Option String :=
  engine.fileUrl?.or (occasions.findSome? engine.urlGiven?)

theorem SameOptions.urlGiven?_eq {engine other : Engine κ ι} (hsame : engine.SameOptions other) :
    (engine.urlGiven? : Occasion κ σ ι → Option String) = other.urlGiven? := by
  funext occasion
  rw [urlGiven?, urlGiven?, hsame.template, hsame.filename_eq]

theorem fileUrl?_renderOn (engine : Engine κ ι) (occasion : Occasion κ σ ι) :
    (engine.renderOn occasion).2.fileUrl? = engine.fileUrl?.or (engine.urlGiven? occasion) := by
  refine (occasion.host.knownUrl?_render (engine.worldOn occasion)).trans ?_
  change (if engine.template.isTrue ∧ (Surroundings.loadPaths.run occasion.surroundings).1.isOk then
    some (engine.fileUrl?.getD (Url.ofPath .posix occasion.surroundings.cwd engine.filename)) else engine.fileUrl?) = _
  rw [urlGiven?]
  split
  · cases engine.fileUrl? <;> rfl
  · exact Option.or_none.symm

theorem fileUrl?_afterAll (engine : Engine κ ι) (occasions : List (Occasion κ σ ι)) :
    (engine.afterAll occasions).fileUrl? = engine.settledUrl? occasions := by
  induction occasions generalizing engine with
  | nil => exact Option.or_none.symm
  | cons occasion occasions ih =>
      have hsame := sameOptions_renderOn engine occasion
      rw [afterAll, ih, settledUrl?, settledUrl?, fileUrl?_renderOn, hsame.urlGiven?_eq]
      rw [Option.or_assoc, List.findSome?_cons]
      cases engine.urlGiven? occasion <;> rfl

theorem settledUrl?_of_given {engine : Engine κ ι} {earlier : List (Occasion κ σ ι)} {occasion : Occasion κ σ ι}
    (htemplate : engine.template.isTrue) (hshared : (Surroundings.loadPaths.run occasion.surroundings).1.isOk)
    (later : List (Occasion κ σ ι)) :
    engine.settledUrl? (earlier ++ occasion :: later) =
      some ((engine.afterAll earlier).worldOn occasion).templateUrl := by
  have hsame := sameOptions_afterAll engine earlier
  have hgiven : engine.urlGiven? occasion =
      some (Url.ofPath .posix occasion.surroundings.cwd (engine.afterAll earlier).filename) := by
    rw [← hsame.urlGiven?_eq, urlGiven?, hsame.template, if_pos ⟨htemplate, hshared⟩]
  rw [settledUrl?, List.findSome?_append, List.findSome?_cons, hgiven, ← Option.or_assoc, ← settledUrl?,
    ← fileUrl?_afterAll]
  change _ = some ((engine.afterAll earlier).fileUrl?.getD _)
  cases (engine.afterAll earlier).fileUrl? <;> rfl

/-- The options are a snapshot. Whatever earlier renders did, and whatever the bag holds by now or will hold during a
render, the request of the render and the treatment of its result are settled by the options that the engine started
with. The functions that a host announces stay the same; what they do may change from render to render. -/
theorem renders_from_snapshot (engine : Engine κ ι) (earlier : List (Occasion κ σ ι)) (occasion : Occasion κ σ ι)
    (later : List (Occasion κ σ ι)) {table : Except Failure FunctionTable}
    (htable : ∀ each ∈ earlier ++ occasion :: later, each.host.functions.table = table) :
    let world := (engine.afterAll earlier).worldOn occasion
    let ended := occasion.host.render.run world
    (∃ request?, ended.2.requests = world.requests ++ Option.toList request? ∧ ∀ request, request? = some request →
      ∃ url shared, engine.settledUrl? (earlier ++ occasion :: later) = some url ∧
        (Surroundings.loadPaths.run occasion.surroundings).1 = .ok shared ∧
        engine.Settles url shared table request) ∧
    ∀ rendering, occasion.host.rendering? world = some rendering → ended.1 = engine.treat rendering := by
  intro world ended
  have hafter := sameOptions_afterAll engine earlier
  have hsame : world.engine.SameOptions engine := ⟨hafter.template, hafter.options⟩
  constructor
  · refine ⟨_, occasion.host.requests_render world, fun request hrequest => ?_⟩
    obtain ⟨prepared, hprepared, rfl⟩ := Option.map_eq_some_iff.mp hrequest
    obtain ⟨htemplate, ready, hprepare⟩ := Host.exists_run_of_prepared? hprepared
    obtain ⟨shared, hshared, hsettles⟩ := (Host.prepares_of_prepare hprepare).settles hsame
    rw [hsame.template] at htemplate
    rw [htable occasion (by simp)] at hsettles
    have hread : (Surroundings.loadPaths.run occasion.surroundings).1.isOk := congrArg Except.isOk hshared
    exact ⟨_, shared, settledUrl?_of_given htemplate hread later, hshared, hsettles⟩
  · intro rendering hrendering
    rw [← hsame.treat_eq]
    exact Host.render_of_rendering hrendering

/-- A function that asks for quiet, compressed output. -/
def meddle : Body Unit :=
  fun _ receiver =>
    let write (bag : Bag) : Bag := (bag.set "quiet" (.bool true)).set "style" (.text "compressed")
    (.ok (.atom (.null .legacy)), ⟨receiver.options.map write, receiver.state⟩)

/-- A host whose compiler calls that function. -/
def meddlingHost : Host Unit Unit Unit where
  functions := ⟨"Functions", (), [[("meddle", .method [.positional "self" none] meddle)]], fun _ _ => none⟩
  importer := idleImporter
  isTrue _ := true
  compile _ _ := .ask (.call "meddle()" []) fun _ => .done (.ok acceptedResult)

/-- A new engine with functions. -/
def withFunctions : Engine Unit Unit :=
  { plain with options := { plain.options with functions := .host .functionSet } }

/-- A render with what the bag holds by then. -/
def meddledOn (bag : Bag) : Occasion Unit Unit Unit :=
  ⟨meddlingHost, .start "/work/project" [] ⟨none, []⟩, bag⟩

theorem table_meddling : meddlingHost.functions.table = .ok [("meddle()", "meddle")] := by
  cbv

/-- A function wrote into the bag, but the second render is expanded and gives its output like the first. -/
theorem renders_from_snapshot_meddled :
    let bag := (withFunctions.renderOn (meddledOn [])).2.bag
    let world := (withFunctions.afterAll [meddledOn []]).worldOn (meddledOn bag)
    let ended := meddlingHost.render.run world
    (bag.get? "quiet").any Datum.isTrue ∧
      (∃ request, ended.2.requests = [request] ∧ request.style = .expanded ∧ request.functions = ["meddle()"]) ∧
      ended.1 = .ok (some "a\n/*# sourceMappingURL= */") := by
  intro bag world ended
  have htable : ∀ each ∈ [meddledOn []] ++ [meddledOn bag],
      each.host.functions.table = .ok [("meddle()", "meddle")] := by
    simp only [List.singleton_append, List.forall_mem_cons, List.not_mem_nil, false_implies, implies_true, and_true]
    exact ⟨table_meddling, table_meddling⟩
  obtain ⟨⟨request?, hrequests, hsettles⟩, htreated⟩ :=
    renders_from_snapshot withFunctions [meddledOn []] (meddledOn bag) [] htable
  change ended.2.requests = request?.toList at hrequests
  change ∀ rendering, meddlingHost.rendering? world = some rendering →
    ended.1 = withFunctions.treat rendering at htreated
  have hsent : ended.2.requests.length = 1 := by decide +kernel
  refine ⟨by decide +kernel, ?_, ?_⟩
  · cases request? with
    | none =>
        rw [hrequests] at hsent
        cases hsent
    | some request =>
        obtain ⟨_, _, -, -, hsettled⟩ := hsettles request rfl
        have hstyle : withFunctions.style = .ok .expanded := rfl
        refine ⟨request, hrequests, ?_, (Except.ok.inj hsettled.functions).symm⟩
        exact Except.ok.inj (hsettled.style.symm.trans hstyle)
  · have hrendering : meddlingHost.rendering? world =
        some ⟨"/work/project", "file:///work/project/stdin", acceptedResult⟩ := by decide +kernel
    have hread : Rendering.dependencies ⟨"/work/project", "file:///work/project/stdin", acceptedResult⟩ =
        .ok ["/work/project/first.scss"] := by cbv
    have hmap : Rendering.sourceMap ⟨"/work/project", "file:///work/project/stdin", acceptedResult⟩ =
        .ok (some "\x7b\x7d") := by cbv
    rw [htreated _ hrendering, treat, hread, hmap]
    rfl

end Engine

end SassBridge
