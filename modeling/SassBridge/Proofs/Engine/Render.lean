import SassBridge.Engine.Render
import SassBridge.Proofs.Session
import SassBridge.Proofs.Surroundings

/-! A render in three parts: it prepares a request, has the compiler work on it, and keeps the result. Only the last
part touches what an engine shows of its renders. -/

namespace SassBridge

variable {κ σ ι : Type}

/-- What a render has at hand when the compiler starts. -/
structure Prepared (κ σ ι : Type) where
  url : String
  compiler : κ
  request : Request
  session : Session σ ι

/-- What a render has at hand before it chooses a compiler. -/
structure Draft (σ ι : Type) where
  url : String
  style : OutputStyle
  request : Request
  session : Session σ ι

/-- What stays as it is until a result is kept. -/
structure Standing (κ : Type) where
  cwd : String
  template : Datum
  options : EngineOptions
  compiler? : Option κ
  dependencies? : Option (List String)
  sourceMap? : Option Wide
  rendered : Bool

def World.standing (world : World κ ι) : Standing κ where
  cwd := world.surroundings.cwd
  template := world.engine.template
  options := world.engine.options
  compiler? := world.engine.compiler?
  dependencies? := world.engine.dependencies?
  sourceMap? := world.engine.sourceMap?
  rendered := world.engine.rendered

namespace Host

def prepare (host : Host κ σ ι) : Step (World κ ι) (Prepared κ σ ι) := do
  let loadPaths ← World.loadPaths
  let url ← World.fileUrl
  let style ← .ofExcept (← Step.get).engine.style
  let session ← host.startSession
  let request ← .ofExcept (request (← Step.get).engine loadPaths url style session)
  let compiler ← chooseCompiler host.isTrue
  World.onSurroundings (Surroundings.report (.renderStarted url request.language.name style.name))
  return ⟨url, compiler, request, session⟩

/-- A preparation from when the template has its URL. -/
def prepareAt (host : Host κ σ ι) (loadPaths : List String) (url : String) :
    Step (World κ ι) (Prepared κ σ ι) := do
  let style ← .ofExcept (← Step.get).engine.style
  let session ← host.startSession
  let request ← .ofExcept (request (← Step.get).engine loadPaths url style session)
  let compiler ← chooseCompiler host.isTrue
  World.onSurroundings (Surroundings.report (.renderStarted url request.language.name style.name))
  return ⟨url, compiler, request, session⟩

theorem prepare_eq (host : Host κ σ ι) :
    host.prepare = (do
      let loadPaths ← World.loadPaths
      let url ← World.fileUrl
      host.prepareAt loadPaths url) := rfl

/-- A preparation up to the choice of a compiler, from when the template has its URL. -/
def draftAt (host : Host κ σ ι) (loadPaths : List String) (url : String) : Step (World κ ι) (Draft σ ι) := do
  let style ← .ofExcept (← Step.get).engine.style
  let session ← host.startSession
  let request ← .ofExcept (request (← Step.get).engine loadPaths url style session)
  return ⟨url, style, request, session⟩

/-- A preparation up to the choice of a compiler. -/
def draft (host : Host κ σ ι) : Step (World κ ι) (Draft σ ι) := do
  let loadPaths ← World.loadPaths
  let url ← World.fileUrl
  host.draftAt loadPaths url

/-- The rest of a preparation. -/
def equip (host : Host κ σ ι) (draft : Draft σ ι) : Step (World κ ι) (Prepared κ σ ι) := do
  let compiler ← chooseCompiler host.isTrue
  World.onSurroundings (Surroundings.report (.renderStarted draft.url draft.request.language.name draft.style.name))
  return ⟨draft.url, compiler, draft.request, draft.session⟩

theorem prepareAt_eq (host : Host κ σ ι) (loadPaths : List String) (url : String) :
    host.prepareAt loadPaths url = host.draftAt loadPaths url >>= host.equip := by
  simp only [prepareAt, draftAt, equip, bind_assoc, pure_bind]

theorem prepare_eq_draft (host : Host κ σ ι) : host.prepare = host.draft >>= host.equip := by
  simp only [prepare_eq, draft, prepareAt_eq, bind_assoc]

/-- The result of the compiler, and the URL of the template. -/
def compiled (host : Host κ σ ι) : Step (World κ ι) (String × CompileResult) := do
  let prepared ← host.prepare
  let result ← host.runCompiler prepared.compiler prepared.request prepared.session
  return (prepared.url, result)

theorem renderTemplate_eq (host : Host κ σ ι) :
    host.renderTemplate = (do
      let (url, result) ← host.compiled
      keepResult url result
      giveBack result.css) := by
  simp only [renderTemplate, compiled, prepare, bind_assoc, pure_bind]

end Host

/-! What a render leaves as it was in its surroundings. -/

namespace Surroundings

/-- The outlook and the requests so far. -/
def fixed (surroundings : Surroundings κ) : Outlook κ × List Request :=
  (surroundings.outlook, surroundings.journal.requests)

theorem note_keeps {entries : Journal} (hentries : entries.IsQuiet) :
    (note entries : Step (Surroundings κ) Unit).Keeps fixed := by
  refine .modify fun surroundings => Prod.ext ?_ ?_
  · rw [fixed, fixed, outlook_eq, outlook_eq]
    rfl
  · rw [fixed, Journal.requests_append, hentries.requests, List.append_nil]
    rfl

theorem loadPaths_keeps : (loadPaths : Step (Surroundings κ) (List String)).Keeps fixed := by
  intro surroundings
  rw [fixed, outlook_loadPaths, loadPaths_run]
  rfl

theorem defaultCompiler_keeps : (defaultCompiler : Step (Surroundings κ) κ).Keeps fixed := by
  intro surroundings
  rw [fixed, outlook_defaultCompiler, defaultCompiler_run, Journal.requests_append, Journal.requests_reported]
  rw [List.append_nil]
  rfl

end Surroundings

/-! What a render leaves as it was in its world. -/

namespace World

variable {T : Type} {view : World κ ι → T}

/-- The requests so far. -/
def requests (world : World κ ι) : List Request :=
  world.surroundings.journal.requests

/-- The URL of the template, if it was asked for already. -/
def knownUrl? (world : World κ ι) : Option String :=
  world.engine.fileUrl?

/-- The URL of the template, be it known or not. -/
def templateUrl (world : World κ ι) : String :=
  world.engine.fileUrl?.getD (Url.ofPath .posix world.surroundings.cwd world.engine.filename)

/-- A world with more in its journal. -/
def noted (world : World κ ι) (entries : Journal) : World κ ι :=
  { world with surroundings := { world.surroundings with journal := world.surroundings.journal ++ entries } }

theorem requests_noted (world : World κ ι) (entries : Journal) :
    (world.noted entries).requests = world.requests ++ entries.requests :=
  Journal.requests_append _ _

theorem note_run (entries : Journal) (world : World κ ι) :
    (onSurroundings (Surroundings.note entries)).run world = (.ok (), world.noted entries) :=
  rfl

/-- Whether a view sees nothing of quiet notes. -/
def IgnoresNotes (view : World κ ι → T) : Prop :=
  ∀ (world : World κ ι) (entries : Journal), entries.IsQuiet → view (world.noted entries) = view world

namespace IgnoresNotes

theorem report (hview : IgnoresNotes view) {event : Event} (hevent : event.isOfRegistry = false) :
    (onSurroundings (Surroundings.report event) : Step (World κ ι) Unit).Keeps view :=
  fun world => hview world _ (.reported (List.forall_mem_singleton.mpr hevent))

theorem startSession (hview : IgnoresNotes view) (host : Host κ σ ι) : host.startSession.Keeps view := by
  refine .bind .get fun world => ?_
  refine .bind (.ofExcept _) fun set => ?_
  refine .bind (.ofExcept _) fun functions => ?_
  exact .bind (hview.report rfl) fun _ => .ofExcept _

theorem draftAt (hview : IgnoresNotes view) (host : Host κ σ ι) (loadPaths : List String) (url : String) :
    (host.draftAt loadPaths url).Keeps view := by
  refine .bind .get fun world => ?_
  refine .bind (.ofExcept world.engine.style) fun style => ?_
  refine .bind (hview.startSession host) fun session => ?_
  refine .bind .get fun world => ?_
  refine .bind (.ofExcept _) fun request => ?_
  exact .pure _

theorem prepareAt (hview : IgnoresNotes view) {host : Host κ σ ι}
    (hchoose : (Host.chooseCompiler host.isTrue : Step (World κ ι) κ).Keeps view)
    (loadPaths : List String) (url : String) : (host.prepareAt loadPaths url).Keeps view := by
  rw [Host.prepareAt_eq]
  refine .bind (hview.draftAt host loadPaths url) fun draft => ?_
  refine .bind hchoose fun compiler => ?_
  exact .bind (hview.report rfl) fun _ => .pure _

end IgnoresNotes

/-- Whether a view does not see the bag and the importer either, to which functions and importers write. -/
structure Calm (view : World κ ι → T) : Prop where
  note : IgnoresNotes view
  session : ∀ world bag importer,
    view { world with engine := { world.engine with bag := bag, importer := importer } } = view world

/-- What a session changed is the bag and the importer. -/
theorem Calm.keepSession (hview : Calm view) {session : Session σ ι} (hsession : session.journal.IsQuiet) :
    (Host.keepSession session : Step (World κ ι) Unit).Keeps view :=
  .bind (.modify fun world => hview.note world _ hsession) fun _ => .modify fun _ => hview.session _ _ _

/-- Whether a view sees no more of the surroundings than what a render leaves as it was there, and nothing of the bag
and the importer. -/
structure Steady (view : World κ ι → T) : Prop where
  surroundings : ∀ world surroundings, surroundings.fixed = world.surroundings.fixed →
    view { world with surroundings := surroundings } = view world
  session : ∀ world bag importer,
    view { world with engine := { world.engine with bag := bag, importer := importer } } = view world

theorem standing_steady : Steady (standing : World κ ι → Standing κ) where
  surroundings world surroundings hfixed := by
    have hcwd : surroundings.cwd = world.surroundings.cwd := congrArg (fun fixed => fixed.1.cwd) hfixed
    rw [standing, hcwd]
    rfl
  session _ _ _ := rfl

theorem requests_steady : Steady (requests : World κ ι → List Request) where
  surroundings _ _ hfixed := congrArg Prod.snd hfixed
  session _ _ _ := rfl

theorem templateUrl_steady : Steady (templateUrl : World κ ι → String) where
  surroundings world surroundings hfixed := by
    have hcwd : surroundings.cwd = world.surroundings.cwd := congrArg (fun fixed => fixed.1.cwd) hfixed
    rw [templateUrl, hcwd]
    rfl
  session _ _ _ := rfl

theorem knownUrl?_steady : Steady (knownUrl? : World κ ι → Option String) where
  surroundings _ _ _ := rfl
  session _ _ _ := rfl

namespace Steady

theorem onSurroundings {α : Type} (hview : Steady view) {step : Step (Surroundings κ) α}
    (hstep : step.Keeps Surroundings.fixed) : (World.onSurroundings step : Step (World κ ι) α).Keeps view :=
  hstep.onPart fun surroundings world => hview.surroundings world surroundings

theorem calm (hview : Steady view) : Calm view where
  note world _ hentries := hview.onSurroundings (Surroundings.note_keeps hentries) world
  session := hview.session

theorem loadPaths (hview : Steady view) : (World.loadPaths : Step (World κ ι) (List String)).Keeps view :=
  .bind .get fun _ => .bind (hview.onSurroundings Surroundings.loadPaths_keeps) fun _ => .pure _

theorem chooseCompiler (hview : Steady view) (isTrue : κ → Bool) :
    (Host.chooseCompiler isTrue : Step (World κ ι) κ).Keeps view := by
  refine .bind .get fun world => ?_
  cases world.engine.ownCompiler? isTrue with
  | some compiler => exact .pure compiler
  | none => exact hview.onSurroundings Surroundings.defaultCompiler_keeps

theorem prepareAt (hview : Steady view) (host : Host κ σ ι) (loadPaths : List String) (url : String) :
    (host.prepareAt loadPaths url).Keeps view :=
  hview.calm.note.prepareAt (hview.chooseCompiler host.isTrue) loadPaths url

end Steady

/-- The load paths of the options come first. -/
theorem loadPaths_run (world : World κ ι) :
    (loadPaths : Step (World κ ι) (List String)).run world =
      (do return world.engine.options.loadPaths ++ (← (Surroundings.loadPaths.run world.surroundings).1),
        { world with surroundings := (Surroundings.loadPaths.run world.surroundings).2 }) := by
  rw [loadPaths, Step.run_get_bind]
  rcases hshared : Surroundings.loadPaths.run world.surroundings with ⟨failure | shared, surroundings⟩
  · refine Step.run_bind_of_error ?_ _
    exact congrArg (fun ended => (ended.1, { world with surroundings := ended.2 })) hshared
  · refine (Step.run_bind_of_ok ?_ _).trans rfl
    exact congrArg (fun ended => (ended.1, { world with surroundings := ended.2 })) hshared

theorem fileUrl_run (world : World κ ι) :
    (fileUrl : Step (World κ ι) String).run world =
      (.ok world.templateUrl, { world with engine := { world.engine with fileUrl? := some world.templateUrl } }) := by
  have hworld : (Step.get : Step (World κ ι) (World κ ι)).run world = (.ok world, world) := rfl
  refine (Step.run_bind_of_ok hworld _).trans ?_
  obtain ⟨surroundings, template, bag, options, compiler?, importer, url?, dependencies?, sourceMap?, rendered⟩ := world
  cases url? <;> rfl

/-- The compiler of the engine if it has one that counts as true, or else the default one. -/
def choice (world : World κ ι) (isTrue : κ → Bool) : Except Failure κ :=
  match world.engine.ownCompiler? isTrue with
  | some compiler => .ok compiler
  | none => (Surroundings.defaultCompiler.run world.surroundings).1

theorem chooseCompiler_run (world : World κ ι) (isTrue : κ → Bool) :
    (Host.chooseCompiler isTrue : Step (World κ ι) κ).run world = (world.choice isTrue, { world with
      surroundings := if (world.engine.ownCompiler? isTrue).isSome then world.surroundings
        else (Surroundings.defaultCompiler.run world.surroundings).2 }) := by
  rw [Host.chooseCompiler, Step.run_get_bind, choice]
  cases world.engine.ownCompiler? isTrue with
  | some compiler => rfl
  | none => rfl

theorem fileUrl_keeps_standing : (fileUrl : Step (World κ ι) String).Keeps standing := by
  intro world
  rw [fileUrl_run]
  rfl

theorem fileUrl_keeps_requests : (fileUrl : Step (World κ ι) String).Keeps requests := by
  intro world
  rw [fileUrl_run]
  rfl

end World

namespace Host

/-- What a render does when a compilation has ended. -/
def conclude (url : String) (outcome : Except Failure CompileResult) (session : Session σ ι) :
    Step (World κ ι) CompileResult := do
  keepSession session
  match outcome with
  | .ok result => return result
  | .error failure =>
    if failure.kind = .compilation then
      let report ← .ofExcept (failure.ofCompilation (← Step.get).surroundings.cwd)
      if let .stylesheet _ filename line _ := report then
        World.onSurroundings (Surroundings.report (.renderFailed url filename line))
      Step.fail report
    else Step.fail failure

theorem runCompiler_eq (host : Host κ σ ι) (compiler : κ) (request : Request) (session : Session σ ι) :
    host.runCompiler compiler request session = (do
      World.onSurroundings (Surroundings.note [.compiled request])
      let ended := session.drive (host.compile compiler request)
      conclude request.url ended.1 ended.2) := rfl

/-- What becomes of an outcome once the session is kept. -/
def deliver (url : String) (outcome : Except Failure CompileResult) : Step (World κ ι) CompileResult :=
  match outcome with
  | .ok result => return result
  | .error failure =>
    if failure.kind = .compilation then do
      let report ← .ofExcept (failure.ofCompilation (← Step.get).surroundings.cwd)
      if let .stylesheet _ filename line _ := report then
        World.onSurroundings (Surroundings.report (.renderFailed url filename line))
      Step.fail report
    else Step.fail failure

theorem conclude_eq (url : String) (outcome : Except Failure CompileResult) (session : Session σ ι) :
    conclude url outcome session = (do keepSession session; deliver url outcome : Step (World κ ι) CompileResult) := by
  cases outcome <;> rfl

theorem deliver_keeps {T : Type} {view : World κ ι → T} (hview : World.IgnoresNotes view) (url : String)
    (outcome : Except Failure CompileResult) : (deliver url outcome).Keeps view := by
  rw [deliver.eq_def]
  cases outcome with
  | ok result => exact .pure result
  | error failure =>
      by_cases hreport : failure.kind = .compilation
      · simp only [if_pos hreport]
        refine .bind .get fun _ => .bind (.ofExcept _) fun report => ?_
        cases report <;>
          first
          | exact .fail _
          | exact .bind (hview.report rfl) fun _ => .fail _
      · simp only [if_neg hreport]
        exact .fail failure

theorem conclude_keeps {T : Type} {view : World κ ι → T} (hview : World.Calm view) (url : String)
    (outcome : Except Failure CompileResult) {session : Session σ ι} (hsession : session.journal.IsQuiet) :
    (conclude url outcome session).Keeps view := by
  rw [conclude_eq]
  exact .bind (hview.keepSession hsession) fun _ => deliver_keeps hview.note url outcome

theorem draft_keeps {T : Type} {view : World κ ι → T} (hview : World.IgnoresNotes view)
    (hpaths : (World.loadPaths : Step (World κ ι) (List String)).Keeps view)
    (hurl : (World.fileUrl : Step (World κ ι) String).Keeps view) (host : Host κ σ ι) : host.draft.Keeps view :=
  .bind hpaths fun loadPaths => .bind hurl fun url => hview.draftAt host loadPaths url

theorem prepare_keeps_of {T : Type} {view : World κ ι → T} (hview : World.IgnoresNotes view)
    (hpaths : (World.loadPaths : Step (World κ ι) (List String)).Keeps view)
    (hurl : (World.fileUrl : Step (World κ ι) String).Keeps view)
    {host : Host κ σ ι} (hchoose : (chooseCompiler host.isTrue : Step (World κ ι) κ).Keeps view) :
    host.prepare.Keeps view :=
  .bind hpaths fun loadPaths => .bind hurl fun url => hview.prepareAt hchoose loadPaths url

theorem prepare_keeps {T : Type} {view : World κ ι → T} (hview : World.Steady view)
    (hurl : (World.fileUrl : Step (World κ ι) String).Keeps view) (host : Host κ σ ι) : host.prepare.Keeps view :=
  prepare_keeps_of hview.calm.note hview.loadPaths hurl (hview.chooseCompiler host.isTrue)

/-- Whether a session is as a render starts it in a world. -/
def StartsWith (host : Host κ σ ι) (world : World κ ι) (session : Session σ ι) : Prop :=
  ∃ set functions, host.functionSet world.engine.options.functions = .ok set ∧
    FunctionSession.start set world.engine.bag = .ok functions ∧
    Session.start world.surroundings.cwd world.engine.bag functions host.importer world.engine.importer = .ok session

/-- How a preparation comes about in a world. -/
structure Prepares (host : Host κ σ ι) (world : World κ ι) (prepared : Prepared κ σ ι) : Prop where
  url : prepared.url = world.templateUrl
  session : host.StartsWith world prepared.session
  request : ∃ shared style, (Surroundings.loadPaths.run world.surroundings).1 = .ok shared ∧
    world.engine.style = .ok style ∧
    Host.request world.engine (world.engine.options.loadPaths ++ shared) world.templateUrl style prepared.session =
      .ok prepared.request

/-- A request is made of the template and the options. -/
theorem request_congr {engine other : Engine κ ι} (htemplate : engine.template = other.template)
    (hoptions : engine.options = other.options) (loadPaths : List String) (url : String) (style : OutputStyle)
    (session : Session σ ι) :
    request engine loadPaths url style session = request other loadPaths url style session := by
  rw [request, request, Engine.languageName, Engine.languageName, htemplate, hoptions]

theorem startSession_ok {host : Host κ σ ι} {world after : World κ ι} {session : Session σ ι}
    (hsession : host.startSession.run world = (.ok session, after)) : host.StartsWith world session := by
  rw [startSession, Step.run_get_bind] at hsession
  obtain ⟨set, hset, hsession⟩ := Step.exists_of_run_ofExcept_bind_ok hsession
  obtain ⟨functions, hfunctions, hsession⟩ := Step.exists_of_run_ofExcept_bind_ok hsession
  obtain ⟨-, -, -, hsession⟩ := Step.exists_of_run_bind_ok hsession
  exact ⟨set, functions, hset, hfunctions, congrArg Prod.fst hsession⟩

theorem prepareAt_ok {host : Host κ σ ι} {world ready : World κ ι} {prepared : Prepared κ σ ι}
    {loadPaths : List String} {url : String}
    (hprepare : (host.prepareAt loadPaths url).run world = (.ok prepared, ready)) :
    prepared.url = url ∧ host.StartsWith world prepared.session ∧
      ∃ style, world.engine.style = .ok style ∧
        request world.engine loadPaths url style prepared.session = .ok prepared.request := by
  rw [prepareAt, Step.run_get_bind] at hprepare
  obtain ⟨style, hstyle, hprepare⟩ := Step.exists_of_run_ofExcept_bind_ok hprepare
  obtain ⟨session, started, hsession, hprepare⟩ := Step.exists_of_run_bind_ok hprepare
  rw [Step.run_get_bind] at hprepare
  obtain ⟨request, hrequest, hprepare⟩ := Step.exists_of_run_ofExcept_bind_ok hprepare
  obtain ⟨compiler, chosen, -, hprepare⟩ := Step.exists_of_run_bind_ok hprepare
  obtain ⟨-, -, -, hprepare⟩ := Step.exists_of_run_bind_ok hprepare
  obtain rfl := Except.ok.inj (congrArg Prod.fst hprepare)
  have hstanding : started.standing = world.standing := by
    have hkeeps := World.standing_steady.calm.note.startSession host world
    rwa [hsession] at hkeeps
  rw [request_congr (congrArg Standing.template hstanding) (congrArg Standing.options hstanding)] at hrequest
  exact ⟨rfl, startSession_ok hsession, style, hstyle, hrequest⟩

theorem prepares_of_prepare {host : Host κ σ ι} {world ready : World κ ι} {prepared : Prepared κ σ ι}
    (hprepare : host.prepare.run world = (.ok prepared, ready)) : host.Prepares world prepared := by
  rw [prepare_eq] at hprepare
  obtain ⟨loadPaths, withPaths, hpaths, hprepare⟩ := Step.exists_of_run_bind_ok hprepare
  rw [Step.run_bind_of_ok (World.fileUrl_run _)] at hprepare
  obtain ⟨hurl, hsession, style, hstyle, hrequest⟩ := prepareAt_ok hprepare
  have hkeeps : withPaths.templateUrl = world.templateUrl := by
    have hkept := World.templateUrl_steady.loadPaths world
    rwa [hpaths] at hkept
  have hcwd : withPaths.surroundings.cwd = world.surroundings.cwd := by
    have hkept := World.standing_steady.loadPaths world
    rw [hpaths] at hkept
    exact congrArg Standing.cwd hkept
  rw [World.loadPaths_run] at hpaths
  obtain ⟨hread, rfl⟩ := Prod.mk.inj hpaths
  obtain ⟨shared, hshared, rfl⟩ := Lists.return_ok_iff.mp hread
  rw [hkeeps] at hurl hrequest
  rw [StartsWith, hcwd] at hsession
  exact ⟨hurl, hsession, shared, style, hshared, hstyle, hrequest⟩

namespace Prepares

variable {host : Host κ σ ι} {world : World κ ι} {prepared : Prepared κ σ ι}

theorem table (hprepares : host.Prepares world prepared) :
    host.functionSet world.engine.options.functions >>= FunctionSet.table =
      .ok prepared.session.functions.table := by
  obtain ⟨set, functions, hset, hfunctions, hsession⟩ := hprepares.session
  obtain ⟨receiver, -, hfunctions⟩ := Lists.bind_ok_iff.mp hfunctions
  obtain ⟨table, htable, hfunctions⟩ := Lists.bind_ok_iff.mp hfunctions
  obtain rfl := Except.ok.inj hfunctions
  obtain ⟨importer?, -, himporter⟩ := Lists.bind_ok_iff.mp hsession
  rw [← Except.ok.inj himporter]
  exact Lists.bind_ok_iff.mpr ⟨set, hset, htable⟩

theorem journal (hprepares : host.Prepares world prepared) : prepared.session.journal = [] := by
  obtain ⟨set, functions, -, -, hsession⟩ := hprepares.session
  exact Session.journal_start hsession

end Prepares

section Kept

variable {T : Type} {view : World κ ι → T}

/-- After the request is noted, a compilation keeps every calm view. -/
theorem runCompiler_keeps (hview : World.Calm view)
    (hnote : ∀ request, (World.onSurroundings (Surroundings.note [.compiled request])).Keeps view)
    (host : Host κ σ ι) (compiler : κ) (request : Request) {session : Session σ ι}
    (hsession : session.journal = []) : (host.runCompiler compiler request session).Keeps view := by
  rw [runCompiler_eq]
  refine .bind (hnote request) fun _ => conclude_keeps hview _ _ (Session.isQuiet_drive ?_ _)
  rw [hsession]
  exact .nil

theorem compiled_keeps_of (hview : World.Steady view)
    (hurl : (World.fileUrl : Step (World κ ι) String).Keeps view)
    (hnote : ∀ request, (World.onSurroundings (Surroundings.note [.compiled request])).Keeps view)
    (host : Host κ σ ι) : host.compiled.Keeps view := by
  refine (prepare_keeps hview hurl host).bind_of_run fun world prepared ready hprepare => ?_
  have hjournal := (prepares_of_prepare hprepare).journal
  exact Step.Keeps.bind (runCompiler_keeps hview.calm hnote host _ _ hjournal) (fun _ => .pure _) ready

theorem compiled_keeps (host : Host κ σ ι) : host.compiled.Keeps World.standing :=
  compiled_keeps_of World.standing_steady World.fileUrl_keeps_standing (fun _ _ => rfl) host

end Kept

end Host

end SassBridge
