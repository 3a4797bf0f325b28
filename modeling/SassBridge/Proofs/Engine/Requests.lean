import SassBridge.Proofs.Engine.Render

/-! What the compiler is handed. A render hands it the request that it prepared, if it comes to that, and nothing else,
whatever the compiler asks of functions and importers meanwhile. -/

namespace SassBridge

variable {κ σ ι : Type}

/-- Whether a view sees nothing of what an engine shows of its renders. -/
def World.IgnoresResults {T : Type} (view : World κ ι → T) : Prop :=
  ∀ (world : World κ ι) dependencies? sourceMap? rendered, view { world with
    engine := { world.engine with dependencies? := dependencies?, sourceMap? := sourceMap?, rendered := rendered } } =
      view world

/-- Whether a calm view sees nothing of what an engine shows of its renders either. -/
structure World.CalmToEnd {T : Type} (view : World κ ι → T) : Prop extends World.Calm view where
  shown : World.IgnoresResults view

theorem World.requests_calmToEnd : CalmToEnd (requests : World κ ι → List Request) :=
  ⟨requests_steady.calm, fun _ _ _ _ => rfl⟩

theorem World.knownUrl?_calmToEnd : CalmToEnd (knownUrl? : World κ ι → Option String) :=
  ⟨knownUrl?_steady.calm, fun _ _ _ _ => rfl⟩

namespace Host

section Kept

variable {T : Type} {view : World κ ι → T}

theorem relativizeSourceMap_keeps (sourceMap : Datum) :
    (World.relativizeSourceMap sourceMap : Step (World κ ι) _).Keeps view := by
  refine .bind .get fun world => ?_
  cases sourceMap with
  | null => exact .pure none
  | text text => exact .bind (.ofExcept _) fun _ => .pure _
  | _ => exact .fail _

/-- What keeping a result changes is what the engine shows. -/
theorem keepResult_keeps (hnotes : World.IgnoresNotes view) (hresults : World.IgnoresResults view) (url : String)
    (result : CompileResult) : (keepResult url result).Keeps view := by
  refine .bind (.ofExcept _) fun dependencies => ?_
  refine .bind (.modify fun world => hresults world _ _ _) fun _ => ?_
  refine .bind (relativizeSourceMap_keeps _) fun sourceMap => ?_
  refine .bind (.modify fun world => hresults world _ _ _) fun _ => ?_
  exact hnotes.report rfl

theorem giveBack_keeps (css : String) : (giveBack css).Keeps view :=
  fun _ => rfl

/-- What is seen after a render is what is seen when the compiler is done. -/
theorem view_render (hnotes : World.IgnoresNotes view) (hresults : World.IgnoresResults view) (host : Host κ σ ι)
    (world : World κ ι) :
    view (host.render.run world).2 =
      if world.engine.template.isTrue then view (host.compiled.run world).2 else view world := by
  rw [render, Step.run_get_bind]
  by_cases htemplate : world.engine.template.isTrue
  · rw [if_pos htemplate, if_pos htemplate, renderTemplate_eq]
    apply Step.Keeps.view_run_bind
    rintro ⟨url, result⟩ after -
    exact Step.Keeps.bind (keepResult_keeps hnotes hresults url result) (fun _ => giveBack_keeps result.css) after
  · rw [if_neg htemplate, if_neg htemplate]
    rfl

/-- A view that does not see that the request is noted sees nothing of what comes after the preparation. -/
theorem view_render_of_noted (hview : World.CalmToEnd view)
    (hnote : ∀ request, (World.onSurroundings (Surroundings.note [.compiled request])).Keeps view)
    (host : Host κ σ ι) (world : World κ ι) :
    view (host.render.run world).2 =
      if world.engine.template.isTrue then view (host.prepare.run world).2 else view world := by
  have hcompiled : view (host.compiled.run world).2 = view (host.prepare.run world).2 := by
    apply Step.Keeps.view_run_bind
    intro prepared ready hprepare
    have hjournal := (prepares_of_prepare hprepare).journal
    exact Step.Keeps.bind (runCompiler_keeps hview.toCalm hnote host _ _ hjournal) (fun _ => .pure _) ready
  rw [view_render hview.note hview.shown, hcompiled]

/-- What a render keeps altogether. -/
theorem render_keeps (hview : World.Steady view) (hshown : World.CalmToEnd view)
    (hurl : (World.fileUrl : Step (World κ ι) String).Keeps view)
    (hnote : ∀ request, (World.onSurroundings (Surroundings.note [.compiled request])).Keeps view)
    (host : Host κ σ ι) : host.render.Keeps view := by
  intro world
  rw [view_render_of_noted hshown hnote, prepare_keeps hview hurl]
  exact ite_self _

end Kept

/-- What a render has at hand for the compiler, if it comes to that. An empty template is not compiled. -/
def prepared? (host : Host κ σ ι) (world : World κ ι) : Option (Prepared κ σ ι) :=
  if world.engine.template.isTrue then (host.prepare.run world).1.toOption else none

/-- The request of a render, if it comes to that. -/
def request? (host : Host κ σ ι) (world : World κ ι) : Option Request :=
  (host.prepared? world).map Prepared.request

theorem exists_run_of_prepared? {host : Host κ σ ι} {world : World κ ι} {prepared : Prepared κ σ ι}
    (hprepared : host.prepared? world = some prepared) :
    world.engine.template.isTrue ∧ ∃ ready, host.prepare.run world = (.ok prepared, ready) := by
  rw [prepared?] at hprepared
  split at hprepared
  · rename_i htemplate
    rcases hprepare : host.prepare.run world with ⟨failure | other, ready⟩
    · rw [hprepare] at hprepared
      cases hprepared
    · rw [hprepare] at hprepared
      obtain rfl := Option.some.inj hprepared
      exact ⟨htemplate, ready, rfl⟩
  · cases hprepared

theorem requests_runCompiler (host : Host κ σ ι) (compiler : κ) (request : Request) {session : Session σ ι}
    (hsession : session.journal = []) (world : World κ ι) :
    ((host.runCompiler compiler request session).run world).2.requests = world.requests ++ [request] := by
  have hdriven : (session.drive (host.compile compiler request)).2.journal.IsQuiet := by
    refine Session.isQuiet_drive ?_ _
    rw [hsession]
    exact .nil
  rw [runCompiler_eq, Step.run_bind_of_ok (World.note_run _ world)]
  rw [conclude_keeps World.requests_steady.calm _ _ hdriven, World.requests_noted]
  rfl

theorem requests_compiled (host : Host κ σ ι) (world : World κ ι) :
    (host.compiled.run world).2.requests =
      world.requests ++ ((host.prepare.run world).1.toOption.map Prepared.request).toList := by
  have hkeeps := prepare_keeps World.requests_steady World.fileUrl_keeps_requests host world
  rw [compiled]
  rcases hprepare : host.prepare.run world with ⟨failure | prepared, ready⟩
  · rw [hprepare] at hkeeps
    rw [Step.run_bind_of_error hprepare, hkeeps]
    exact (List.append_nil _).symm
  · rw [hprepare] at hkeeps
    rw [Step.run_bind_of_ok hprepare, Step.Keeps.view_run_bind World.requests fun _ _ _ => rfl]
    rw [requests_runCompiler host _ _ (prepares_of_prepare hprepare).journal, hkeeps]
    rfl

/-- A render hands one request to the compiler, or none. -/
theorem requests_render (host : Host κ σ ι) (world : World κ ι) :
    (host.render.run world).2.requests = world.requests ++ (host.request? world).toList := by
  rw [view_render World.requests_calmToEnd.note World.requests_calmToEnd.shown, requests_compiled, request?, prepared?]
  by_cases htemplate : world.engine.template.isTrue
  · rw [if_pos htemplate, if_pos htemplate]
  · rw [if_neg htemplate, if_neg htemplate]
    exact (List.append_nil _).symm

theorem outlook_render (host : Host κ σ ι) (world : World κ ι) :
    (host.render.run world).2.surroundings.outlook = world.surroundings.outlook := by
  have hsteady : World.Steady fun world : World κ ι => world.surroundings.outlook :=
    ⟨fun _ _ hfixed => congrArg Prod.fst hfixed, fun _ _ _ => rfl⟩
  refine render_keeps hsteady ⟨hsteady.calm, fun _ _ _ _ => rfl⟩ ?_ ?_ host world
  · intro world
    rw [World.fileUrl_run]
  · intro request world
    change (world.noted _).surroundings.outlook = world.surroundings.outlook
    rw [Surroundings.outlook_eq, Surroundings.outlook_eq]
    rfl

/-! A render settles the URL of the template once it has its load paths. -/

theorem knownUrl?_prepare (host : Host κ σ ι) (world : World κ ι) :
    (host.prepare.run world).2.knownUrl? =
      if (Surroundings.loadPaths.run world.surroundings).1.isOk then some world.templateUrl else world.knownUrl? := by
  have hpaths := World.loadPaths_run world
  have hurl : ((World.loadPaths : Step (World κ ι) _).run world).2.templateUrl = world.templateUrl :=
    World.templateUrl_steady.loadPaths world
  rw [hpaths] at hurl
  rw [prepare_eq]
  cases hshared : (Surroundings.loadPaths.run world.surroundings).1 with
  | error failure =>
      rw [hshared] at hpaths
      rw [Step.run_bind_of_error hpaths]
      rfl
  | ok shared =>
      rw [hshared] at hpaths
      rw [Step.run_bind_of_ok hpaths, Step.run_bind_of_ok (World.fileUrl_run _), hurl]
      exact World.knownUrl?_steady.prepareAt host _ _ _

theorem knownUrl?_render (host : Host κ σ ι) (world : World κ ι) :
    (host.render.run world).2.knownUrl? =
      if world.engine.template.isTrue ∧ (Surroundings.loadPaths.run world.surroundings).1.isOk then
        some world.templateUrl
      else world.knownUrl? := by
  rw [view_render_of_noted World.knownUrl?_calmToEnd fun _ _ => rfl, knownUrl?_prepare, ite_and]

end Host

end SassBridge
