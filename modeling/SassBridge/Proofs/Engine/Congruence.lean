import SassBridge.Proofs.Engine.Snapshot

/-! Renders in worlds that differ. A relation between worlds that every step of a render respects is respected by the
whole render: it comes to the same in both worlds, whatever the compiler asks meanwhile. -/

namespace SassBridge

variable {κ σ ι : Type}

/-- Whether related worlds are the same in what a render reads itself, and stay related in what it asks for and in what
it leaves behind. -/
structure World.Congruence (isTrue : κ → Bool) (related : World κ ι → World κ ι → Prop) : Prop where
  cwd : ∀ {world other}, related world other → world.surroundings.cwd = other.surroundings.cwd
  template : ∀ {world other}, related world other → world.engine.template = other.engine.template
  options : ∀ {world other}, related world other → world.engine.options = other.engine.options
  bag : ∀ {world other}, related world other → world.engine.bag = other.engine.bag
  importer : ∀ {world other}, related world other → world.engine.importer = other.engine.importer
  loadPaths : (World.loadPaths : Step (World κ ι) (List String)).Agrees related
  fileUrl : (World.fileUrl : Step (World κ ι) String).Agrees related
  chooseCompiler : (Host.chooseCompiler isTrue : Step (World κ ι) κ).Agrees related
  note : ∀ entries, (World.onSurroundings (Surroundings.note entries) : Step (World κ ι) Unit).Agrees related
  session : ∀ {world other} bag importer, related world other →
    related { world with engine := { world.engine with bag := bag, importer := importer } }
      { other with engine := { other.engine with bag := bag, importer := importer } }
  dependencies : ∀ dependencies?, (World.modifyEngine fun engine =>
    { engine with dependencies? := dependencies? } : Step (World κ ι) Unit).Agrees related
  sourceMap : ∀ sourceMap?, (World.modifyEngine fun engine =>
    { engine with sourceMap? := sourceMap?, rendered := true } : Step (World κ ι) Unit).Agrees related

namespace World.Congruence

variable {host : Host κ σ ι} {related : World κ ι → World κ ι → Prop} (hrelated : Congruence host.isTrue related)

include hrelated

theorem startSession : host.startSession.Agrees related := by
  refine .get_bind ?_ fun world => ?_
  · intro world other hsame
    simp only [hrelated.cwd hsame, hrelated.options hsame, hrelated.bag hsame, hrelated.importer hsame]
  · refine .bind (.ofExcept _) fun set => ?_
    refine .bind (.ofExcept _) fun functions => ?_
    exact .bind (hrelated.note _) fun _ => .ofExcept _

theorem draft : host.draft.Agrees related := by
  refine .bind hrelated.loadPaths fun loadPaths => ?_
  refine .bind hrelated.fileUrl fun url => ?_
  refine .get_bind ?_ fun world => ?_
  · intro world other hsame
    simp only [Engine.style, hrelated.options hsame]
  refine .bind (.ofExcept _) fun style => ?_
  refine .bind (hrelated.startSession) fun session => ?_
  refine .get_bind ?_ fun world => ?_
  · intro world other hsame
    simp only [Host.request_congr (hrelated.template hsame) (hrelated.options hsame)]
  · exact .bind (.ofExcept _) fun _ => .pure _

theorem prepare : host.prepare.Agrees related := by
  rw [Host.prepare_eq_draft]
  refine .bind (hrelated.draft) fun draft => ?_
  refine .bind hrelated.chooseCompiler fun compiler => ?_
  exact .bind (hrelated.note _) fun _ => .pure _

theorem keepSession (session : Session σ ι) : (Host.keepSession session : Step (World κ ι) Unit).Agrees related := by
  refine .bind (hrelated.note _) fun _ => .modify fun world other hsame => ?_
  simp only [hrelated.importer hsame]
  exact hrelated.session _ _ hsame

theorem deliver (url : String) (outcome : Except Failure CompileResult) :
    (Host.deliver url outcome : Step (World κ ι) CompileResult).Agrees related := by
  rw [Host.deliver.eq_def]
  cases outcome with
  | ok result => exact .pure result
  | error failure =>
      by_cases hreport : failure.kind = .compilation
      · simp only [if_pos hreport]
        refine .get_bind (fun world other hsame => ?_) fun world => ?_
        · rw [hrelated.cwd hsame]
        · refine .bind (.ofExcept _) fun report => ?_
          cases report <;>
            first
            | exact .fail _
            | exact .bind (hrelated.note _) fun _ => .fail _
      · simp only [if_neg hreport]
        exact .fail failure

theorem compiled : host.compiled.Agrees related := by
  refine .bind (hrelated.prepare) fun prepared => ?_
  rw [Host.runCompiler_eq, Host.conclude_eq]
  refine .bind ?_ fun _ => .pure _
  refine .bind (hrelated.note _) fun _ => ?_
  exact .bind (hrelated.keepSession _) fun _ => hrelated.deliver _ _

theorem keepResult (url : String) (result : CompileResult) :
    (Host.keepResult url result : Step (World κ ι) Unit).Agrees related := by
  refine .bind (.ofExcept _) fun dependencies => ?_
  refine .bind (hrelated.dependencies _) fun _ => ?_
  refine .bind ?_ fun sourceMap => ?_
  · refine .get_bind (fun world other hsame => ?_) fun world => ?_
    · rw [hrelated.cwd hsame]
    · cases (result.sourceMap.map Datum.text).getD .null with
      | null => exact .pure none
      | text text => exact .bind (.ofExcept _) fun _ => .pure _
      | _ => exact .fail _
  · exact .bind (hrelated.sourceMap _) fun _ => hrelated.note _

/-- The end of a render. What is given back depends on the source map that was just kept. -/
theorem finish (url : String) (result : CompileResult) :
    (Host.keepResult url result >>= fun _ => Host.giveBack result.css : Step (World κ ι) (Option String)).Agrees
      related := by
  intro world other hsame
  constructor
  · have hoptions : world.engine.SameOptions other.engine := ⟨hrelated.template hsame, hrelated.options hsame⟩
    have hown : Rendering.cwd ⟨world.surroundings.cwd, url, result⟩ = world.surroundings.cwd := rfl
    have hother : Rendering.cwd ⟨world.surroundings.cwd, url, result⟩ = other.surroundings.cwd := hrelated.cwd hsame
    refine (Host.keepResult_treats hown).trans ?_
    rw [hoptions.treat_eq]
    exact (Host.keepResult_treats hother).symm
  · have hafter (world : World κ ι) :
        id ((Host.keepResult url result >>= fun _ => Host.giveBack result.css).run world).2 =
          id ((Host.keepResult url result).run world).2 := Step.Keeps.view_run_bind id fun _ _ _ => rfl
    have hkept := (hrelated.keepResult url result world other hsame).2
    simp only [id_eq] at hafter
    rwa [hafter, hafter]

/-- In related worlds a render comes to the same and leaves related worlds. -/
theorem render : host.render.Agrees related := by
  refine .get_bind (fun world other hsame => ?_) fun world => ?_
  · simp only [hrelated.template hsame]
  · by_cases htemplate : world.engine.template.isTrue
    · rw [if_pos htemplate, Host.renderTemplate_eq]
      exact .bind (hrelated.compiled) fun compiled => hrelated.finish compiled.1 compiled.2
    · rw [if_neg htemplate]
      exact .pure _

end World.Congruence

end SassBridge
