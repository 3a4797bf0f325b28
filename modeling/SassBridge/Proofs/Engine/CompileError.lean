import SassBridge.Proofs.Engine.LastResult
import SassBridge.Proofs.Engine.Requests

/-! What becomes of the report of a stylesheet that does not compile. The report is put into the form of the legacy
interface, for which the URL of its span is made a file name. If that fails, the report is lost. -/

namespace SassBridge

variable {κ σ ι : Type}

namespace SourceMap

/-- Whether a URL of a span can be made a file name: it is no `file:` URL, or one with a sound host and a path. -/
def IsNameable (url : String) : Prop :=
  let fileUrl := (CanonicalUrl.ofWire url).fileUrl
  Url.isFile fileUrl → ∃ path, Url.toPath .posix fileUrl = .ok path ∧ path ≠ ""

theorem exists_relativePath_iff (cwd url : String) :
    (∃ relative, relativePath cwd url = .ok relative) ↔ ∃ path, Url.toPath .posix url = .ok path ∧ path ≠ "" := by
  rw [relativePath]
  cases Url.toPath .posix url with
  | error fault => simp
  | ok path =>
      by_cases hempty : path = ""
      · simp [Path.relative?, hempty]
      · simp [Path.relative?, hempty]

theorem exists_spanFilename_iff (cwd url : String) :
    (∃ filename, spanFilename cwd url = .ok filename) ↔ IsNameable url := by
  rw [spanFilename, IsNameable]
  by_cases hfile : Url.isFile (CanonicalUrl.ofWire url).fileUrl
  · rw [if_pos hfile, exists_relativePath_iff]
    exact ⟨fun hpath _ => hpath, fun hpath => hpath hfile⟩
  · rw [if_neg hfile]
    exact iff_of_true ⟨url, rfl⟩ fun hother => absurd hother hfile

/-- All that can go wrong with a file name is its URL. -/
theorem kind_of_spanFilename {cwd url : String} {failure : Failure}
    (hfilename : spanFilename cwd url = .error failure) : failure.kind = .valueError := by
  rw [spanFilename] at hfilename
  split at hfilename
  · rw [relativePath] at hfilename
    split at hfilename
    · cases hfilename
      rfl
    · split at hfilename
      · cases hfilename
      · cases hfilename
        rfl
  · cases hfilename

end SourceMap

namespace Failure

/-- The report of a stylesheet that does not compile, with a name for its file. -/
def translated (failure : Failure) (filename : Option String) : Failure :=
  stylesheet failure.reportText filename (failure.span?.map fun span => span.line + 1) (some failure)

/-- The URL of the span of a report. -/
def url? (failure : Failure) : Option String :=
  failure.span?.bind Span.url

/-- What a render with such a report ends with: its translation, or what went wrong with that. -/
def final (cwd : String) (failure : Failure) : Failure :=
  match failure.ofCompilation cwd with
  | .ok ending | .error ending => ending

variable {cwd url : String} {failure : Failure}

theorem kind_translated (failure : Failure) (filename : Option String) :
    (failure.translated filename).kind = .stylesheetSyntax :=
  rfl

theorem final_of_no_url (hurl : failure.url? = none) : failure.final cwd = failure.translated none := by
  rw [url?] at hurl
  simp only [final, ofCompilation, hurl]
  rfl

theorem final_of_named {name : String} (hurl : failure.url? = some url)
    (hname : SourceMap.spanFilename cwd url = .ok name) : failure.final cwd = failure.translated (some name) := by
  rw [url?] at hurl
  simp only [final, ofCompilation, hurl, hname]
  rfl

theorem final_of_unnamed {masking : Failure} (hurl : failure.url? = some url)
    (hname : SourceMap.spanFilename cwd url = .error masking) : failure.final cwd = masking := by
  rw [url?] at hurl
  simp only [final, ofCompilation, hurl, hname]
  rfl

theorem kind_final_of_not_nameable (hurl : failure.url? = some url) (hunnameable : ¬SourceMap.IsNameable url) :
    (failure.final cwd).kind = .valueError := by
  cases hname : SourceMap.spanFilename cwd url with
  | ok name => exact absurd ((SourceMap.exists_spanFilename_iff cwd url).mp ⟨name, hname⟩) hunnameable
  | error masking =>
      rw [final_of_unnamed hurl hname]
      exact SourceMap.kind_of_spanFilename hname

theorem final_translated_iff (cwd : String) (failure : Failure) :
    (∃ filename, failure.final cwd = failure.translated filename) ↔
      ∀ url, failure.url? = some url → SourceMap.IsNameable url := by
  constructor
  · rintro ⟨filename, hfinal⟩ url hurl
    by_contra hunnameable
    have hkind : (failure.final cwd).kind = .valueError := kind_final_of_not_nameable hurl hunnameable
    rw [hfinal, kind_translated] at hkind
    cases hkind
  · intro hnameable
    cases hurl : failure.url? with
    | none => exact ⟨none, final_of_no_url hurl⟩
    | some url =>
        obtain ⟨name, hname⟩ := (SourceMap.exists_spanFilename_iff cwd url).mpr (hnameable url hurl)
        exact ⟨some name, final_of_named hurl hname⟩

end Failure

namespace Host

/-- What the compiler comes to in a render, if the render hands it a request. -/
def compilerOutcome? (host : Host κ σ ι) (world : World κ ι) : Option (Except Failure CompileResult) :=
  (host.prepared? world).map fun prepared =>
    (prepared.session.drive (host.compile prepared.compiler prepared.request)).1

theorem conclude_of_report {failure : Failure} (hkind : failure.kind = .compilation) (url : String)
    (session : Session σ ι) (world : World κ ι) :
    ((conclude url (.error failure) session).run world).1 = .error (failure.final world.surroundings.cwd) := by
  have hkept : (keepSession session : Step (World κ ι) Unit).run world =
      (.ok (), ((keepSession session : Step (World κ ι) Unit).run world).2) := rfl
  rw [conclude, Step.run_bind_of_ok hkept, Failure.final]
  simp only [if_pos hkind]
  rw [Step.run_get_bind]
  change ((Step.ofExcept (failure.ofCompilation world.surroundings.cwd) >>= _ : Step (World κ ι) _).run _).1 = _
  cases failure.ofCompilation world.surroundings.cwd with
  | error masking => rfl
  | ok report => cases report <;> rfl

theorem render_of_report {host : Host κ σ ι} {world : World κ ι} {failure : Failure}
    (houtcome : host.compilerOutcome? world = some (.error failure)) (hkind : failure.kind = .compilation) :
    (host.render.run world).1 = .error (failure.final world.surroundings.cwd) := by
  obtain ⟨prepared, hprepared, hfailed⟩ := Option.map_eq_some_iff.mp houtcome
  obtain ⟨htemplate, ready, hprepare⟩ := exists_run_of_prepared? hprepared
  have hcwd : ready.surroundings.cwd = world.surroundings.cwd := by
    have hkeeps := prepare_keeps World.standing_steady World.fileUrl_keeps_standing host world
    rw [hprepare] at hkeeps
    exact congrArg Standing.cwd hkeeps
  rw [render, Step.run_get_bind, if_pos htemplate, renderTemplate_eq]
  apply Step.outcome_bind_of_error
  rw [compiled, Step.run_bind_of_ok hprepare]
  apply Step.outcome_bind_of_error
  rw [runCompiler_eq, Step.run_bind_of_ok (World.note_run _ ready)]
  simp only [hfailed]
  rw [conclude_of_report hkind]
  exact congrArg (fun cwd => Except.error (failure.final cwd)) hcwd

/-- If a compiler reports that a stylesheet does not compile, the render ends with the translation of the report
exactly if the URL of its span can be made a file name. Otherwise what is wrong with that URL takes its place. -/
theorem report_translated_iff {host : Host κ σ ι} {world : World κ ι} {failure : Failure}
    (houtcome : host.compilerOutcome? world = some (.error failure)) (hkind : failure.kind = .compilation) :
    ((∃ filename, (host.render.run world).1 = .error (failure.translated filename)) ↔
      ∀ url, failure.url? = some url → SourceMap.IsNameable url) ∧
    ∀ url, failure.url? = some url → ¬SourceMap.IsNameable url →
      ∃ masking, (host.render.run world).1 = .error masking ∧ masking.kind = .valueError := by
  rw [render_of_report houtcome hkind]
  constructor
  · rw [← Failure.final_translated_iff world.surroundings.cwd]
    exact exists_congr fun filename => ⟨Except.error.inj, congrArg Except.error⟩
  · intro url hurl hunnameable
    exact ⟨_, rfl, Failure.kind_final_of_not_nameable hurl hunnameable⟩

/-- The compiler of the occasion comes to its outcome. -/
theorem compilerOutcome?_plain (outcome : Except Failure CompileResult) :
    (Engine.compilingTo outcome).host.compilerOutcome? (Engine.plain.worldOn (Engine.compilingTo outcome)) =
      some outcome := by
  cbv

/-- A report on a file of the project is translated. -/
theorem report_translated_iff_theme :
    let failure := Failure.compilation "expected \";\"" (some ⟨2, some "file:///work/project/_theme.scss"⟩)
    ∃ filename, (Engine.plain.renderOn (Engine.compilingTo (.error failure))).1 =
      .error (.stylesheet "expected \";\"" filename (some 3) (some failure)) := by
  intro failure
  refine (report_translated_iff (compilerOutcome?_plain (.error failure)) rfl).1.mpr ?_
  rintro url ⟨⟩ -
  exact ⟨"/work/project/_theme.scss", by cbv, by decide⟩

/-- A report on a URL without a path is lost: the render ends with what is wrong with the URL. -/
theorem report_masked :
    let failure := Failure.compilation "boom" (some ⟨0, some "file:"⟩)
    let occasion := Engine.compilingTo (.error failure)
    occasion.host.compilerOutcome? (Engine.plain.worldOn occasion) = some (.error failure) ∧
      (Engine.plain.renderOn occasion).1 = .error .emptyPath ∧
      ¬∃ filename, (Engine.plain.renderOn occasion).1 =
        .error (.stylesheet "boom" filename (some 1) (some failure)) := by
  intro failure occasion
  have hmasked : (Engine.plain.renderOn occasion).1 = .error .emptyPath := by cbv
  refine ⟨compilerOutcome?_plain (.error failure), hmasked, ?_⟩
  rintro ⟨filename, htranslated⟩
  rw [hmasked] at htranslated
  cases htranslated

end Host

end SassBridge
