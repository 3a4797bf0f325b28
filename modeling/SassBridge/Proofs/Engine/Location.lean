import SassBridge.Proofs.Engine.CompileError
import SassBridge.Proofs.Import.Cache
import SassBridge.Proofs.Path.Relative

/-! The place of an error in a stylesheet. A stylesheet that was written as a URL is named by the way to it from the
working directory, whether the compiler got at it by its own URL or by the synthetic one; any other URL is kept. -/

namespace SassBridge

variable {κ σ ι : Type}

namespace Url

/-- The two URLs by which a compiler can get at the stylesheet of a path. -/
def IsSheetOf (cwd path url : String) : Prop :=
  url = ofPath .posix cwd path ∨ url = (CanonicalUrl.synthetic (ofPath .posix cwd path)).wire

theorem IsSheetOf.fileUrl_eq {cwd path url : String} (hurl : IsSheetOf cwd path url) :
    (CanonicalUrl.ofWire url).fileUrl = ofPath .posix cwd path := by
  rcases hurl with rfl | rfl
  · rw [CanonicalUrl.ofWire_ofPath]
    rfl
  · rw [CanonicalUrl.ofWire_synthetic]
    rfl

theorem isFile_ofPath (cwd path : String) : isFile (ofPath .posix cwd path) = true := by
  have hchars : (ofPath .posix cwd path).toList = ofPathChars .posix cwd.toList path.toList := String.toList_ofList
  have hstart : fileStart = ['f', 'i', 'l', 'e', ':'] ++ ['/', '/'] := rfl
  rw [isFile, Text.startsWith, hchars, List.isPrefixOf_iff_prefix, ofPathChars, hstart]
  exact (List.prefix_append ['f', 'i', 'l', 'e', ':'] ['/', '/']).trans (List.prefix_append _ _)

end Url

namespace CanonicalUrl

theorem ofWire_of_not_scheme {url : String} (hurl : Text.startsWith scheme url = false) : ofWire url = real url := by
  rw [ofWire]
  cases hstart : Text.dropStart? scheme.toList url.toList with
  | none => rfl
  | some rest =>
      have happend := List.isPrefixOf?_eq_some_iff_append_eq.mp hstart
      rw [Text.startsWith, ← happend, List.isPrefixOf_iff_prefix.mpr (List.prefix_append ..)] at hurl
      cases hurl

end CanonicalUrl

namespace SourceMap

/-- The name of a stylesheet depends on its path only, and leads back to it. -/
theorem spanFilename_of_sheet {cwd path : String} (hcwd : Path.root cwd.toList = ['/'])
    (hpath : Path.root (Path.absolute cwd path).toList = ['/']) :
    ∃ filename : String, filename.toList.head? ≠ some '/' ∧
      Path.normalize (Path.join cwd filename) = Path.absolute cwd path ∧
      ∀ url, Url.IsSheetOf cwd path url → spanFilename cwd url = .ok filename := by
  obtain ⟨way, hway, hhead, hjoin⟩ := Path.relative?_absolute hcwd hpath
  refine ⟨way, hhead, hjoin, fun url hurl => ?_⟩
  have habsolute : Path.IsAbsolute cwd := by
    rw [Path.IsAbsolute, hcwd]
    exact List.cons_ne_nil _ _
  rw [spanFilename, hurl.fileUrl_eq, if_pos (Url.isFile_ofPath cwd path), relativePath, Url.toPath_ofPath habsolute]
  simp only [hway]

theorem spanFilename_of_other {cwd url : String} (hfile : Url.isFile url = false)
    (hscheme : Text.startsWith CanonicalUrl.scheme url = false) : spanFilename cwd url = .ok url := by
  have hreal : (CanonicalUrl.ofWire url).fileUrl = url := by
    rw [CanonicalUrl.ofWire_of_not_scheme hscheme]
    rfl
  simp [spanFilename, hreal, hfile]

end SourceMap

namespace Host

/-- Whether the compiler reports an error in a render, in a line of a stylesheet. Lines count from zero. -/
def ReportsAt (host : Host κ σ ι) (world : World κ ι) (message : String) (line : Int) (url : String) : Prop :=
  host.compilerOutcome? world = some (.error (.compilation message (some ⟨line, some url⟩)))

/-- Whether a render ends with such a report, translated, with a name for the stylesheet. -/
def EndsAt (host : Host κ σ ι) (world : World κ ι) (message : String) (line : Int) (url filename : String) : Prop :=
  ∃ failure, (host.render.run world).1 = .error failure ∧
    failure = .stylesheet message (some filename) (some (line + 1))
      (some (.compilation message (some ⟨line, some url⟩))) ∧
    failure.location? = some (filename ++ ":" ++ (Numeral.int (line + 1)).toText)

theorem ReportsAt.endsAt {host : Host κ σ ι} {world : World κ ι} {message : String} {line : Int}
    {url filename : String} (hreports : host.ReportsAt world message line url)
    (hfilename : SourceMap.spanFilename world.surroundings.cwd url = .ok filename) :
    host.EndsAt world message line url filename := by
  refine ⟨_, ?_, rfl, rfl⟩
  rw [render_of_report hreports rfl]
  exact congrArg Except.error (Failure.final_of_named rfl hfilename)

/-- An error in a stylesheet is placed by a name that leads from the working directory to the stylesheet, one name for
both of its URLs, and by a line that counts from one. A URL that is neither a `file:` URL nor a synthetic one is the
name itself. -/
theorem report_located :
    (∀ {cwd path : String}, Path.root cwd.toList = ['/'] → Path.root (Path.absolute cwd path).toList = ['/'] →
      ∃ filename : String, filename.toList.head? ≠ some '/' ∧
        Path.normalize (Path.join cwd filename) = Path.absolute cwd path ∧
        ∀ (host : Host κ σ ι) (world : World κ ι) (message : String) (line : Int) (url : String),
          world.surroundings.cwd = cwd → Url.IsSheetOf cwd path url → host.ReportsAt world message line url →
            host.EndsAt world message line url filename) ∧
    ∀ (host : Host κ σ ι) (world : World κ ι) (message : String) (line : Int) (url : String),
      Url.isFile url = false → Text.startsWith CanonicalUrl.scheme url = false →
        host.ReportsAt world message line url → host.EndsAt world message line url url := by
  constructor
  · intro cwd path hcwd hpath
    obtain ⟨filename, hhead, hjoin, hnames⟩ := SourceMap.spanFilename_of_sheet hcwd hpath
    refine ⟨filename, hhead, hjoin, ?_⟩
    rintro host world message line url rfl hurl hreports
    exact hreports.endsAt (hnames url hurl)
  · intro host world message line url hfile hscheme hreports
    exact hreports.endsAt (SourceMap.spanFilename_of_other hfile hscheme)

/-- A report on a stylesheet beside the project, by its synthetic URL, and one on a stylesheet from elsewhere. -/
theorem report_located_beside :
    let sheet := (CanonicalUrl.synthetic "file:///work/kit/a%20%23.scss").wire
    let reporting url := Engine.compilingTo (.error (.compilation "boom" (some ⟨2, some url⟩)))
    (∃ filename : String, filename.toList.head? ≠ some '/' ∧
      Path.normalize (Path.join "/work/project" filename) = "/work/kit/a #.scss" ∧
      (reporting sheet).host.EndsAt (Engine.plain.worldOn (reporting sheet)) "boom" 2 sheet filename) ∧
    (reporting "pkg:kit").host.EndsAt (Engine.plain.worldOn (reporting "pkg:kit")) "boom" 2 "pkg:kit" "pkg:kit" := by
  intro sheet reporting
  have hpath : Path.absolute "/work/project" "../kit/a #.scss" = "/work/kit/a #.scss" := by decide
  have hsheet : Url.IsSheetOf "/work/project" "../kit/a #.scss" sheet := Or.inr (by decide)
  obtain ⟨filename, hhead, hjoin, hends⟩ :=
    report_located.1 (by decide : Path.root "/work/project".toList = ['/'])
      (by rw [hpath]; decide : Path.root (Path.absolute "/work/project" "../kit/a #.scss").toList = ['/'])
  rw [hpath] at hjoin
  refine ⟨⟨filename, hhead, hjoin, ?_⟩, ?_⟩
  · exact hends _ _ "boom" 2 sheet rfl hsheet (compilerOutcome?_plain _)
  · exact report_located.2 _ _ "boom" 2 "pkg:kit" (by decide) (by decide) (compilerOutcome?_plain _)

end Host

end SassBridge
