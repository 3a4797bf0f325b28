import Mathlib
import SassBridge.Import.Bridge
import SassBridge.Proofs.Import.Cache
import SassBridge.Scripted.Importer

/-! The way of a request through the bridge: the importer names stylesheets, the compiler gets a synthetic one that
imports them, and each of them is then found under the URL that the synthetic one gives for it. -/

namespace SassBridge

variable {ι : Type}

namespace LegacyImporter

/-- The question that a receiver with these options puts to its importer about a path. -/
def request (path : String) (options : Bag) : ImportRequest :=
  ⟨path, (options.get? "filename").getD .null⟩

/-- The importer names entries for a path, and does not decline it. -/
def Names (importer : LegacyImporter ι) (path : String) (receiver after : Receiver ι)
    (entries : List ImportEntry) : Prop :=
  ∃ options, receiver.options = some options ∧
    (importer.imports (request path options) receiver = (.ok (.many (entries.map some)), after) ∨
      ∃ entry, entry.path ≠ path ∧ entries = [entry] ∧
        importer.imports (request path options) receiver = (.ok (.one entry), after))

theorem ask_eq_synthesize {importer : LegacyImporter ι} {path : String} {receiver after : Receiver ι}
    {entries : List ImportEntry} (hnames : importer.Names path receiver after entries) (cwd fileUrl : String)
    (cache : Cache) :
    ∃ question, importer.ask cwd path fileUrl cache receiver =
      synthesize cwd path fileUrl (entries.map some) cache after question := by
  obtain ⟨options, hoptions, hmany | ⟨entry, hpath, rfl, hone⟩⟩ := hnames
  · refine ⟨request path options, ?_⟩
    rw [request] at hmany
    simp only [ask, hoptions, hmany]
    rfl
  · refine ⟨request path options, ?_⟩
    rw [request] at hone
    simp only [ask, hoptions, hone, if_neg hpath]
    rfl

theorem canonicalize_unknown (importer : LegacyImporter ι) {cwd url path : String} {cache : Cache}
    (receiver : Receiver ι) (hpath : Url.toPath .posix url = .ok path)
    (hreal : cache.find? (.real (Url.ofPath .posix cwd path)) = none)
    (hsynthetic : cache.find? (.synthetic (Url.ofPath .posix cwd path)) = none) :
    importer.canonicalize cwd url cache receiver =
      importer.ask cwd path (Url.ofPath .posix cwd path) cache receiver := by
  simp only [canonicalize, hpath, hreal, hsynthetic]
  rfl

end LegacyImporter

namespace ImportEntry

/-- The last of the entries that name the same file as a path. -/
def lastFor (cwd path : String) (entries : List ImportEntry) : Option ImportEntry :=
  entries.reverse.find? fun entry => Path.absolute cwd entry.path = Path.absolute cwd path

/-- There is a last entry for the file of each entry, and the cache keeps what that one stands for. -/
theorem lastFor_spec {cwd : String} (hcwd : Path.IsAbsolute cwd) {entries : List ImportEntry}
    {entry : ImportEntry} (hentry : entry ∈ entries) :
    ∃ last, lastFor cwd entry.path entries = some last ∧ last ∈ entries ∧
      ∀ (requested : String) (cache : Cache),
        (cache.entered cwd requested entries).find? (.real (entry.url cwd)) =
          some (last.resolved cwd requested) := by
  have hsome : (lastFor cwd entry.path entries).isSome := by
    rw [lastFor, List.find?_isSome]
    exact ⟨entry, List.mem_reverse.mpr hentry, decide_eq_true rfl⟩
  obtain ⟨last, hlast⟩ := Option.isSome_iff_exists.mp hsome
  obtain ⟨hpath, later, earlier, hsplit, hlater⟩ := List.find?_eq_some_iff_append.mp hlast
  -- the cache is keyed by URLs, and those are equal exactly where the absolute paths are
  have hurl : last.url cwd = entry.url cwd :=
    (Url.ofPath_eq_iff hcwd hcwd last.path entry.path).mpr (of_decide_eq_true hpath)
  have hentries : entries = earlier.reverse ++ last :: later.reverse := by
    rw [← List.reverse_reverse entries, hsplit, List.reverse_append, List.reverse_cons, List.append_assoc,
      List.singleton_append]
  refine ⟨last, hlast, by rw [hentries]; simp, fun requested cache => ?_⟩
  rw [hentries, ← hurl]
  refine Cache.find?_entered_last (fun other hother heq => ?_) cache
  have hdiffers := hlater other (List.mem_reverse.mp hother)
  rw [decide_eq_true ((Url.ofPath_eq_iff hcwd hcwd other.path entry.path).mp (heq.trans hurl))] at hdiffers
  cases hdiffers

end ImportEntry

namespace LegacyImporter

/-- A file that is known is answered from the cache, and nobody is asked. -/
theorem canonicalize_known (importer : LegacyImporter ι) {cwd later path : String} {cache : Cache}
    {resolution : Resolution} (hcwd : Path.IsAbsolute cwd) (hlater : Path.IsAbsolute later)
    (hknown : cache.find? (.real (Url.ofPath .posix cwd path)) = some resolution) (receiver : Receiver ι) :
    importer.canonicalize later (Url.ofPath .posix cwd path) cache receiver =
      ⟨.ok (resolution.stylesheet?.map fun _ => Url.ofPath .posix cwd path), cache, receiver, none, none⟩ := by
  rw [canonicalize, Url.toPath_ofPath hcwd]
  simp only [Url.ofPath_absolute hcwd hlater, hknown]
  cases resolution <;> rfl

/-- What the cache holds after an answer: the synthetic stylesheet beside the entries. -/
theorem synthesize_ok {cwd requested fileUrl : String} {entries : List ImportEntry}
    (hlanguage : ∀ entry ∈ entries, entry.source.isSome → (Language.ofPath? entry.path).isSome)
    (cache : Cache) (receiver : Receiver ι) (question : ImportRequest) :
    synthesize cwd requested fileUrl (entries.map some) cache receiver question =
      ⟨.ok (some (CanonicalUrl.synthetic fileUrl).wire),
        (cache.entered cwd requested entries).insert (.synthetic fileUrl)
          (.stylesheet (.importing cwd (entries.map some))),
        receiver, some question,
        some (.importResolved requested (CanonicalUrl.synthetic fileUrl).wire entries.length)⟩ := by
  simp only [synthesize, Cache.registerAll_ok hlanguage, List.length_map]

/-- A request for a file of which nothing is known, to which the importer names entries: the answer is the
request's synthetic URL, under which a stylesheet imports the entries line by line, each by its own URL as it is.
The URL of an entry then stands for the last entry of its file: for the source that this one has at hand, in the
language of its path, or else for nothing that the bridge gives out. Nobody is asked for that, from whatever
directory it happens. -/
theorem canonicalize_load_entries (importer : LegacyImporter ι) {cwd url path : String} {cache : Cache}
    {receiver after : Receiver ι} {entries : List ImportEntry} (hcwd : Path.IsAbsolute cwd)
    (hpath : Url.toPath .posix url = .ok path)
    (hreal : cache.find? (.real (Url.ofPath .posix cwd path)) = none)
    (hsynthetic : cache.find? (.synthetic (Url.ofPath .posix cwd path)) = none)
    (hnames : importer.Names path receiver after entries)
    (hlanguage : ∀ entry ∈ entries, entry.source.isSome → (Language.ofPath? entry.path).isSome) :
    ∃ known sheet,
      (importer.canonicalize cwd url cache receiver).answer =
        .ok (some (CanonicalUrl.synthetic (Url.ofPath .posix cwd path)).wire) ∧
      (importer.canonicalize cwd url cache receiver).cache = known ∧
      (importer.canonicalize cwd url cache receiver).receiver = after ∧
      known.load (CanonicalUrl.synthetic (Url.ofPath .posix cwd path)).wire = some sheet ∧
      sheet.language = .scss ∧
      (entries = [] → sheet.contents = "") ∧
      (entries ≠ [] → Text.split '\n' sheet.contents.toList =
        entries.map fun entry => ("@import \"" ++ entry.url cwd ++ "\";").toList) ∧
      ∀ entry ∈ entries,
        entry.url cwd = Url.ofPath .posix cwd (Path.absolute cwd entry.path) ∧
        (∀ c ∈ (entry.url cwd).toList, 0x20 < c.toNat ∧ c.toNat < 0x7F ∧ c ∉ ['"', '\\']) ∧
        ∃ last, ImportEntry.lastFor cwd entry.path entries = some last ∧
          (∀ later anyone, Path.IsAbsolute later →
            importer.canonicalize later (entry.url cwd) known anyone =
              ⟨.ok (last.source.map fun _ => entry.url cwd), known, anyone, none, none⟩) ∧
          (∀ source, last.source = some source → ∃ language, Language.ofPath? last.path = some language ∧
            known.load (entry.url cwd) = some ⟨source, language, last.sourceMapUrl cwd path⟩) ∧
          (last.source = none → known.load (entry.url cwd) = none) := by
  obtain ⟨question, hask⟩ := ask_eq_synthesize hnames cwd (Url.ofPath .posix cwd path) cache
  rw [canonicalize_unknown importer receiver hpath hreal hsynthetic, hask, synthesize_ok hlanguage]
  obtain ⟨hempty, hlines⟩ := Stylesheet.contents_importing cwd entries
  refine ⟨(cache.entered cwd path entries).insert (.synthetic (Url.ofPath .posix cwd path))
      (.stylesheet (.importing cwd (entries.map some))), .importing cwd (entries.map some), rfl, rfl, rfl, ?_, rfl,
    hempty, fun hne => ?_, fun entry hentry => ?_⟩
  · rw [Cache.load_synthetic, Cache.find?_insert_self]
    rfl
  · rw [hlines hne]
    exact List.map_congr_left fun entry _ => by rw [entry.statement_eq]
  obtain ⟨last, hlast, hmem, hentered⟩ := ImportEntry.lastFor_spec hcwd hentry
  -- the synthetic stylesheet went in last, under a URL of another kind
  have hfound := Cache.find?_insert_of_ne (cache.entered cwd path entries)
    (CanonicalUrl.synthetic_ne_real (Url.ofPath .posix cwd path) (entry.url cwd))
    (.stylesheet (.importing cwd (entries.map some)))
  rw [hentered path cache] at hfound
  have hlast_language := hlanguage last hmem
  refine ⟨(Url.ofPath_absolute hcwd hcwd entry.path).symm, fun c => entry.char_of_mem_url cwd, last, hlast,
    fun later anyone hlater => ?_, fun source hsource => ?_, fun hnone => ?_⟩
  · rw [ImportEntry.url, canonicalize_known importer hcwd hlater hfound]
    cases hsource : last.source with
    | none =>
        rw [last.stylesheet?_of_none cwd hsource]
        rfl
    | some source =>
        obtain ⟨language, -, hsheet⟩ := last.stylesheet?_of_source cwd hlast_language hsource path
        rw [hsheet]
        rfl
  · obtain ⟨language, hknown, hsheet⟩ := last.stylesheet?_of_source cwd hlast_language hsource path
    exact ⟨language, hknown, (Cache.load_of_find? hfound).trans hsheet⟩
  · exact (Cache.load_of_find? hfound).trans (last.stylesheet?_of_none cwd hnone path)

/-- Three entries for two files, of which the last takes a source back. -/
def takenBack : List ImportEntry :=
  [⟨"a\"b.scss", some "x", none⟩, ⟨"ж?.SASS", some "y", some "m.map"⟩, ⟨"./a\"b.scss", none, none⟩]

theorem canonicalize_load_entries_takenBack :
    Path.IsAbsolute "/work/project" ∧ Url.toPath .posix "x/../the%6De" = .ok "x/../theme" ∧
    ∃ known, ((Scripted.importer ⟨[], .many (takenBack.map .entry)⟩).canonicalize "/work/project" "x/../the%6De" []
        ⟨some [], []⟩).cache = known ∧
      known.load "file:///work/project/%D0%B6%3F.SASS" =
        some ⟨"y", .indented, some "file:///work/project/theme/m.map"⟩ ∧
      known.load "file:///work/project/a%22b.scss" = none := by
  have hcwd : Path.IsAbsolute "/work/project" := by decide
  have hpath : Url.toPath .posix "x/../the%6De" = .ok "x/../theme" := by cbv
  have hnothing : ∀ url, Cache.find? [] url = none := fun _ => rfl
  have hnames : (Scripted.importer ⟨[], .many (takenBack.map .entry)⟩).Names "x/../theme" ⟨some [], []⟩
      ⟨some [], [("x/../theme", 1)]⟩ takenBack := ⟨[], rfl, Or.inl rfl⟩
  obtain ⟨known, sheet, -, hknown, -, -, -, -, -, hentries⟩ :=
    canonicalize_load_entries _ hcwd hpath (hnothing _) (hnothing _) hnames (by decide)
  refine ⟨hcwd, hpath, known, hknown, ?_, ?_⟩
  · obtain ⟨-, -, last, hlast, -, hsource, -⟩ := hentries ⟨"ж?.SASS", some "y", some "m.map"⟩ (by decide)
    have hself : ImportEntry.lastFor "/work/project" "ж?.SASS" takenBack =
        some ⟨"ж?.SASS", some "y", some "m.map"⟩ := by decide
    obtain rfl := Option.some.inj (hself.symm.trans hlast)
    obtain ⟨language, hlanguage, hload⟩ := hsource "y" rfl
    have hurl : ImportEntry.url "/work/project" ⟨"ж?.SASS", some "y", some "m.map"⟩ =
        "file:///work/project/%D0%B6%3F.SASS" := by decide
    have hmap : ImportEntry.sourceMapUrl "/work/project" "x/../theme" ⟨"ж?.SASS", some "y", some "m.map"⟩ =
        some "file:///work/project/theme/m.map" := by decide
    have hindented : Language.ofPath? "ж?.SASS" = some .indented := by decide
    obtain rfl := Option.some.inj (hindented.symm.trans hlanguage)
    rwa [hurl, hmap] at hload
  · obtain ⟨-, -, last, hlast, -, -, hnone⟩ := hentries ⟨"a\"b.scss", some "x", none⟩ (by decide)
    have hagain : ImportEntry.lastFor "/work/project" "a\"b.scss" takenBack = some ⟨"./a\"b.scss", none, none⟩ := by
      decide
    obtain rfl := Option.some.inj (hagain.symm.trans hlast)
    have hurl : ImportEntry.url "/work/project" ⟨"a\"b.scss", some "x", none⟩ = "file:///work/project/a%22b.scss" := by
      decide
    have hload := hnone rfl
    rwa [hurl] at hload

end LegacyImporter

end SassBridge
