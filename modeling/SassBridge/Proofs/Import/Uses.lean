import SassBridge.Proofs.Import.Request
import SassBridge.Scripted.Importer
import SassBridge.Session

/-! An importer in use: requests, look-ups and written options in any order, failures among them. What one use keeps is
kept by all of them. A file that was settled once is therefore never asked for again, and an answer stands until an
entry names its file. -/

namespace SassBridge

variable {ι : Type}

/-- What is done with an importer while a compiler works. -/
inductive ImportUse where
  /-- Resolves a URL, in the working directory of that time. -/
  | canonicalize (cwd url : String)
  | load (url : String)
  /-- Writes an option into the bag that the importer sees. -/
  | setOption (name : String) (value : Datum)

inductive ImportAnswer where
  | url (answer : Except Failure (Option String))
  | sheet (sheet : Option Stylesheet)
  | nothing

/-- What is known of canonical URLs, and the importer. -/
structure ImportState (ι : Type) where
  cache : Cache
  receiver : Receiver ι

/-- The answer to a use, the question if the importer was asked, and what the use leaves. -/
structure Served (ι : Type) where
  answer : ImportAnswer
  asked : Option ImportRequest
  state : ImportState ι

/-- Whether a URL is a way to name a file, in a working directory. -/
def NamesFile (cwd url file : String) : Prop :=
  Path.IsAbsolute cwd ∧ ∃ path, Url.toPath .posix url = .ok path ∧ Path.absolute cwd path = file

/-- The URL of a file does not depend on the working directory. -/
theorem NamesFile.ofPath_eq {cwd directory url file : String} (hfile : NamesFile directory url file)
    (hcwd : Path.IsAbsolute cwd) : Url.ofPath .posix cwd file = Url.ofPath .posix directory file := by
  obtain ⟨hdirectory, path, -, rfl⟩ := hfile
  rw [Url.ofPath_absolute hdirectory hcwd, Url.ofPath_absolute hdirectory hdirectory]

namespace LegacyImporter

variable (importer : LegacyImporter ι)

def serve (state : ImportState ι) : ImportUse → Served ι
  | .canonicalize cwd url =>
    let outcome := importer.canonicalize cwd url state.cache state.receiver
    ⟨.url outcome.answer, outcome.asked, ⟨outcome.cache, outcome.receiver⟩⟩
  | .load url => ⟨.sheet (state.cache.load url), none, state⟩
  | .setOption name value =>
    let options := state.receiver.options.map (·.set name value)
    ⟨.nothing, none, ⟨state.cache, ⟨options, state.receiver.state⟩⟩⟩

/-- The state after some uses. -/
def afterAll : ImportState ι → List ImportUse → ImportState ι
  | state, [] => state
  | state, use :: uses => afterAll (importer.serve state use).state uses

/-- The entries that a use enters. -/
def entriesOf (state : ImportState ι) : ImportUse → List ImportEntry
  | .canonicalize cwd url => importer.registered cwd url state.cache state.receiver
  | .load _ | .setOption _ _ => []

/-- Their URLs. -/
def urlsOf (state : ImportState ι) : ImportUse → List String
  | .canonicalize cwd url => (importer.registered cwd url state.cache state.receiver).map (·.url cwd)
  | .load _ | .setOption _ _ => []

/-- The URLs of all entries that some uses enter, oldest first. -/
def urlsOfAll : ImportState ι → List ImportUse → List String
  | _, [] => []
  | state, use :: uses => importer.urlsOf state use ++ urlsOfAll (importer.serve state use).state uses

theorem extends_serve (state : ImportState ι) (use : ImportUse) :
    state.cache.Extends (importer.serve state use).state.cache (importer.urlsOf state use) := by
  cases use with
  | canonicalize cwd url => exact (importer.leads_canonicalize cwd url state.cache state.receiver).extends_cache
  | load url => exact .refl state.cache []
  | setOption name value => exact .refl state.cache []

/-- Uses only add to what is known, but for the files that their entries name. -/
theorem extends_afterAll (state : ImportState ι) (uses : List ImportUse) :
    state.cache.Extends (importer.afterAll state uses).cache (importer.urlsOfAll state uses) := by
  induction uses generalizing state with
  | nil => exact .refl state.cache []
  | cons use uses ih => exact (importer.extends_serve state use).trans (ih _)

/-- A file of which something is known is answered from the cache, and all stays as it is. -/
theorem serve_of_answer? {state : ImportState ι} {cwd url file : String} {answer : Option String}
    (hfile : NamesFile cwd url file) (hknown : state.cache.answer? (Url.ofPath .posix cwd file) = some answer) :
    importer.serve state (.canonicalize cwd url) = ⟨.url (.ok answer), none, state⟩ := by
  obtain ⟨hcwd, path, hpath, rfl⟩ := hfile
  rw [Url.ofPath_absolute hcwd hcwd] at hknown
  simp only [serve, importer.canonicalize_of_answer? hpath hknown]

/-- Whether a use settles what is known of a file: it resolves or declines a request for it, or enters an entry
that names it. -/
def Settles (state : ImportState ι) (use : ImportUse) (file : String) : Prop :=
  ∃ cwd url, use = .canonicalize cwd url ∧
    ((NamesFile cwd url file ∧ ∃ answer, (importer.serve state use).answer = .url (.ok answer)) ∨
      (Path.IsAbsolute cwd ∧ ∃ entry ∈ importer.entriesOf state use, Path.absolute cwd entry.path = file))

/-- The file is then known under the URL that every way to name it leads to. -/
theorem isSome_answer?_of_settles {state : ImportState ι} {use : ImportUse} {cwd file : String}
    (hsettles : importer.Settles state use file) (hcwd : Path.IsAbsolute cwd) :
    ((importer.serve state use).state.cache.answer? (Url.ofPath .posix cwd file)).isSome := by
  obtain ⟨directory, url, rfl, hcases⟩ := hsettles
  have hleads := importer.leads_canonicalize directory url state.cache state.receiver
  rcases hcases with ⟨⟨hdirectory, path, hpath, rfl⟩, answer, hanswer⟩ | ⟨hdirectory, entry, hentry, rfl⟩
  · rw [Url.ofPath_absolute hdirectory hcwd]
    have hok : (importer.canonicalize directory url state.cache state.receiver).answer = .ok answer :=
      ImportAnswer.url.inj hanswer
    rw [hok] at hleads
    exact hleads.isSome_answer?_of_ok hpath
  · rw [Url.ofPath_absolute hdirectory hcwd]
    exact hleads.isSome_answer?_of_mem hentry

/-- Once a file is settled no request for it reaches the importer, in whatever way the file is named and whatever is
done in between: the answer comes from the cache, and all stays as it is. A look-up never reaches the importer
and changes nothing, neither here nor in a session. -/
theorem asked_at_most_once {state : ImportState ι} {use : ImportUse} {cwd url file : String}
    (hsettles : importer.Settles state use file) (later : List ImportUse) (hfile : NamesFile cwd url file) :
    (∃ answer, importer.serve (importer.afterAll (importer.serve state use).state later) (.canonicalize cwd url) =
      ⟨.url (.ok answer), none, importer.afterAll (importer.serve state use).state later⟩) ∧
    (∀ (other : ImportState ι) (wire : String),
      (importer.serve other (.load wire)).asked = none ∧ (importer.serve other (.load wire)).state = other) ∧
    ∀ (σ : Type) (session : Session σ ι) (wire : Option String), (session.answer (.load wire)).2 = session := by
  refine ⟨?_, fun _ _ => ⟨rfl, rfl⟩, fun _ _ _ => rfl⟩
  have hsettled := importer.isSome_answer?_of_settles hsettles hfile.1
  have hknown := (importer.extends_afterAll (importer.serve state use).state later).isSome_answer? hsettled
  obtain ⟨answer, hanswer⟩ := Option.isSome_iff_exists.mp hknown
  exact ⟨answer, importer.serve_of_answer? hfile hanswer⟩

/-- An importer that names an entry for a bundle, and then one in no known language. -/
def broken : LegacyImporter Scripted.Counts :=
  Scripted.importer ⟨[("bundle", .many [.entry ⟨"lib/../a.scss", some "x", none⟩, .entry ⟨"b.less", some "y", none⟩])],
    .one .echo⟩

/-- Nothing is known, and no options are set. -/
def fresh : ImportState Scripted.Counts :=
  ⟨[], ⟨some [], []⟩⟩

/-- An entry is settled although the request that entered it failed. -/
theorem asked_at_most_once_broken :
    broken.Settles fresh (.canonicalize "/work/project" "bundle") "/work/project/a.scss" ∧
    NamesFile "/work" "file:///work/project/%61.scss" "/work/project/a.scss" ∧
    ∃ answer, (broken.serve
        (broken.afterAll (broken.serve fresh (.canonicalize "/work/project" "bundle")).state
          [.canonicalize "/work" "other", .setOption "filename" (.text "main.scss"), .load "file:///work/a.scss"])
        (.canonicalize "/work" "file:///work/project/%61.scss")) =
      ⟨.url (.ok answer), none, broken.afterAll (broken.serve fresh (.canonicalize "/work/project" "bundle")).state
          [.canonicalize "/work" "other", .setOption "filename" (.text "main.scss"), .load "file:///work/a.scss"]⟩ := by
  have hwork : Path.IsAbsolute "/work/project" := by decide
  have hentered : broken.entriesOf fresh (.canonicalize "/work/project" "bundle") =
      [⟨"lib/../a.scss", some "x", none⟩] := by decide +kernel
  have hentry : ⟨"lib/../a.scss", some "x", none⟩ ∈
      broken.entriesOf fresh (.canonicalize "/work/project" "bundle") := hentered ▸ List.mem_singleton_self _
  have hpath : Path.absolute "/work/project" "lib/../a.scss" = "/work/project/a.scss" := by decide
  have hsettles : broken.Settles fresh (.canonicalize "/work/project" "bundle") "/work/project/a.scss" :=
    ⟨"/work/project", "bundle", rfl, Or.inr ⟨hwork, _, hentry, hpath⟩⟩
  have hfile : NamesFile "/work" "file:///work/project/%61.scss" "/work/project/a.scss" :=
    ⟨by decide, "/work/project/a.scss", by cbv, by decide⟩
  exact ⟨hsettles, hfile, (broken.asked_at_most_once hsettles _ hfile).1⟩

section Standing

variable {importer} {state : ImportState ι}

/-- A later request for a file gets the answer that an earlier one got, as long as no entry names the file. -/
theorem canonicalize_afterAll {cwd url directory other file : String} {answer : Option String}
    (hfile : NamesFile cwd url file) (hother : NamesFile directory other file)
    (hanswer : (importer.serve state (.canonicalize cwd url)).answer = .url (.ok answer)) (later : List ImportUse)
    (hnames : Url.ofPath .posix cwd file ∉ importer.urlsOfAll state (.canonicalize cwd url :: later)) :
    (importer.serve (importer.afterAll state (.canonicalize cwd url :: later)) (.canonicalize directory other)).answer =
      .url (.ok answer) := by
  rw [urlsOfAll, List.mem_append, not_or] at hnames
  have hfirst : (importer.serve state (.canonicalize cwd url)).state.cache.answer? (Url.ofPath .posix cwd file) =
      some answer := by
    obtain ⟨hcwd, path, hpath, rfl⟩ := hfile
    have hleads := importer.leads_canonicalize cwd url state.cache state.receiver
    have hok : (importer.canonicalize cwd url state.cache state.receiver).answer = .ok answer :=
      ImportAnswer.url.inj hanswer
    rw [Url.ofPath_absolute hcwd hcwd] at hnames ⊢
    rw [hok] at hleads
    exact hleads.answer?_of_ok hpath hnames.1
  have hlater := (importer.extends_afterAll _ later).answer?_eq_some hfirst hnames.2
  rw [hother.ofPath_eq hfile.1] at hlater
  exact congrArg Served.answer (importer.serve_of_answer? hother hlater)

theorem load_afterAll {wire : String} {sheet : Stylesheet}
    (hload : (importer.serve state (.load wire)).answer = .sheet (some sheet)) (later : List ImportUse)
    (hnames : ∀ fileUrl, CanonicalUrl.ofWire wire = .real fileUrl → fileUrl ∉ importer.urlsOfAll state later) :
    (importer.serve (importer.afterAll state later) (.load wire)).answer = .sheet (some sheet) := by
  have hbefore : state.cache.load wire = some sheet := ImportAnswer.sheet.inj hload
  exact congrArg ImportAnswer.sheet ((importer.extends_afterAll state later).load_eq_some hbefore hnames)

/-- The last of the entries of one answer that name a file decides what later requests for it are answered. -/
theorem canonicalize_afterAll_named {cwd url directory other file : String} {entry : ImportEntry}
    (hcwd : Path.IsAbsolute cwd) (hother : NamesFile directory other file)
    (hentry : entry ∈ importer.entriesOf state (.canonicalize cwd url)) (hfile : Path.absolute cwd entry.path = file)
    (later : List ImportUse) (hnames : Url.ofPath .posix cwd file ∉
      importer.urlsOfAll (importer.serve state (.canonicalize cwd url)).state later) :
    ∃ last, ImportEntry.lastFor cwd entry.path (importer.entriesOf state (.canonicalize cwd url)) = some last ∧
      (importer.serve (importer.afterAll state (.canonicalize cwd url :: later))
        (.canonicalize directory other)).answer =
        .url (.ok (last.source.map fun _ => Url.ofPath .posix cwd file)) := by
  have hleads := importer.leads_canonicalize cwd url state.cache state.receiver
  obtain ⟨path, last, -, hlast, hmem, hfound⟩ := hleads.find?_of_mem hcwd hentry
  refine ⟨last, hlast, ?_⟩
  have hstands : (last.resolved cwd path).stylesheet?.map (fun _ => Url.ofPath .posix cwd file) =
      last.source.map fun _ => Url.ofPath .posix cwd file := by
    cases hsource : last.source with
    | none => rw [last.stylesheet?_of_none cwd hsource]; rfl
    | some source =>
        obtain ⟨language, -, hsheet⟩ :=
          last.stylesheet?_of_source cwd (language_of_mem_registered hmem) hsource path
        rw [hsheet]
        rfl
  have hfirst : (importer.serve state (.canonicalize cwd url)).state.cache.answer? (Url.ofPath .posix cwd file) =
      some (last.source.map fun _ => Url.ofPath .posix cwd file) := by
    rw [← hstands, ← hfile, Url.ofPath_absolute hcwd hcwd]
    exact Cache.answer?_of_real hfound
  have hlater := (importer.extends_afterAll _ later).answer?_eq_some hfirst hnames
  rw [hother.ofPath_eq hcwd] at hlater ⊢
  exact congrArg Served.answer (importer.serve_of_answer? hother hlater)

end Standing

/-- Answers stand. What a request for a file was answered is what every later request for the file is answered, as long
as no entry names the file, and the stylesheet for a URL is the same as long as no entry has that URL. A synthetic
stylesheet is always the same. Where the first entries that name a file come after an answer, or with it, the last of
them decides from then on. -/
theorem answers_stand (state : ImportState ι) :
    (∀ cwd url directory other file answer later,
      NamesFile cwd url file → NamesFile directory other file →
      (importer.serve state (.canonicalize cwd url)).answer = .url (.ok answer) →
      Url.ofPath .posix cwd file ∉ importer.urlsOfAll state (.canonicalize cwd url :: later) →
      (importer.serve (importer.afterAll state (.canonicalize cwd url :: later))
        (.canonicalize directory other)).answer = .url (.ok answer)) ∧
    (∀ wire sheet later,
      (importer.serve state (.load wire)).answer = .sheet (some sheet) →
      wire ∉ importer.urlsOfAll state later →
      (importer.serve (importer.afterAll state later) (.load wire)).answer = .sheet (some sheet)) ∧
    (∀ fileUrl sheet later,
      (importer.serve state (.load (CanonicalUrl.synthetic fileUrl).wire)).answer = .sheet (some sheet) →
      (importer.serve (importer.afterAll state later)
        (.load (CanonicalUrl.synthetic fileUrl).wire)).answer = .sheet (some sheet)) ∧
    (∀ cwd url directory other file entry later,
      Path.IsAbsolute cwd → NamesFile directory other file →
      state.cache.find? (.real (Url.ofPath .posix cwd file)) = none →
      entry ∈ importer.entriesOf state (.canonicalize cwd url) → Path.absolute cwd entry.path = file →
      Url.ofPath .posix cwd file ∉
        importer.urlsOfAll (importer.serve state (.canonicalize cwd url)).state later →
      ∃ last, ImportEntry.lastFor cwd entry.path (importer.entriesOf state (.canonicalize cwd url)) = some last ∧
        (importer.serve (importer.afterAll state (.canonicalize cwd url :: later))
          (.canonicalize directory other)).answer =
            .url (.ok (last.source.map fun _ => Url.ofPath .posix cwd file))) := by
  refine ⟨?_, ?_, ?_, ?_⟩
  · intro cwd url directory other file answer later hfile hother hanswer hnames
    exact canonicalize_afterAll hfile hother hanswer later hnames
  · intro wire sheet later hload hnames
    apply load_afterAll hload
    intro fileUrl hurl
    rwa [CanonicalUrl.eq_of_ofWire hurl]
  · intro fileUrl sheet later hload
    apply load_afterAll hload
    intro other hurl
    rw [CanonicalUrl.ofWire_synthetic] at hurl
    cases hurl
  · intro cwd url directory other file entry later hcwd hother _ hentry hfile hnames
    exact canonicalize_afterAll_named hcwd hother hentry hfile later hnames

/-- An importer that names three entries for a theme, of which the second takes the source of the first back. -/
def themes : LegacyImporter Scripted.Counts :=
  Scripted.importer ⟨[("theme", .many [.entry ⟨"a.scss", some "x", none⟩, .entry ⟨"./a.scss", none, none⟩,
    .entry ⟨"b.scss", some "y", none⟩]), ("late", .one (.entry ⟨"c.scss", some "z", none⟩))], .one .echo⟩

theorem answers_stand_themes :
    NamesFile "/" "file:///work/project/t%68eme" "/work/project/theme" ∧
    (themes.serve (themes.afterAll fresh [.canonicalize "/work/project" "theme", .canonicalize "/work/project" "late"])
      (.canonicalize "/" "file:///work/project/t%68eme")).answer =
        .url (.ok (some "sass-importer-shim:file:///work/project/theme")) ∧
    (themes.serve (themes.afterAll fresh [.canonicalize "/work/project" "theme", .canonicalize "/work/project" "late"])
      (.canonicalize "/work/project" "x/../a.scss")).answer = .url (.ok none) ∧
    (themes.serve (themes.afterAll (themes.serve fresh (.canonicalize "/work/project" "theme")).state
      [.canonicalize "/work/project" "late"]) (.load "file:///work/project/b.scss")).answer =
        .sheet (some ⟨"y", .scss, none⟩) ∧
    ∃ sheet, (themes.serve (themes.afterAll (themes.serve fresh (.canonicalize "/work/project" "theme")).state
      [.canonicalize "/work/project" "late"])
        (.load (CanonicalUrl.synthetic "file:///work/project/theme").wire)).answer = .sheet (some sheet) := by
  have hwork : Path.IsAbsolute "/work/project" := by decide
  have htheme : NamesFile "/work/project" "theme" "/work/project/theme" := ⟨hwork, "theme", by cbv, by decide⟩
  have hother : NamesFile "/" "file:///work/project/t%68eme" "/work/project/theme" :=
    ⟨by decide, "/work/project/theme", by cbv, by decide⟩
  have hspelled : NamesFile "/work/project" "x/../a.scss" "/work/project/a.scss" :=
    ⟨hwork, "x/../a.scss", by cbv, by decide⟩
  have hanswer : (themes.serve fresh (.canonicalize "/work/project" "theme")).answer =
      .url (.ok (some "sass-importer-shim:file:///work/project/theme")) := rfl
  have hlate : themes.urlsOfAll (themes.serve fresh (.canonicalize "/work/project" "theme")).state
      [.canonicalize "/work/project" "late"] = ["file:///work/project/c.scss"] := by decide +kernel
  have hall : themes.urlsOfAll fresh [.canonicalize "/work/project" "theme", .canonicalize "/work/project" "late"] =
      ["file:///work/project/a.scss", "file:///work/project/a.scss", "file:///work/project/b.scss",
        "file:///work/project/c.scss"] := by decide +kernel
  have hnotheme : Url.ofPath .posix "/work/project" "/work/project/theme" ∉ themes.urlsOfAll fresh
      [.canonicalize "/work/project" "theme", .canonicalize "/work/project" "late"] := by
    rw [hall]
    decide
  have hnoentry : Url.ofPath .posix "/work/project" "/work/project/a.scss" ∉ themes.urlsOfAll
      (themes.serve fresh (.canonicalize "/work/project" "theme")).state
      [.canonicalize "/work/project" "late"] := by
    rw [hlate]
    decide
  have hentered : themes.entriesOf fresh (.canonicalize "/work/project" "theme") =
      [⟨"a.scss", some "x", none⟩, ⟨"./a.scss", none, none⟩, ⟨"b.scss", some "y", none⟩] := by decide +kernel
  have hentry : ⟨"a.scss", some "x", none⟩ ∈ themes.entriesOf fresh (.canonicalize "/work/project" "theme") :=
    hentered ▸ List.mem_cons_self
  have hpath : Path.absolute "/work/project" "a.scss" = "/work/project/a.scss" := by decide
  have hself : ImportEntry.lastFor "/work/project" "a.scss"
      [⟨"a.scss", some "x", none⟩, ⟨"./a.scss", none, none⟩, ⟨"b.scss", some "y", none⟩] =
      some ⟨"./a.scss", none, none⟩ := by decide
  have hnob : "file:///work/project/b.scss" ∉ themes.urlsOfAll
      (themes.serve fresh (.canonicalize "/work/project" "theme")).state
      [.canonicalize "/work/project" "late"] := by
    rw [hlate]
    decide
  have hb : (themes.serve fresh (.canonicalize "/work/project" "theme")).state.cache.load
      "file:///work/project/b.scss" = some ⟨"y", .scss, none⟩ := by decide +kernel
  have hisSome : ((themes.serve fresh (.canonicalize "/work/project" "theme")).state.cache.load
      (CanonicalUrl.synthetic "file:///work/project/theme").wire).isSome := by decide +kernel
  obtain ⟨sheet, hsheet⟩ := Option.isSome_iff_exists.mp hisSome
  obtain ⟨hrequests, -, -, hnamed⟩ := themes.answers_stand fresh
  obtain ⟨-, hloads, hsynthetic, -⟩ :=
    themes.answers_stand (themes.serve fresh (.canonicalize "/work/project" "theme")).state
  refine ⟨hother, hrequests _ _ _ _ _ _ _ htheme hother hanswer hnotheme, ?_,
    hloads _ _ _ (congrArg ImportAnswer.sheet hb) hnob,
    sheet, hsynthetic _ _ _ (congrArg ImportAnswer.sheet hsheet)⟩
  obtain ⟨last, hlast, hdecided⟩ := hnamed _ _ _ _ _ _ _ hwork hspelled rfl hentry hpath hnoentry
  rw [hentered] at hlast
  obtain rfl := Option.some.inj (hself.symm.trans hlast)
  exact hdecided

/-- An importer that answers a request with an entry for the very file. -/
def own : LegacyImporter Scripted.Counts :=
  Scripted.importer ⟨[("a.scss", .many [.entry ⟨"a.scss", some "x", none⟩])], .one .echo⟩

/-- Such a file is answered with the synthetic stylesheet first, and then with the entry that this one imports. -/
theorem own_answer_changes :
    (own.serve fresh (.canonicalize "/work/project" "a.scss")).answer =
      .url (.ok (some "sass-importer-shim:file:///work/project/a.scss")) ∧
    (own.serve (own.serve fresh (.canonicalize "/work/project" "a.scss")).state
      (.canonicalize "/work/project" "a.scss")).answer = .url (.ok (some "file:///work/project/a.scss")) ∧
    "sass-importer-shim:file:///work/project/a.scss" ≠ "file:///work/project/a.scss" := by
  have hfile : NamesFile "/work/project" "a.scss" "/work/project/a.scss" := ⟨by decide, "a.scss", by cbv, by decide⟩
  have hknown : (own.serve fresh (.canonicalize "/work/project" "a.scss")).state.cache.answer?
      (Url.ofPath .posix "/work/project" "/work/project/a.scss") = some (some "file:///work/project/a.scss") := by
    decide +kernel
  refine ⟨by cbv, ?_, by decide⟩
  rw [own.serve_of_answer? hfile hknown]

end LegacyImporter

end SassBridge
