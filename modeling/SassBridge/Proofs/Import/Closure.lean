import SassBridge.Proofs.Import.Uses

/-! What holds of the cache however it was reached. Its keys are URLs that were written for paths, a synthetic
stylesheet stays what it was made as, and all that it imports is known. Whoever follows its imports is therefore
answered from the cache, and never with another synthetic stylesheet. -/

namespace SassBridge

variable {ι : Type}

namespace CanonicalUrl

/-- Whether a URL was written for a path. -/
def IsWritten (key : CanonicalUrl) : Prop :=
  ∃ cwd path, Path.IsAbsolute cwd ∧ key.fileUrl = Url.ofPath .posix cwd path

variable {key other : CanonicalUrl}

theorem IsWritten.ofPath {cwd : String} (hcwd : Path.IsAbsolute cwd) {key : CanonicalUrl} {path : String}
    (hkey : key.fileUrl = Url.ofPath .posix cwd path) : key.IsWritten :=
  ⟨cwd, path, hcwd, hkey⟩

/-- The path that such a URL names has that URL, from whatever directory it is read. -/
theorem IsWritten.ofPath_toPath (hkey : key.IsWritten) {directory : String} (hdirectory : Path.IsAbsolute directory) :
    (Url.toPath .posix key.fileUrl).map (Url.ofPath .posix directory) = .ok key.fileUrl := by
  obtain ⟨cwd, path, hcwd, hurl⟩ := hkey
  rw [hurl, Url.toPath_ofPath hcwd, ← Url.ofPath_absolute hcwd hdirectory path]
  rfl

/-- It is read back as what it was, a synthetic one among them. -/
theorem IsWritten.ofWire_wire (hkey : key.IsWritten) : ofWire key.wire = key := by
  obtain ⟨cwd, path, -, hurl⟩ := hkey
  cases key with
  | synthetic fileUrl => exact ofWire_synthetic fileUrl
  | real fileUrl =>
      obtain rfl : fileUrl = Url.ofPath .posix cwd path := hurl
      exact ofWire_ofPath cwd path

theorem IsWritten.eq_of_wire (hkey : key.IsWritten) (hother : other.IsWritten) (hwire : key.wire = other.wire) :
    key = other := by
  rw [← hkey.ofWire_wire, ← hother.ofWire_wire, hwire]

/-- It does not have the scheme of synthetic URLs. -/
theorem IsWritten.ne_synthetic {fileUrl : String} (hkey : (real fileUrl).IsWritten) (other : String) :
    fileUrl ≠ (synthetic other).wire := by
  intro heq
  have hread := hkey.ofWire_wire
  rw [wire, heq, ofWire_synthetic] at hread
  exact synthetic_ne_real _ _ hread

end CanonicalUrl

namespace Stylesheet

/-- The line that imports a URL. -/
def importLine (url : String) : List Char :=
  ("@import \"" ++ url ++ "\";").toList

/-- Whether a stylesheet has a line that imports a URL. -/
def Imports (sheet : Stylesheet) (url : String) : Prop :=
  importLine url ∈ Text.split '\n' sheet.contents.toList

instance (sheet : Stylesheet) (url : String) : Decidable (sheet.Imports url) :=
  inferInstanceAs (Decidable (importLine url ∈ _))

theorem importLine_injective {url other : String} (hline : importLine url = importLine other) : url = other := by
  simp only [importLine, String.toList_append] at hline
  exact String.toList_inj.mp (List.append_cancel_left (List.append_cancel_right hline))

variable {cwd : String} {entries : List ImportEntry}

/-- Each line of a synthetic stylesheet imports one of its entries. -/
theorem lines_importing (hne : entries ≠ []) :
    Text.split '\n' (importing cwd (entries.map some)).contents.toList =
      entries.map fun entry => importLine (entry.url cwd) := by
  rw [(contents_importing cwd entries).2 hne]
  exact List.map_congr_left fun entry _ => by rw [entry.statement_eq, importLine]

theorem imports_importing_iff {url : String} :
    (importing cwd (entries.map some)).Imports url ↔ ∃ entry ∈ entries, entry.url cwd = url := by
  by_cases hne : entries = []
  · subst hne
    have hlines : Text.split '\n' (importing cwd (List.map some [])).contents.toList = [[]] := by
      rw [(contents_importing cwd []).1 rfl]
      rfl
    rw [Imports, hlines, List.mem_singleton]
    simp [importLine]
  · rw [Imports, lines_importing hne, List.mem_map]
    refine exists_congr fun entry => and_congr_right fun _ => ?_
    exact ⟨importLine_injective, congrArg importLine⟩

end Stylesheet

namespace Cache

theorem find?_insert (cache : Cache) (url key : CanonicalUrl) (resolution : Resolution) :
    (cache.insert url resolution).find? key = if url = key then some resolution else cache.find? key := by
  split
  · next heq => rw [← heq, find?_insert_self]
  · next hne => exact find?_insert_of_ne cache hne resolution

/-- What holds of a cache at all times: each key was written for a path, and a synthetic one stands for a stylesheet
whose imports are all known. -/
structure IsClosed (cache : Cache) : Prop where
  written : ∀ key, (cache.find? key).isSome → key.IsWritten
  synthesized : ∀ fileUrl resolution, cache.find? (.synthetic fileUrl) = some resolution →
    ∃ cwd, ∃ entries : List ImportEntry, resolution = .stylesheet (.importing cwd (entries.map some)) ∧
      ∀ entry ∈ entries, (cache.find? (.real (entry.url cwd))).isSome

namespace IsClosed

variable {cache : Cache} {cwd requested : String} {entries : List ImportEntry}

theorem nil : IsClosed [] where
  written _ hknown := nomatch hknown
  synthesized _ _ hfound := nomatch hfound

/-- A key of a cache after an insertion is the new one, or one that was there. -/
theorem written_insert (hcache : cache.IsClosed) {url : CanonicalUrl} (hurl : url.IsWritten) (resolution : Resolution)
    (key : CanonicalUrl) (hknown : ((cache.insert url resolution).find? key).isSome) : key.IsWritten := by
  rw [find?_insert] at hknown
  split at hknown
  · next heq => exact heq ▸ hurl
  · exact hcache.written key hknown

theorem insert_real (hcache : cache.IsClosed) {fileUrl : String} (hurl : (CanonicalUrl.real fileUrl).IsWritten)
    (resolution : Resolution) : (cache.insert (.real fileUrl) resolution).IsClosed where
  written := hcache.written_insert hurl resolution
  synthesized other found hfound := by
    rw [find?_insert_of_ne cache (CanonicalUrl.synthetic_ne_real other fileUrl).symm] at hfound
    obtain ⟨cwd, entries, hsheet, hentries⟩ := hcache.synthesized other found hfound
    exact ⟨cwd, entries, hsheet, fun entry hentry => isSome_find?_insert (hentries entry hentry) _ _⟩

theorem insert_synthetic (hcache : cache.IsClosed) {fileUrl : String}
    (hurl : (CanonicalUrl.synthetic fileUrl).IsWritten)
    (hentries : ∀ entry ∈ entries, (cache.find? (.real (entry.url cwd))).isSome) :
    (cache.insert (.synthetic fileUrl) (.stylesheet (.importing cwd (entries.map some)))).IsClosed where
  written := hcache.written_insert hurl _
  synthesized other found hfound := by
    rw [find?_insert] at hfound
    split at hfound
    · rw [← Option.some.inj hfound]
      exact ⟨cwd, entries, rfl, fun entry hentry => isSome_find?_insert (hentries entry hentry) _ _⟩
    · obtain ⟨directory, named, hsheet, hnamed⟩ := hcache.synthesized other found hfound
      exact ⟨directory, named, hsheet, fun entry hentry => isSome_find?_insert (hnamed entry hentry) _ _⟩

theorem entered (hcache : cache.IsClosed) (hcwd : Path.IsAbsolute cwd) (requested : String)
    (entries : List ImportEntry) : (cache.entered cwd requested entries).IsClosed := by
  induction entries generalizing cache with
  | nil => exact hcache
  | cons entry entries ih => exact ih (hcache.insert_real (.ofPath hcwd rfl) _)

end IsClosed

end Cache

/-- One request keeps the cache closed, be it that it fails or not. -/
theorem Leads.isClosed {cwd url : String} {cache after : Cache} {answer : Except Failure (Option String)}
    {entries : List ImportEntry} (hleads : Leads cwd url cache answer entries after) (hcwd : Path.IsAbsolute cwd)
    (hcache : cache.IsClosed) : after.IsClosed := by
  cases hleads with
  | unreadable => exact hcache
  | known => exact hcache
  | failed => exact hcache.entered hcwd _ entries
  | declined => exact hcache.insert_real (.ofPath hcwd rfl) .declined
  | resolved =>
      refine (hcache.entered hcwd _ entries).insert_synthetic (.ofPath hcwd rfl) ?_
      exact fun entry hentry => Cache.isSome_find?_entered_of_mem hentry cache

/-- Whether the working directory of a use is absolute, where there is one. -/
def ImportUse.IsAbsolute : ImportUse → Prop
  | canonicalize cwd _ => Path.IsAbsolute cwd
  | load _ | setOption _ _ => True

namespace LegacyImporter

variable (importer : LegacyImporter ι)

theorem isClosed_serve {state : ImportState ι} (hstate : state.cache.IsClosed) {use : ImportUse}
    (huse : use.IsAbsolute) : (importer.serve state use).state.cache.IsClosed := by
  cases use with
  | canonicalize cwd url => exact (importer.leads_canonicalize cwd url state.cache state.receiver).isClosed huse hstate
  | load url => exact hstate
  | setOption name value => exact hstate

theorem isClosed_afterAll {state : ImportState ι} (hstate : state.cache.IsClosed) {uses : List ImportUse}
    (huses : ∀ use ∈ uses, use.IsAbsolute) : (importer.afterAll state uses).cache.IsClosed := by
  induction uses generalizing state with
  | nil => exact hstate
  | cons use uses ih =>
      rw [List.forall_mem_cons] at huses
      exact ih (importer.isClosed_serve hstate huses.1) huses.2

variable {importer}

/-- A file of which it is known what it stands for is answered with its own URL, or with none. -/
theorem serve_of_real {state : ImportState ι} {fileUrl : String} {resolution : Resolution}
    (hwritten : (CanonicalUrl.real fileUrl).IsWritten) (hknown : state.cache.find? (.real fileUrl) = some resolution)
    {directory : String} (hdirectory : Path.IsAbsolute directory) :
    importer.serve state (.canonicalize directory fileUrl) =
      ⟨.url (.ok (resolution.stylesheet?.map fun _ => fileUrl)), none, state⟩ := by
  obtain ⟨cwd, path, hcwd, rfl⟩ : ∃ cwd path, Path.IsAbsolute cwd ∧ fileUrl = Url.ofPath .posix cwd path := hwritten
  have hpath := Url.toPath_ofPath hcwd path
  have hanswer := Cache.answer?_of_real hknown
  rw [← Url.ofPath_absolute hcwd hdirectory] at hanswer
  simp only [serve, importer.canonicalize_of_answer? hpath hanswer]
  rw [Url.ofPath_absolute hcwd hdirectory]

/-- In every state that is reached, the URL in a key is the one that is written for the path which it names, so that
keys are read back as they are and no two are written alike. A synthetic one stands for a stylesheet, the same from then
on, of which each line imports a file that is known. A request for such a file is answered with its URL or with none,
and never with a synthetic one, from the cache alone: following the imports of synthetic stylesheets does not lead
back to them. -/
theorem closed_afterAll (importer : LegacyImporter ι) (receiver : Receiver ι) {uses : List ImportUse}
    (huses : ∀ use ∈ uses, use.IsAbsolute) :
    let state := importer.afterAll ⟨[], receiver⟩ uses
    (∀ key, (state.cache.find? key).isSome →
      (∀ directory, Path.IsAbsolute directory →
        (Url.toPath .posix key.fileUrl).map (Url.ofPath .posix directory) = .ok key.fileUrl) ∧
      CanonicalUrl.ofWire key.wire = key ∧
      ∀ other, (state.cache.find? other).isSome → key.wire = other.wire → key = other) ∧
    (∀ fileUrl resolution, state.cache.find? (.synthetic fileUrl) = some resolution →
      (∃ sheet, resolution = .stylesheet sheet ∧ sheet.language = .scss ∧
        (sheet.contents = "" ∨ ∀ line ∈ Text.split '\n' sheet.contents.toList,
          ∃ url, line = Stylesheet.importLine url ∧ sheet.Imports url)) ∧
      ∀ later, (importer.afterAll state later).cache.find? (.synthetic fileUrl) = some resolution) ∧
    ∀ fileUrl sheet url, state.cache.find? (.synthetic fileUrl) = some (.stylesheet sheet) → sheet.Imports url →
      (state.cache.find? (.real url)).isSome ∧
      ∀ directory, Path.IsAbsolute directory → ∃ answer,
        importer.serve state (.canonicalize directory url) = ⟨.url (.ok answer), none, state⟩ ∧
        (answer = some url ∨ answer = none) ∧ ∀ other, answer ≠ some (CanonicalUrl.synthetic other).wire := by
  intro state
  have hclosed : state.cache.IsClosed := importer.isClosed_afterAll Cache.IsClosed.nil huses
  refine ⟨?_, ?_, ?_⟩
  · intro key hknown
    have hkey := hclosed.written key hknown
    exact ⟨fun directory => hkey.ofPath_toPath, hkey.ofWire_wire,
      fun other hother => hkey.eq_of_wire (hclosed.written other hother)⟩
  · intro fileUrl resolution hfound
    refine ⟨?_, fun later => (importer.extends_afterAll state later).synthetic fileUrl resolution hfound⟩
    obtain ⟨cwd, entries, rfl, -⟩ := hclosed.synthesized fileUrl resolution hfound
    refine ⟨_, rfl, rfl, ?_⟩
    by_cases hne : entries = []
    · exact Or.inl ((Stylesheet.contents_importing cwd entries).1 hne)
    · right
      intro line hline
      rw [Stylesheet.lines_importing hne] at hline
      obtain ⟨entry, hentry, rfl⟩ := List.mem_map.mp hline
      exact ⟨entry.url cwd, rfl, Stylesheet.imports_importing_iff.mpr ⟨entry, hentry, rfl⟩⟩
  · intro fileUrl sheet url hfound himports
    obtain ⟨cwd, entries, hsheet, hentries⟩ := hclosed.synthesized fileUrl _ hfound
    obtain rfl := Resolution.stylesheet.inj hsheet
    obtain ⟨entry, hentry, rfl⟩ := Stylesheet.imports_importing_iff.mp himports
    have hknown := hentries entry hentry
    have hwritten := hclosed.written _ hknown
    refine ⟨hknown, fun directory hdirectory => ?_⟩
    obtain ⟨resolution, hresolution⟩ := Option.isSome_iff_exists.mp hknown
    refine ⟨_, serve_of_real hwritten hresolution hdirectory, ?_, fun other hother => ?_⟩
    · cases resolution with
      | stylesheet sheet => exact Or.inl rfl
      | declined => exact Or.inr rfl
    · cases resolution with
      | stylesheet sheet => exact hwritten.ne_synthetic other (Option.some.inj hother)
      | declined => cases hother

/-- An importer that names, for a bundle, a stylesheet and the bundle itself, and otherwise fails half way. -/
def looping : LegacyImporter Scripted.Counts :=
  Scripted.importer ⟨[("bundle", .many [.entry ⟨"a\"b.scss", some "x", none⟩, .entry ⟨"./bundle", none, none⟩])],
    .many [.entry ⟨"c.scss", some "y", none⟩, .entry ⟨"d.less", some "z", none⟩]⟩

/-- Whoever follows the import of the bundle in its own synthetic stylesheet does not come back to that. -/
theorem closed_afterAll_looping :
    let uses := [.canonicalize "/work/project" "bundle", .load "file:///", .canonicalize "/work" "project/b%72oken"]
    let state := looping.afterAll fresh uses
    (∀ use ∈ uses, use.IsAbsolute) ∧
    ∃ sheet, state.cache.find? (.synthetic "file:///work/project/bundle") = some (.stylesheet sheet) ∧
      sheet.language = .scss ∧ sheet.Imports "file:///work/project/bundle" ∧
      (∀ later, (looping.afterAll state later).cache.find? (.synthetic "file:///work/project/bundle") =
        some (.stylesheet sheet)) ∧
      ∃ answer, looping.serve state (.canonicalize "/" "file:///work/project/bundle") =
        ⟨.url (.ok answer), none, state⟩ ∧ ∀ other, answer ≠ some (CanonicalUrl.synthetic other).wire := by
  intro uses state
  have huses : ∀ use ∈ uses, use.IsAbsolute := by
    intro use huse
    simp only [uses, List.mem_cons, List.not_mem_nil, or_false] at huse
    rcases huse with rfl | rfl | rfl
    · exact (by decide : Path.IsAbsolute "/work/project")
    · exact trivial
    · exact (by decide : Path.IsAbsolute "/work")
  obtain ⟨-, hsheets, hfollowed⟩ := closed_afterAll looping ⟨some [], []⟩ huses
  have hsheet : state.cache.find? (.synthetic "file:///work/project/bundle") = some (.stylesheet
      ⟨"@import \"file:///work/project/a%22b.scss\";\n@import \"file:///work/project/bundle\";", .scss, none⟩) := by
    decide +kernel
  have himports : Stylesheet.Imports
      ⟨"@import \"file:///work/project/a%22b.scss\";\n@import \"file:///work/project/bundle\";", .scss, none⟩
      "file:///work/project/bundle" := by decide
  obtain ⟨answer, hanswer, -, hother⟩ := (hfollowed _ _ _ hsheet himports).2 "/" (by decide)
  exact ⟨huses, _, hsheet, rfl, himports, (hsheets _ _ hsheet).2, answer, hanswer, hother⟩

end LegacyImporter

end SassBridge
