import SassBridge.Proofs.Import.Closure

/-! The requests that were not answered from the cache, and what the cache has of them. A file stands for what the last
entry that names it stands for, whichever request entered that, and a synthetic stylesheet lists the entries of the one
request that made it. The two steps of an import look the cache up under different keys, one made of a path and one read
from a URL. They agree because both find what this history says. -/

namespace SassBridge

variable {ι : Type}

/-- A request that was not answered from the cache: the path, the entries that it entered and the answer. -/
structure Enquiry where
  cwd : String
  path : String
  entries : List ImportEntry
  answer : Except Failure (Option String)

namespace Enquiry

/-- The requested file. -/
def file (enquiry : Enquiry) : String :=
  Path.absolute enquiry.cwd enquiry.path

/-- Whether the request was answered with its synthetic stylesheet. -/
def isResolved (enquiry : Enquiry) : Bool :=
  match enquiry.answer with
  | .ok (some _) => true
  | .ok none | .error _ => false

/-- The stylesheet that lists its entries. -/
def sheet (enquiry : Enquiry) : Stylesheet :=
  .importing enquiry.cwd (enquiry.entries.map some)

/-- The last of its entries that names a file. -/
def lastFor? (enquiry : Enquiry) (file : String) : Option ImportEntry :=
  enquiry.entries.reverse.find? fun entry => Path.absolute enquiry.cwd entry.path = file

/-- What a request for a URL adds to the history. -/
def ofRequest (cwd url : String) (cache : Cache) (answer : Except Failure (Option String))
    (entries : List ImportEntry) : List Enquiry :=
  match Url.toPath .posix url with
  | .error _ => []
  | .ok path =>
    if (cache.answer? (Url.ofPath .posix cwd path)).isSome then [] else [⟨cwd, path, entries, answer⟩]

/-- The last entry in a history that names a file, and the request that entered it. -/
def entryFor? (history : List Enquiry) (file : String) : Option (Enquiry × ImportEntry) :=
  history.reverse.findSome? fun enquiry => (enquiry.lastFor? file).map fun entry => (enquiry, entry)

/-- The first request in a history that made a synthetic stylesheet for a file. -/
def sheetFor? (history : List Enquiry) (file : String) : Option Enquiry :=
  history.find? fun enquiry => enquiry.isResolved && enquiry.file == file

variable {history : List Enquiry} {enquiry : Enquiry} {file : String}

theorem lastFor?_eq_some {entry : ImportEntry} (hlast : enquiry.lastFor? file = some entry) :
    entry ∈ enquiry.entries ∧ Path.absolute enquiry.cwd entry.path = file := by
  rw [lastFor?] at hlast
  have hnames := List.find?_some hlast
  exact ⟨List.mem_reverse.mp (List.mem_of_find?_eq_some hlast), of_decide_eq_true hnames⟩

theorem entryFor?_concat :
    entryFor? (history ++ [enquiry]) file =
      ((enquiry.lastFor? file).map fun entry => (enquiry, entry)).or (entryFor? history file) := by
  rw [entryFor?, entryFor?, List.reverse_concat, List.findSome?_cons]
  cases enquiry.lastFor? file <;> rfl

theorem sheetFor?_concat_of_ne (hother : enquiry.isResolved = true → enquiry.file ≠ file) :
    sheetFor? (history ++ [enquiry]) file = sheetFor? history file := by
  have hskipped : (enquiry.isResolved && enquiry.file == file) = false := by
    rw [Bool.and_eq_false_imp]
    exact fun hresolved => beq_eq_false_iff_ne.mpr (hother hresolved)
  simp [sheetFor?, hskipped]

theorem sheetFor?_concat_self (hresolved : enquiry.isResolved = true)
    (hfirst : sheetFor? history enquiry.file = none) :
    sheetFor? (history ++ [enquiry]) enquiry.file = some enquiry := by
  rw [sheetFor?] at hfirst
  simp [sheetFor?, hfirst, hresolved]

variable {cwd path : String}

theorem find?_entered_of_lastFor? (henquiry : Path.IsAbsolute enquiry.cwd) (hcwd : Path.IsAbsolute cwd)
    {entry : ImportEntry} (hlast : enquiry.lastFor? (Path.absolute cwd path) = some entry) (cache : Cache) :
    (cache.entered enquiry.cwd enquiry.path enquiry.entries).find? (.real (Url.ofPath .posix cwd path)) =
      some (entry.resolved enquiry.cwd enquiry.path) := by
  obtain ⟨hmem, hnames⟩ := lastFor?_eq_some hlast
  have hurl : entry.url enquiry.cwd = Url.ofPath .posix cwd path :=
    (Url.ofPath_eq_iff henquiry hcwd entry.path path).mpr hnames
  obtain ⟨last, hself, -, hentered⟩ := ImportEntry.lastFor_spec henquiry hmem
  rw [ImportEntry.lastFor, hnames, ← lastFor?, hlast, Option.some.injEq] at hself
  rw [← hurl, hentered, ← hself]

theorem find?_entered_of_lastFor?_none (henquiry : Path.IsAbsolute enquiry.cwd) (hcwd : Path.IsAbsolute cwd)
    (hlast : enquiry.lastFor? (Path.absolute cwd path) = none) (cache : Cache) :
    (cache.entered enquiry.cwd enquiry.path enquiry.entries).find? (.real (Url.ofPath .posix cwd path)) =
      cache.find? (.real (Url.ofPath .posix cwd path)) := by
  apply Cache.find?_entered_real
  intro hmem
  obtain ⟨entry, hentry, hurl⟩ := List.mem_map.mp hmem
  have hnames := (Url.ofPath_eq_iff henquiry hcwd entry.path path).mp hurl
  have hno := List.find?_eq_none.mp hlast entry (List.mem_reverse.mpr hentry)
  exact hno (decide_eq_true hnames)

end Enquiry

/-- What the cache has of the requests so far. -/
structure Cache.Records (cache : Cache) (history : List Enquiry) : Prop where
  named : ∀ {cwd path enquiry entry}, Path.IsAbsolute cwd →
    Enquiry.entryFor? history (Path.absolute cwd path) = some (enquiry, entry) →
    cache.find? (.real (Url.ofPath .posix cwd path)) = some (entry.resolved enquiry.cwd enquiry.path)
  unnamed : ∀ {cwd path resolution}, Path.IsAbsolute cwd →
    Enquiry.entryFor? history (Path.absolute cwd path) = none →
    cache.find? (.real (Url.ofPath .posix cwd path)) = some resolution → resolution = .declined
  synthesized : ∀ {cwd path}, Path.IsAbsolute cwd →
    cache.find? (.synthetic (Url.ofPath .posix cwd path)) =
      (Enquiry.sheetFor? history (Path.absolute cwd path)).map fun enquiry => .stylesheet enquiry.sheet

namespace Cache.Records

variable {cache : Cache} {history : List Enquiry} {enquiry : Enquiry}

theorem nil : Records [] [] where
  named _ hentry := nomatch hentry
  unnamed _ _ hfound := nomatch hfound
  synthesized _ := rfl

theorem named_entered (hcache : cache.Records history) (henquiry : Path.IsAbsolute enquiry.cwd) {cwd path : String}
    {last : Enquiry} {entry : ImportEntry} (hcwd : Path.IsAbsolute cwd)
    (hentry : Enquiry.entryFor? (history ++ [enquiry]) (Path.absolute cwd path) = some (last, entry)) :
    (cache.entered enquiry.cwd enquiry.path enquiry.entries).find? (.real (Url.ofPath .posix cwd path)) =
      some (entry.resolved last.cwd last.path) := by
  rw [Enquiry.entryFor?_concat] at hentry
  cases hown : enquiry.lastFor? (Path.absolute cwd path) with
  | some own =>
      rw [hown, Option.map_some, Option.some_or, Option.some.injEq, Prod.mk.injEq] at hentry
      obtain ⟨rfl, rfl⟩ := hentry
      exact Enquiry.find?_entered_of_lastFor? henquiry hcwd hown cache
  | none =>
      rw [hown, Option.map_none, Option.none_or] at hentry
      rw [Enquiry.find?_entered_of_lastFor?_none henquiry hcwd hown]
      exact hcache.named hcwd hentry

theorem unnamed_entered (hcache : cache.Records history) (henquiry : Path.IsAbsolute enquiry.cwd) {cwd path : String}
    {resolution : Resolution} (hcwd : Path.IsAbsolute cwd)
    (hentry : Enquiry.entryFor? (history ++ [enquiry]) (Path.absolute cwd path) = none)
    (hfound : (cache.entered enquiry.cwd enquiry.path enquiry.entries).find? (.real (Url.ofPath .posix cwd path)) =
      some resolution) : resolution = .declined := by
  rw [Enquiry.entryFor?_concat, Option.or_eq_none_iff, Option.map_eq_none_iff] at hentry
  rw [Enquiry.find?_entered_of_lastFor?_none henquiry hcwd hentry.1] at hfound
  exact hcache.unnamed hcwd hentry.2 hfound

/-- A request that got no synthetic stylesheet leaves its entries. -/
theorem entered (hcache : cache.Records history) (enquiry : Enquiry) (henquiry : Path.IsAbsolute enquiry.cwd)
    (hresolved : enquiry.isResolved = false) :
    (cache.entered enquiry.cwd enquiry.path enquiry.entries).Records (history ++ [enquiry]) where
  named := hcache.named_entered henquiry
  unnamed := hcache.unnamed_entered henquiry
  synthesized hcwd := by
    have hother : ∀ file, enquiry.isResolved = true → enquiry.file ≠ file := by simp [hresolved]
    rw [find?_entered_synthetic, hcache.synthesized hcwd, Enquiry.sheetFor?_concat_of_ne (hother _)]

/-- A file that no entry names may be declined. -/
theorem insert_declined (hcache : cache.Records history) {cwd path : String} (hcwd : Path.IsAbsolute cwd)
    (hentry : Enquiry.entryFor? history (Path.absolute cwd path) = none) :
    (cache.insert (.real (Url.ofPath .posix cwd path)) .declined).Records history where
  named {directory other last entry} hdirectory hlast := by
    have hne : CanonicalUrl.real (Url.ofPath .posix cwd path) ≠ .real (Url.ofPath .posix directory other) := by
      intro heq
      have hsame := (Url.ofPath_eq_iff hcwd hdirectory path other).mp (CanonicalUrl.real.inj heq)
      rw [← hsame, hentry] at hlast
      cases hlast
    rw [find?_insert_of_ne cache hne]
    exact hcache.named hdirectory hlast
  unnamed hdirectory hlast hfound := by
    rw [find?_insert] at hfound
    split at hfound
    · exact (Option.some.inj hfound).symm
    · exact hcache.unnamed hdirectory hlast hfound
  synthesized hdirectory := by
    rw [find?_insert_of_ne cache (CanonicalUrl.synthetic_ne_real _ _).symm]
    exact hcache.synthesized hdirectory

/-- A request for a file that has no synthetic stylesheet leaves its entries and their stylesheet. -/
theorem insert_synthetic (hcache : cache.Records history) (enquiry : Enquiry)
    (henquiry : Path.IsAbsolute enquiry.cwd) (hresolved : enquiry.isResolved = true)
    (hunknown : cache.find? (.synthetic (Url.ofPath .posix enquiry.cwd enquiry.path)) = none) :
    ((cache.entered enquiry.cwd enquiry.path enquiry.entries).insert
      (.synthetic (Url.ofPath .posix enquiry.cwd enquiry.path)) (.stylesheet enquiry.sheet)).Records
        (history ++ [enquiry]) where
  named hcwd hentry := by
    rw [find?_insert_of_ne _ (CanonicalUrl.synthetic_ne_real _ _)]
    exact hcache.named_entered henquiry hcwd hentry
  unnamed hcwd hentry hfound := by
    rw [find?_insert_of_ne _ (CanonicalUrl.synthetic_ne_real _ _)] at hfound
    exact hcache.unnamed_entered henquiry hcwd hentry hfound
  synthesized {cwd path} hcwd := by
    have hurl := Url.ofPath_eq_iff henquiry hcwd enquiry.path path
    rw [find?_insert, find?_entered_synthetic]
    split
    · next heq =>
        have hfile : enquiry.file = Path.absolute cwd path := hurl.mp (CanonicalUrl.synthetic.inj heq)
        have hfirst : Enquiry.sheetFor? history enquiry.file = none := by
          rw [hcache.synthesized henquiry] at hunknown
          exact Option.map_eq_none_iff.mp hunknown
        rw [← hfile, Enquiry.sheetFor?_concat_self hresolved hfirst]
        rfl
    · next hne =>
        have hother : enquiry.file ≠ Path.absolute cwd path :=
          fun hfile => hne (congrArg CanonicalUrl.synthetic (hurl.mpr hfile))
        rw [hcache.synthesized hcwd, Enquiry.sheetFor?_concat_of_ne fun _ => hother]

end Cache.Records

namespace Leads

variable {cwd url : String} {cache after : Cache} {answer : Except Failure (Option String)}
  {entries : List ImportEntry} {history : List Enquiry}

/-- What the cache has of the history is what it has of it after one more request, be it that this fails or not. -/
theorem records (hleads : Leads cwd url cache answer entries after) (hcwd : Path.IsAbsolute cwd)
    (hcache : cache.Records history) :
    after.Records (history ++ Enquiry.ofRequest cwd url cache answer entries) := by
  cases hleads with
  | unreadable hurl =>
      simp only [Enquiry.ofRequest, hurl, List.append_nil]
      exact hcache
  | known hpath hknown =>
      simp only [Enquiry.ofRequest, hpath, hknown, Option.isSome_some, if_true, List.append_nil]
      exact hcache
  | @failed path failure _ hpath hunknown =>
      simp only [Enquiry.ofRequest, hpath, hunknown, Option.isSome_none, Bool.false_eq_true, if_false]
      exact hcache.entered ⟨cwd, path, entries, .error failure⟩ hcwd rfl
  | @declined path hpath hunknown =>
      simp only [Enquiry.ofRequest, hpath, hunknown, Option.isSome_none, Bool.false_eq_true, if_false]
      have hentered := hcache.entered ⟨cwd, path, [], .ok none⟩ hcwd rfl
      refine hentered.insert_declined hcwd ?_
      -- an entry that names the file would be known
      cases hentry : Enquiry.entryFor? (history ++ [⟨cwd, path, [], .ok none⟩]) (Path.absolute cwd path) with
      | none => rfl
      | some found =>
          have hfound : cache.find? (.real (Url.ofPath .posix cwd path)) = _ := hentered.named hcwd hentry
          rw [(Cache.answer?_eq_none_iff.mp hunknown).1] at hfound
          cases hfound
  | @resolved path _ hpath hunknown =>
      simp only [Enquiry.ofRequest, hpath, hunknown, Option.isSome_none, Bool.false_eq_true, if_false]
      exact hcache.insert_synthetic ⟨cwd, path, entries, .ok (some _)⟩ hcwd rfl
        (Cache.answer?_eq_none_iff.mp hunknown).2

/-- What is in the cache after an answer, by the kind of answer. -/
theorem find?_of_ok {given : Option String} (hleads : Leads cwd url cache (.ok given) entries after) :
    ∃ path, Url.toPath .posix url = .ok path ∧
      ((given = none ∧ after.find? (.real (Url.ofPath .posix cwd path)) = some .declined) ∨
        (given = some (CanonicalUrl.synthetic (Url.ofPath .posix cwd path)).wire ∧
          (after.find? (.synthetic (Url.ofPath .posix cwd path))).isSome) ∨
        (given = some (Url.ofPath .posix cwd path) ∧
          ∃ sheet, after.find? (.real (Url.ofPath .posix cwd path)) = some (.stylesheet sheet))) := by
  cases hleads with
  | @known path _ hpath hknown =>
      refine ⟨path, hpath, ?_⟩
      cases hreal : cache.find? (.real (Url.ofPath .posix cwd path)) with
      | some resolution =>
          rw [Cache.answer?_of_real hreal, Option.some.injEq] at hknown
          subst hknown
          cases resolution with
          | declined => exact Or.inl ⟨rfl, rfl⟩
          | stylesheet sheet => exact Or.inr (Or.inr ⟨rfl, sheet, rfl⟩)
      | none =>
          rw [Cache.answer?_of_synthetic hreal, Option.map_eq_some_iff] at hknown
          obtain ⟨resolution, hsynthetic, rfl⟩ := hknown
          exact Or.inr (Or.inl ⟨rfl, hsynthetic ▸ rfl⟩)
  | @declined path hpath => exact ⟨path, hpath, Or.inl ⟨rfl, Cache.find?_insert_self cache _ .declined⟩⟩
  | @resolved path _ hpath =>
      refine ⟨path, hpath, Or.inr (Or.inl ⟨rfl, ?_⟩)⟩
      rw [Cache.find?_insert_self]
      rfl

end Leads

/-- An entry stands for a stylesheet only if it has the source at hand. -/
theorem ImportEntry.source_of_resolved {cwd requested : String} {entry : ImportEntry} {sheet : Stylesheet}
    (hresolved : entry.resolved cwd requested = .stylesheet sheet) :
    ∃ source language, entry.source = some source ∧ Language.ofPath? entry.path = some language ∧
      sheet = ⟨source, language, entry.sourceMapUrl cwd requested⟩ := by
  cases hsource : entry.source with
  | none =>
      rw [resolved, entry.resolution_of_none cwd hsource] at hresolved
      cases hresolved
  | some source =>
      cases hlanguage : Language.ofPath? entry.path with
      | none =>
          simp [resolved, resolution, hsource, Language.ofPath, hlanguage, bind, Except.bind] at hresolved
      | some language =>
          rw [resolved, entry.resolution_of_source cwd hsource hlanguage] at hresolved
          exact ⟨source, language, rfl, rfl, (Resolution.stylesheet.inj hresolved).symm⟩

namespace Cache.Records

variable {cache : Cache} {history : List Enquiry} {cwd path : String}

/-- A synthetic URL is loaded as the stylesheet of the request that made one for the file. -/
theorem load_synthetic (hcache : cache.Records history) (hcwd : Path.IsAbsolute cwd)
    (hknown : (cache.find? (.synthetic (Url.ofPath .posix cwd path))).isSome) :
    ∃ enquiry, Enquiry.sheetFor? history (Path.absolute cwd path) = some enquiry ∧
      cache.load (CanonicalUrl.synthetic (Url.ofPath .posix cwd path)).wire = some enquiry.sheet := by
  have hsheet : cache.find? (.synthetic (Url.ofPath .posix cwd path)) = _ := hcache.synthesized hcwd
  have hmade : (Enquiry.sheetFor? history (Path.absolute cwd path)).isSome := by
    rwa [← Option.isSome_map, ← hsheet]
  obtain ⟨enquiry, henquiry⟩ := Option.isSome_iff_exists.mp hmade
  refine ⟨enquiry, henquiry, ?_⟩
  rw [Cache.load_synthetic, hsheet, henquiry]
  rfl

/-- A file that is in the cache with a stylesheet is loaded as the source of the last entry for it. -/
theorem load_real (hcache : cache.Records history) (hcwd : Path.IsAbsolute cwd) {sheet : Stylesheet}
    (hfound : cache.find? (.real (Url.ofPath .posix cwd path)) = some (.stylesheet sheet)) :
    ∃ enquiry entry source language, Enquiry.entryFor? history (Path.absolute cwd path) = some (enquiry, entry) ∧
      entry.source = some source ∧ Language.ofPath? entry.path = some language ∧
      cache.load (Url.ofPath .posix cwd path) =
        some ⟨source, language, entry.sourceMapUrl enquiry.cwd enquiry.path⟩ := by
  cases hentry : Enquiry.entryFor? history (Path.absolute cwd path) with
  | none => cases hcache.unnamed hcwd hentry hfound
  | some found =>
      obtain ⟨enquiry, entry⟩ := found
      have hresolved := Option.some.inj ((hcache.named hcwd hentry).symm.trans hfound)
      obtain ⟨source, language, hsource, hlanguage, rfl⟩ := ImportEntry.source_of_resolved hresolved
      exact ⟨enquiry, entry, source, language, rfl, hsource, hlanguage, Cache.load_of_find? hfound⟩

end Cache.Records

namespace LegacyImporter

variable (importer : LegacyImporter ι)

/-- What a use adds to the history. -/
def enquiriesOf (state : ImportState ι) : ImportUse → List Enquiry
  | .canonicalize cwd url =>
    Enquiry.ofRequest cwd url state.cache (importer.canonicalize cwd url state.cache state.receiver).answer
      (importer.registered cwd url state.cache state.receiver)
  | .load _ | .setOption _ _ => []

/-- What some uses add to the history, oldest first. -/
def historyOf : ImportState ι → List ImportUse → List Enquiry
  | _, [] => []
  | state, use :: uses => importer.enquiriesOf state use ++ historyOf (importer.serve state use).state uses

theorem afterAll_append (state : ImportState ι) (uses later : List ImportUse) :
    importer.afterAll state (uses ++ later) = importer.afterAll (importer.afterAll state uses) later := by
  induction uses generalizing state with
  | nil => rfl
  | cons use uses ih => exact ih _

variable {history : List Enquiry}

theorem records_serve {state : ImportState ι} (hstate : state.cache.Records history) {use : ImportUse}
    (huse : use.IsAbsolute) :
    (importer.serve state use).state.cache.Records (history ++ importer.enquiriesOf state use) := by
  cases use with
  | canonicalize cwd url => exact (importer.leads_canonicalize cwd url state.cache state.receiver).records huse hstate
  | load url => rwa [enquiriesOf, List.append_nil]
  | setOption name value => rwa [enquiriesOf, List.append_nil]

theorem records_afterAll {state : ImportState ι} (hstate : state.cache.Records history) {uses : List ImportUse}
    (huses : ∀ use ∈ uses, use.IsAbsolute) :
    (importer.afterAll state uses).cache.Records (history ++ importer.historyOf state uses) := by
  induction uses generalizing state history with
  | nil => rwa [historyOf, List.append_nil]
  | cons use uses ih =>
      rw [List.forall_mem_cons] at huses
      rw [historyOf, ← List.append_assoc]
      exact ih (importer.records_serve hstate huses.1) huses.2

/-- The two steps of an import agree, whatever was asked before and however that ended. A synthetic URL is then loaded
as the stylesheet that the request for its file made. The URL of a file is loaded as the source that the last entry for
the file has at hand. Of a file for which there is no URL nothing is loaded. -/
theorem load_agrees (importer : LegacyImporter ι) (receiver : Receiver ι) {earlier : List ImportUse}
    (hearlier : ∀ use ∈ earlier, use.IsAbsolute) {cwd url : String} (hcwd : Path.IsAbsolute cwd)
    {given : Option String}
    (hanswer : (importer.serve (importer.afterAll ⟨[], receiver⟩ earlier) (.canonicalize cwd url)).answer =
      .url (.ok given)) :
    let history := importer.historyOf ⟨[], receiver⟩ (earlier ++ [.canonicalize cwd url])
    let after := (importer.serve (importer.afterAll ⟨[], receiver⟩ earlier) (.canonicalize cwd url)).state
    ∃ path, Url.toPath .posix url = .ok path ∧
      ((given = none ∧ (importer.serve after (.load (Url.ofPath .posix cwd path))).answer = .sheet none) ∨
        (∃ wire enquiry, given = some wire ∧ wire = (CanonicalUrl.synthetic (Url.ofPath .posix cwd path)).wire ∧
          Enquiry.sheetFor? history (Path.absolute cwd path) = some enquiry ∧
          (importer.serve after (.load wire)).answer = .sheet (some enquiry.sheet)) ∨
        ∃ wire enquiry entry source language, given = some wire ∧ wire = Url.ofPath .posix cwd path ∧
          Enquiry.entryFor? history (Path.absolute cwd path) = some (enquiry, entry) ∧
          entry.source = some source ∧ Language.ofPath? entry.path = some language ∧
          (importer.serve after (.load wire)).answer =
            .sheet (some ⟨source, language, entry.sourceMapUrl enquiry.cwd enquiry.path⟩)) := by
  intro history after
  have huses : ∀ use ∈ earlier ++ [.canonicalize cwd url], use.IsAbsolute := by
    intro use huse
    rcases List.mem_append.mp huse with hbefore | hlast
    · exact hearlier use hbefore
    · rw [List.mem_singleton.mp hlast]
      exact hcwd
  have hrecords : after.cache.Records history := by
    have hstart : (ImportState.mk [] receiver).cache.Records [] := .nil
    have hall := importer.records_afterAll hstart huses
    rwa [afterAll_append] at hall
  have hleads := importer.leads_canonicalize cwd url (importer.afterAll ⟨[], receiver⟩ earlier).cache
    (importer.afterAll ⟨[], receiver⟩ earlier).receiver
  have hok : (importer.canonicalize cwd url (importer.afterAll ⟨[], receiver⟩ earlier).cache
      (importer.afterAll ⟨[], receiver⟩ earlier).receiver).answer = .ok given := ImportAnswer.url.inj hanswer
  rw [hok] at hleads
  obtain ⟨path, hpath, ⟨rfl, hfound⟩ | ⟨rfl, hfound⟩ | ⟨rfl, sheet, hfound⟩⟩ := hleads.find?_of_ok
  · refine ⟨path, hpath, Or.inl ⟨rfl, ?_⟩⟩
    exact congrArg ImportAnswer.sheet (Cache.load_of_find? hfound)
  · obtain ⟨enquiry, henquiry, hload⟩ := hrecords.load_synthetic hcwd hfound
    exact ⟨path, hpath, Or.inr (Or.inl ⟨_, enquiry, rfl, rfl, henquiry, congrArg ImportAnswer.sheet hload⟩)⟩
  · obtain ⟨enquiry, entry, source, language, hentry, hsource, hlanguage, hload⟩ := hrecords.load_real hcwd hfound
    exact ⟨path, hpath, Or.inr (Or.inr ⟨_, enquiry, entry, source, language, rfl, rfl, hentry, hsource, hlanguage,
      congrArg ImportAnswer.sheet hload⟩)⟩

/-- An importer of which the first request fails half way and the second names the same file again. -/
def renewed : LegacyImporter Scripted.Counts :=
  Scripted.importer ⟨[("first", .many [.entry ⟨"a.scss", some "x", none⟩, .entry ⟨"d.less", some "z", none⟩]),
    ("second", .many [.entry ⟨"./a.scss", some "y", some "m.map"⟩])], .one .echo⟩

/-- The file is loaded as what the second request named. -/
theorem load_agrees_renewed :
    let earlier := [.canonicalize "/work/project" "first", .load "file:///work/project/a.scss",
      .canonicalize "/work/project" "second"]
    let served := renewed.serve (renewed.afterAll fresh earlier) (.canonicalize "/" "file:///work/project/%61.scss")
    (∀ use ∈ earlier, use.IsAbsolute) ∧ Path.IsAbsolute "/" ∧
    served.answer = .url (.ok (some "file:///work/project/a.scss")) ∧
    (renewed.serve served.state (.load "file:///work/project/a.scss")).answer =
      .sheet (some ⟨"y", .scss, some "file:///work/project/second/m.map"⟩) := by
  intro earlier served
  have hearlier : ∀ use ∈ earlier, use.IsAbsolute := by
    intro use huse
    simp only [earlier, List.mem_cons, List.not_mem_nil, or_false] at huse
    rcases huse with rfl | rfl | rfl
    · exact (by decide : Path.IsAbsolute "/work/project")
    · exact trivial
    · exact (by decide : Path.IsAbsolute "/work/project")
  have hroot : Path.IsAbsolute "/" := by decide
  have hknown : (renewed.afterAll fresh earlier).cache.answer? "file:///work/project/a.scss" =
      some (some "file:///work/project/a.scss") := by decide +kernel
  have hfile : NamesFile "/" "file:///work/project/%61.scss" "/work/project/a.scss" :=
    ⟨hroot, "/work/project/a.scss", by cbv, by decide⟩
  have hurl : Url.ofPath .posix "/" "/work/project/a.scss" = "file:///work/project/a.scss" := by decide
  have hanswer : served.answer = .url (.ok (some "file:///work/project/a.scss")) := by
    rw [← hurl] at hknown
    exact congrArg Served.answer (renewed.serve_of_answer? hfile (hknown.trans (by rw [hurl])))
  have hhistory : (Enquiry.entryFor? (renewed.historyOf fresh (earlier ++ [.canonicalize "/"
      "file:///work/project/%61.scss"])) "/work/project/a.scss").map
        (fun found => (found.1.cwd, found.1.path, found.2)) =
      some ("/work/project", "second", ⟨"./a.scss", some "y", some "m.map"⟩) := by decide +kernel
  obtain ⟨path, hpath, hcases⟩ := load_agrees renewed ⟨some [], []⟩ hearlier hroot hanswer
  obtain rfl : path = "/work/project/a.scss" :=
    Except.ok.inj (hpath.symm.trans (by cbv : Url.toPath .posix "file:///work/project/%61.scss" = _))
  have habsolute : Path.absolute "/" "/work/project/a.scss" = "/work/project/a.scss" := by decide
  refine ⟨hearlier, hroot, hanswer, ?_⟩
  rcases hcases with ⟨hnone, -⟩ | ⟨wire, enquiry, hgiven, hwire, -⟩ |
    ⟨wire, enquiry, entry, source, language, hgiven, -, hentry, hsource, hlanguage, hload⟩
  · cases hnone
  · rw [hwire, hurl] at hgiven
    exact absurd (Option.some.inj hgiven) (by decide)
  · obtain rfl := Option.some.inj hgiven
    rw [habsolute] at hentry
    obtain ⟨hcwd, hrequested, rfl⟩ : enquiry.cwd = "/work/project" ∧ enquiry.path = "second" ∧
        entry = ⟨"./a.scss", some "y", some "m.map"⟩ := by
      have heq := (congrArg (Option.map _) hentry).symm.trans hhistory
      simpa using heq
    obtain rfl := Option.some.inj hsource
    have hscss : Language.ofPath? "./a.scss" = some .scss := by decide
    obtain rfl := Option.some.inj (hscss.symm.trans hlanguage)
    have hmap : ImportEntry.sourceMapUrl "/work/project" "second" ⟨"./a.scss", some "y", some "m.map"⟩ =
        some "file:///work/project/second/m.map" := by decide
    rw [hcwd, hrequested, hmap] at hload
    exact hload

end LegacyImporter

end SassBridge
