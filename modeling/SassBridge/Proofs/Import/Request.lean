import SassBridge.Proofs.Import.Bridge

/-! What one request can do to the cache. A file of which something is known is answered from the cache, which stays
as it is. Any other request enters what the importer names, up to the first element that cannot be entered, and
then its own outcome if it has one. -/

namespace SassBridge

variable {ι : Type}

theorem CanonicalUrl.eq_of_ofWire {url fileUrl : String} (hreal : ofWire url = .real fileUrl) : fileUrl = url := by
  rw [ofWire] at hreal
  split at hreal
  · cases hreal
  · exact (CanonicalUrl.real.inj hreal).symm

theorem ImportEntry.language_of_resolution (cwd : String) (entry : ImportEntry) {requested : String}
    {resolution : Resolution} (hresolution : entry.resolution cwd requested = .ok resolution) :
    entry.source.isSome → (Language.ofPath? entry.path).isSome := by
  intro hsource
  obtain ⟨source, hsource⟩ := Option.isSome_iff_exists.mp hsource
  rw [ImportEntry.resolution, hsource, Language.ofPath] at hresolution
  cases hlanguage : Language.ofPath? entry.path with
  | some language => rfl
  | none =>
      rw [hlanguage] at hresolution
      cases hresolution

namespace Cache

/-- The answer that is known for the file of a URL. What was entered for the file itself goes before the synthetic
stylesheet of a request for it. -/
def answer? (cache : Cache) (fileUrl : String) : Option (Option String) :=
  match cache.find? (.real fileUrl) with
  | some resolution => some (resolution.stylesheet?.map fun _ => fileUrl)
  | none => (cache.find? (.synthetic fileUrl)).map fun _ => some (CanonicalUrl.synthetic fileUrl).wire

theorem answer?_of_real {cache : Cache} {fileUrl : String} {resolution : Resolution}
    (hfound : cache.find? (.real fileUrl) = some resolution) :
    cache.answer? fileUrl = some (resolution.stylesheet?.map fun _ => fileUrl) := by
  rw [answer?, hfound]

theorem answer?_of_synthetic {cache : Cache} {fileUrl : String} (hreal : cache.find? (.real fileUrl) = none) :
    cache.answer? fileUrl =
      (cache.find? (.synthetic fileUrl)).map fun _ => some (CanonicalUrl.synthetic fileUrl).wire := by
  rw [answer?, hreal]

theorem isSome_answer? (cache : Cache) (fileUrl : String) :
    (cache.answer? fileUrl).isSome =
      ((cache.find? (.real fileUrl)).isSome || (cache.find? (.synthetic fileUrl)).isSome) := by
  cases hreal : cache.find? (.real fileUrl) with
  | some resolution => rw [answer?_of_real hreal]; rfl
  | none => rw [answer?_of_synthetic hreal, Option.isSome_map]; rfl

theorem answer?_eq_none_iff {cache : Cache} {fileUrl : String} :
    cache.answer? fileUrl = none ↔
      cache.find? (.real fileUrl) = none ∧ cache.find? (.synthetic fileUrl) = none := by
  cases hreal : cache.find? (.real fileUrl) with
  | some resolution => simp [answer?_of_real hreal]
  | none => simp [answer?_of_synthetic hreal]

theorem isSome_find?_insert {cache : Cache} {key : CanonicalUrl} (hknown : (cache.find? key).isSome)
    (url : CanonicalUrl) (resolution : Resolution) : ((cache.insert url resolution).find? key).isSome := by
  by_cases hsame : url = key
  · rw [hsame, find?_insert_self]
    rfl
  · rw [find?_insert_of_ne cache hsame]
    exact hknown

variable {cwd requested : String}

theorem isSome_find?_entered {cache : Cache} {key : CanonicalUrl} (hknown : (cache.find? key).isSome)
    (entries : List ImportEntry) : ((cache.entered cwd requested entries).find? key).isSome := by
  induction entries generalizing cache with
  | nil => exact hknown
  | cons entry entries ih => exact ih (isSome_find?_insert hknown _ _)

theorem isSome_find?_entered_of_mem {entries : List ImportEntry} {entry : ImportEntry} (hentry : entry ∈ entries)
    (cache : Cache) : ((cache.entered cwd requested entries).find? (.real (entry.url cwd))).isSome := by
  induction entries generalizing cache with
  | nil => cases hentry
  | cons first entries ih =>
      rcases List.mem_cons.mp hentry with rfl | hrest
      · rw [entered, List.foldl_cons, ← entered]
        apply isSome_find?_entered
        rw [find?_insert_self]
        rfl
      · exact ih hrest _

theorem find?_entered_synthetic (cache : Cache) (entries : List ImportEntry) (fileUrl : String) :
    (cache.entered cwd requested entries).find? (.synthetic fileUrl) = cache.find? (.synthetic fileUrl) :=
  find?_entered_of_ne (fun entry _ heq => CanonicalUrl.synthetic_ne_real fileUrl (entry.url cwd) heq.symm) cache

theorem find?_entered_real {entries : List ImportEntry} {fileUrl : String}
    (hother : fileUrl ∉ entries.map (·.url cwd)) (cache : Cache) :
    (cache.entered cwd requested entries).find? (.real fileUrl) = cache.find? (.real fileUrl) := by
  apply find?_entered_of_ne
  intro entry hentry heq
  exact hother (List.mem_map.mpr ⟨entry, hentry, CanonicalUrl.real.inj heq⟩)

/-- The entries that are entered of a sequence: those before the first element that cannot be. -/
def admitted (cwd requested : String) : List (Option ImportEntry) → List ImportEntry
  | [] | none :: _ => []
  | some entry :: rest =>
    match entry.resolution cwd requested with
    | .ok _ => entry :: admitted cwd requested rest
    | .error _ => []

theorem language_of_mem_admitted {elements : List (Option ImportEntry)} {entry : ImportEntry}
    (hentry : entry ∈ admitted cwd requested elements) :
    entry.source.isSome → (Language.ofPath? entry.path).isSome := by
  induction elements with
  | nil => cases hentry
  | cons element elements ih =>
      cases element with
      | none => cases hentry
      | some first =>
          cases hfirst : first.resolution cwd requested with
          | error failure =>
              rw [admitted, hfirst] at hentry
              cases hentry
          | ok resolution =>
              rw [admitted, hfirst] at hentry
              rcases List.mem_cons.mp hentry with rfl | hrest
              · exact entry.language_of_resolution cwd hfirst
              · exact ih hrest

/-- Whether it fails or not, a registration leaves the entries that were admitted. -/
theorem registerAll_snd (elements : List (Option ImportEntry)) (cache : Cache) :
    (registerAll cwd requested elements cache).2 =
      cache.entered cwd requested (admitted cwd requested elements) := by
  induction elements generalizing cache with
  | nil => rfl
  | cons element elements ih =>
      cases element with
      | none => rfl
      | some entry =>
          cases hentry : entry.resolution cwd requested with
          | error failure => simp [registerAll, register, admitted, entered, hentry, bind, Except.bind]
          | ok resolution =>
              have hresolved : entry.resolved cwd requested = resolution := by rw [ImportEntry.resolved, hentry]
              rw [registerAll, register_some hentry, admitted, hentry]
              refine (ih _).trans ?_
              rw [entered, entered, List.foldl_cons, hresolved]

/-- A registration that succeeds has admitted all elements. -/
theorem map_some_admitted {elements : List (Option ImportEntry)} {cache after : Cache}
    (hregister : registerAll cwd requested elements cache = (.ok (), after)) :
    (admitted cwd requested elements).map some = elements := by
  induction elements generalizing cache with
  | nil => rfl
  | cons element elements ih =>
      cases element with
      | none =>
          rw [registerAll, register] at hregister
          cases hregister
      | some entry =>
          cases hentry : entry.resolution cwd requested with
          | error failure =>
              rw [registerAll, register, hentry] at hregister
              cases hregister
          | ok resolution =>
              rw [registerAll, register_some hentry] at hregister
              rw [admitted, hentry]
              exact congrArg (some entry :: ·) (ih hregister)

end Cache

/-- A later cache knows all that an earlier one knows, and knows the same of it, but for what files of some URLs
themselves stand for. -/
structure Cache.Extends (before after : Cache) (urls : List String) : Prop where
  known : ∀ key, (before.find? key).isSome → (after.find? key).isSome
  synthetic : ∀ fileUrl resolution, before.find? (.synthetic fileUrl) = some resolution →
    after.find? (.synthetic fileUrl) = some resolution
  real : ∀ fileUrl, (before.answer? fileUrl).isSome → fileUrl ∉ urls →
    after.find? (.real fileUrl) = before.find? (.real fileUrl)

namespace Cache.Extends

variable {before between after : Cache} {urls later : List String}

theorem refl (cache : Cache) (urls : List String) : cache.Extends cache urls where
  known _ hknown := hknown
  synthetic _ _ hfound := hfound
  real _ _ _ := rfl

theorem isSome_answer? (hextends : before.Extends after urls) {fileUrl : String}
    (hknown : (before.answer? fileUrl).isSome) : (after.answer? fileUrl).isSome := by
  rw [Cache.isSome_answer?, Bool.or_eq_true] at hknown ⊢
  exact hknown.imp (hextends.known _) (hextends.known _)

theorem trans (hfirst : before.Extends between urls) (hsecond : between.Extends after later) :
    before.Extends after (urls ++ later) where
  known key hknown := hsecond.known key (hfirst.known key hknown)
  synthetic fileUrl resolution hfound :=
    hsecond.synthetic fileUrl resolution (hfirst.synthetic fileUrl resolution hfound)
  real fileUrl hknown hother := by
    rw [List.mem_append, not_or] at hother
    rw [hsecond.real fileUrl (hfirst.isSome_answer? hknown) hother.2, hfirst.real fileUrl hknown hother.1]

/-- The answer for a file stays what it is unless an entry names the file. -/
theorem answer?_eq_some (hextends : before.Extends after urls) {fileUrl : String} {answer : Option String}
    (hknown : before.answer? fileUrl = some answer) (hother : fileUrl ∉ urls) :
    after.answer? fileUrl = some answer := by
  have hreal := hextends.real fileUrl (hknown ▸ rfl) hother
  cases hbefore : before.find? (.real fileUrl) with
  | some resolution =>
      rw [hbefore] at hreal
      rw [Cache.answer?_of_real hbefore] at hknown
      rw [Cache.answer?_of_real hreal, hknown]
  | none =>
      rw [hbefore] at hreal
      rw [Cache.answer?_of_synthetic hbefore, Option.map_eq_some_iff] at hknown
      obtain ⟨resolution, hsynthetic, rfl⟩ := hknown
      rw [Cache.answer?_of_synthetic hreal, hextends.synthetic fileUrl resolution hsynthetic]
      rfl

/-- So does the stylesheet for a URL. -/
theorem load_eq_some (hextends : before.Extends after urls) {url : String} {sheet : Stylesheet}
    (hload : before.load url = some sheet)
    (hother : ∀ fileUrl, CanonicalUrl.ofWire url = .real fileUrl → fileUrl ∉ urls) : after.load url = some sheet := by
  rw [Cache.load] at hload ⊢
  obtain ⟨resolution, hfound, hsheet⟩ := Option.bind_eq_some_iff.mp hload
  rw [← hsheet]
  cases hurl : CanonicalUrl.ofWire url with
  | synthetic fileUrl =>
      rw [hurl] at hfound
      rw [hextends.synthetic fileUrl resolution hfound]
      rfl
  | real fileUrl =>
      rw [hurl] at hfound
      have hknown : (before.answer? fileUrl).isSome := by
        rw [Cache.answer?_of_real hfound]
        rfl
      rw [hextends.real fileUrl hknown (hother fileUrl hurl), hfound]
      rfl

end Cache.Extends

/-- What a request for a URL leads to, by cause: its answer, the entries that it enters and the cache after it. -/
inductive Leads (cwd url : String) (cache : Cache) :
    Except Failure (Option String) → List ImportEntry → Cache → Prop where
  | unreadable {fault : Url.HostFault} (hurl : Url.toPath .posix url = .error fault) :
      Leads cwd url cache (.error (.badHost fault)) [] cache
  | known {path : String} {answer : Option String} (hpath : Url.toPath .posix url = .ok path)
      (hknown : cache.answer? (Url.ofPath .posix cwd path) = some answer) :
      Leads cwd url cache (.ok answer) [] cache
  | failed {path : String} {failure : Failure} {entries : List ImportEntry}
      (hpath : Url.toPath .posix url = .ok path)
      (hunknown : cache.answer? (Url.ofPath .posix cwd path) = none) :
      Leads cwd url cache (.error failure) entries (cache.entered cwd path entries)
  | declined {path : String} (hpath : Url.toPath .posix url = .ok path)
      (hunknown : cache.answer? (Url.ofPath .posix cwd path) = none) :
      Leads cwd url cache (.ok none) [] (cache.insert (.real (Url.ofPath .posix cwd path)) .declined)
  | resolved {path : String} {entries : List ImportEntry} (hpath : Url.toPath .posix url = .ok path)
      (hunknown : cache.answer? (Url.ofPath .posix cwd path) = none) :
      Leads cwd url cache (.ok (some (CanonicalUrl.synthetic (Url.ofPath .posix cwd path)).wire)) entries
        ((cache.entered cwd path entries).insert (.synthetic (Url.ofPath .posix cwd path))
          (.stylesheet (.importing cwd (entries.map some))))

namespace Leads

variable {cwd url : String} {cache after : Cache} {answer : Except Failure (Option String)}
  {entries : List ImportEntry}

/-- Nothing is ever forgotten. -/
theorem isSome_find? (hleads : Leads cwd url cache answer entries after) {key : CanonicalUrl}
    (hknown : (cache.find? key).isSome) : (after.find? key).isSome := by
  cases hleads with
  | unreadable => exact hknown
  | known => exact hknown
  | failed => exact Cache.isSome_find?_entered hknown entries
  | declined => exact Cache.isSome_find?_insert hknown _ _
  | resolved => exact Cache.isSome_find?_insert (Cache.isSome_find?_entered hknown entries) _ _

/-- A synthetic stylesheet never changes: it is made only where nothing is known. -/
theorem find?_synthetic (hleads : Leads cwd url cache answer entries after) {fileUrl : String}
    {resolution : Resolution} (hfound : cache.find? (.synthetic fileUrl) = some resolution) :
    after.find? (.synthetic fileUrl) = some resolution := by
  cases hleads with
  | unreadable => exact hfound
  | known => exact hfound
  | failed => rw [Cache.find?_entered_synthetic, hfound]
  | declined => rw [Cache.find?_insert_of_ne cache (CanonicalUrl.synthetic_ne_real fileUrl _).symm, hfound]
  | @resolved path _ hpath hunknown =>
      have hne : CanonicalUrl.synthetic (Url.ofPath .posix cwd path) ≠ .synthetic fileUrl := by
        intro heq
        have hnothing := (Cache.answer?_eq_none_iff.mp hunknown).2
        rw [CanonicalUrl.synthetic.inj heq, hfound] at hnothing
        cases hnothing
      rw [Cache.find?_insert_of_ne _ hne, Cache.find?_entered_synthetic, hfound]

/-- What a known file itself stands for changes only where an entry names it. -/
theorem find?_real (hleads : Leads cwd url cache answer entries after) {fileUrl : String}
    (hknown : (cache.answer? fileUrl).isSome) (hother : fileUrl ∉ entries.map (·.url cwd)) :
    after.find? (.real fileUrl) = cache.find? (.real fileUrl) := by
  cases hleads with
  | unreadable => rfl
  | known => rfl
  | failed => exact Cache.find?_entered_real hother cache
  | @declined path hpath hunknown =>
      have hne : CanonicalUrl.real (Url.ofPath .posix cwd path) ≠ .real fileUrl := by
        intro heq
        rw [← CanonicalUrl.real.inj heq, hunknown] at hknown
        cases hknown
      exact Cache.find?_insert_of_ne cache hne .declined
  | resolved =>
      rw [Cache.find?_insert_of_ne _ (CanonicalUrl.synthetic_ne_real _ fileUrl),
        Cache.find?_entered_real hother]

theorem extends_cache (hleads : Leads cwd url cache answer entries after) :
    cache.Extends after (entries.map (·.url cwd)) where
  known _ hknown := hleads.isSome_find? hknown
  synthetic _ _ hfound := hleads.find?_synthetic hfound
  real _ hknown hother := hleads.find?_real hknown hother

/-- A request that got an answer leaves its file known. -/
theorem isSome_answer?_of_ok {path : String} {given : Option String}
    (hleads : Leads cwd url cache (.ok given) entries after) (hpath : Url.toPath .posix url = .ok path) :
    (after.answer? (Url.ofPath .posix cwd path)).isSome := by
  cases hleads with
  | known hsame hknown =>
      obtain rfl := Except.ok.inj (hsame.symm.trans hpath)
      rw [hknown]
      rfl
  | declined hsame =>
      obtain rfl := Except.ok.inj (hsame.symm.trans hpath)
      rw [Cache.isSome_answer?, Cache.find?_insert_self]
      rfl
  | resolved hsame =>
      obtain rfl := Except.ok.inj (hsame.symm.trans hpath)
      rw [Cache.isSome_answer?, Cache.find?_insert_self, Option.isSome_some, Bool.or_true]

/-- It leaves the answer known that it gave, unless one of its own entries names the file. -/
theorem answer?_of_ok {path : String} {given : Option String}
    (hleads : Leads cwd url cache (.ok given) entries after) (hpath : Url.toPath .posix url = .ok path)
    (hother : Url.ofPath .posix cwd path ∉ entries.map (·.url cwd)) :
    after.answer? (Url.ofPath .posix cwd path) = some given := by
  cases hleads with
  | known hsame hknown =>
      obtain rfl := Except.ok.inj (hsame.symm.trans hpath)
      exact hknown
  | declined hsame =>
      obtain rfl := Except.ok.inj (hsame.symm.trans hpath)
      exact Cache.answer?_of_real (Cache.find?_insert_self cache _ .declined)
  | resolved hsame hunknown =>
      obtain rfl := Except.ok.inj (hsame.symm.trans hpath)
      rw [Cache.answer?_of_synthetic, Cache.find?_insert_self]
      · rfl
      · rw [Cache.find?_insert_of_ne _ (CanonicalUrl.synthetic_ne_real _ _), Cache.find?_entered_real hother,
          (Cache.answer?_eq_none_iff.mp hunknown).1]

/-- What an entry names stands for the last of the entries that name the same file. -/
theorem find?_of_mem (hleads : Leads cwd url cache answer entries after) (hcwd : Path.IsAbsolute cwd)
    {entry : ImportEntry} (hentry : entry ∈ entries) :
    ∃ path last, Url.toPath .posix url = .ok path ∧ ImportEntry.lastFor cwd entry.path entries = some last ∧
      last ∈ entries ∧ after.find? (.real (entry.url cwd)) = some (last.resolved cwd path) := by
  obtain ⟨last, hlast, hmem, hentered⟩ := ImportEntry.lastFor_spec hcwd hentry
  cases hleads with
  | unreadable => cases hentry
  | known => cases hentry
  | declined => cases hentry
  | @failed path _ _ hpath => exact ⟨path, last, hpath, hlast, hmem, hentered path cache⟩
  | @resolved path _ hpath =>
      refine ⟨path, last, hpath, hlast, hmem, ?_⟩
      rw [Cache.find?_insert_of_ne _ (CanonicalUrl.synthetic_ne_real _ _)]
      exact hentered path cache

theorem isSome_answer?_of_mem (hleads : Leads cwd url cache answer entries after) {entry : ImportEntry}
    (hentry : entry ∈ entries) : (after.answer? (entry.url cwd)).isSome := by
  rw [Cache.isSome_answer?, Bool.or_eq_true]
  left
  cases hleads with
  | unreadable => cases hentry
  | known => cases hentry
  | declined => cases hentry
  | failed => exact Cache.isSome_find?_entered_of_mem hentry cache
  | resolved => exact Cache.isSome_find?_insert (Cache.isSome_find?_entered_of_mem hentry cache) _ _

end Leads

namespace LegacyImporter

/-- The elements that the importer names for a path: none if it declines or fails. -/
def named (importer : LegacyImporter ι) (path : String) (receiver : Receiver ι) : List (Option ImportEntry) :=
  match receiver.options with
  | none => []
  | some options =>
    match (importer.imports (request path options) receiver).1 with
    | .ok (.many elements) => elements
    | .ok (.one entry) => if entry.path = path then [] else [some entry]
    | .ok .other | .error _ => []

/-- The entries that a request for a URL enters. -/
def registered (importer : LegacyImporter ι) (cwd url : String) (cache : Cache) (receiver : Receiver ι) :
    List ImportEntry :=
  match Url.toPath .posix url with
  | .error _ => []
  | .ok path =>
    if (cache.answer? (Url.ofPath .posix cwd path)).isSome then []
    else Cache.admitted cwd path (importer.named path receiver)

/-- An entry that is entered names a source in a known language, or none. -/
theorem language_of_mem_registered {importer : LegacyImporter ι} {cwd url : String} {cache : Cache}
    {receiver : Receiver ι} {entry : ImportEntry} (hentry : entry ∈ importer.registered cwd url cache receiver) :
    entry.source.isSome → (Language.ofPath? entry.path).isSome := by
  rw [registered] at hentry
  split at hentry
  · cases hentry
  · split at hentry
    · cases hentry
    · exact Cache.language_of_mem_admitted hentry

/-- A file of which something is known is answered from the cache, and nobody is asked. -/
theorem canonicalize_of_answer? (importer : LegacyImporter ι) {cwd url path : String} {cache : Cache}
    {answer : Option String} (hpath : Url.toPath .posix url = .ok path)
    (hknown : cache.answer? (Url.ofPath .posix cwd path) = some answer) (receiver : Receiver ι) :
    importer.canonicalize cwd url cache receiver = ⟨.ok answer, cache, receiver, none, none⟩ := by
  simp only [canonicalize, hpath]
  cases hreal : cache.find? (.real (Url.ofPath .posix cwd path)) with
  | some resolution =>
      rw [Cache.answer?_of_real hreal, Option.some.injEq] at hknown
      subst hknown
      cases resolution <;> rfl
  | none =>
      rw [Cache.answer?_of_synthetic hreal, Option.map_eq_some_iff] at hknown
      obtain ⟨resolution, hsynthetic, rfl⟩ := hknown
      simp only [hsynthetic, Option.isSome_some, if_true]

/-- Of any other file the importer is asked. -/
theorem canonicalize_of_answer?_none (importer : LegacyImporter ι) {cwd url path : String} {cache : Cache}
    (hpath : Url.toPath .posix url = .ok path) (hunknown : cache.answer? (Url.ofPath .posix cwd path) = none)
    (receiver : Receiver ι) :
    importer.canonicalize cwd url cache receiver =
      importer.ask cwd path (Url.ofPath .posix cwd path) cache receiver := by
  obtain ⟨hreal, hsynthetic⟩ := Cache.answer?_eq_none_iff.mp hunknown
  exact canonicalize_unknown importer receiver hpath hreal hsynthetic

theorem leads_synthesize {cwd url path : String} {cache : Cache} (hpath : Url.toPath .posix url = .ok path)
    (hunknown : cache.answer? (Url.ofPath .posix cwd path) = none) (elements : List (Option ImportEntry))
    (receiver : Receiver ι) (question : ImportRequest) :
    Leads cwd url cache
      (synthesize cwd path (Url.ofPath .posix cwd path) elements cache receiver question).answer
      (Cache.admitted cwd path elements)
      (synthesize cwd path (Url.ofPath .posix cwd path) elements cache receiver question).cache := by
  have hcache : (Cache.registerAll cwd path elements cache).2 =
      cache.entered cwd path (Cache.admitted cwd path elements) := Cache.registerAll_snd elements cache
  rcases hregister : Cache.registerAll cwd path elements cache with ⟨outcome, entered⟩
  rw [hregister] at hcache
  subst hcache
  cases outcome with
  | error failure =>
      simp only [synthesize, hregister]
      exact .failed hpath hunknown
  | ok =>
      have hall : (Cache.admitted cwd path elements).map some = elements := Cache.map_some_admitted hregister
      have hsheet : Stylesheet.importing cwd elements =
          .importing cwd ((Cache.admitted cwd path elements).map some) := by rw [hall]
      simp only [synthesize, hregister]
      rw [hsheet]
      exact .resolved hpath hunknown

theorem leads_ask (importer : LegacyImporter ι) {cwd url path : String} {cache : Cache}
    (hpath : Url.toPath .posix url = .ok path) (hunknown : cache.answer? (Url.ofPath .posix cwd path) = none)
    (receiver : Receiver ι) :
    Leads cwd url cache (importer.ask cwd path (Url.ofPath .posix cwd path) cache receiver).answer
      (Cache.admitted cwd path (importer.named path receiver))
      (importer.ask cwd path (Url.ofPath .posix cwd path) cache receiver).cache := by
  cases hoptions : receiver.options with
  | none =>
      simp only [ask, named, hoptions]
      exact .failed hpath hunknown
  | some options =>
      have hrequest : request path options = ⟨path, (options.get? "filename").getD .null⟩ := rfl
      rcases hanswer : importer.imports (request path options) receiver with ⟨response, after⟩
      simp only [ask, named, hoptions, hanswer, ← hrequest]
      rcases response with failure | (entry | elements | _)
      · exact .failed hpath hunknown
      · by_cases hdeclines : entry.path = path
        · simp only [if_pos hdeclines]
          exact .declined hpath hunknown
        · simp only [if_neg hdeclines]
          exact leads_synthesize hpath hunknown [some entry] after _
      · exact leads_synthesize hpath hunknown elements after _
      · exact .failed hpath hunknown

/-- Every request leads to its answer and to the cache after it. -/
theorem leads_canonicalize (importer : LegacyImporter ι) (cwd url : String) (cache : Cache) (receiver : Receiver ι) :
    Leads cwd url cache (importer.canonicalize cwd url cache receiver).answer
      (importer.registered cwd url cache receiver) (importer.canonicalize cwd url cache receiver).cache := by
  cases hpath : Url.toPath .posix url with
  | error fault =>
      simp only [canonicalize, registered, hpath]
      exact .unreadable hpath
  | ok path =>
      cases hanswer : cache.answer? (Url.ofPath .posix cwd path) with
      | some answer =>
          rw [canonicalize_of_answer? importer hpath hanswer receiver]
          simp only [registered, hpath, hanswer, Option.isSome_some, if_true]
          exact .known hpath hanswer
      | none =>
          rw [canonicalize_of_answer?_none importer hpath hanswer receiver]
          simp only [registered, hpath, hanswer, Option.isSome_none, Bool.false_eq_true, if_false]
          exact leads_ask importer hpath hanswer receiver

end LegacyImporter

end SassBridge
