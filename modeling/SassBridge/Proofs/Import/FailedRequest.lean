import SassBridge.Proofs.Import.Uses
import SassBridge.Proofs.Lists

/-! Requests that fail. The cache is kept exactly where the entries that were entered before the failure were known as
they are already, and then nothing that comes later tells that the request was ever made. -/

namespace SassBridge

variable {ι : Type}

namespace Cache

variable {cwd requested : String} {cache : Cache}

theorem exists_mem_of_isSome {key : CanonicalUrl} (hknown : (cache.find? key).isSome) :
    ∃ entry ∈ cache, (entry.1 == key) = true := by
  obtain ⟨resolution, hfound⟩ := Option.isSome_iff_exists.mp hknown
  exact ⟨_, Assoc.mem_of_find? hfound, beq_self_eq_true key⟩

theorem map_fst_entered {entries : List ImportEntry}
    (hknown : ∀ entry ∈ entries, (cache.find? (.real (entry.url cwd))).isSome) :
    (cache.entered cwd requested entries).map Prod.fst = cache.map Prod.fst := by
  induction entries generalizing cache with
  | nil => rfl
  | cons entry entries ih =>
      rw [List.forall_mem_cons] at hknown
      rw [entered, List.foldl_cons, ← entered, ih, insert,
        Assoc.map_fst_insert_of_bound (exists_mem_of_isSome hknown.1)]
      intro other hother
      exact isSome_find?_insert (hknown.2 other hother) _ _

theorem apart_entered (hcache : Assoc.Apart (· == ·) cache) (entries : List ImportEntry) :
    Assoc.Apart (· == ·) (cache.entered cwd requested entries) := by
  induction entries generalizing cache with
  | nil => exact hcache
  | cons entry entries ih => exact ih (Assoc.apart_insert hcache _)

/-- Entering entries changes nothing exactly where each file is known already as the last of its entries has it. -/
theorem entered_eq_iff (hcwd : Path.IsAbsolute cwd) (hcache : Assoc.Apart (· == ·) cache)
    (entries : List ImportEntry) :
    cache.entered cwd requested entries = cache ↔
      ∀ entry ∈ entries, ∃ last, ImportEntry.lastFor cwd entry.path entries = some last ∧
        cache.find? (.real (entry.url cwd)) = some (last.resolved cwd requested) := by
  constructor
  · intro hsame entry hentry
    obtain ⟨last, hlast, -, hentered⟩ := ImportEntry.lastFor_spec hcwd hentry
    refine ⟨last, hlast, ?_⟩
    rw [← hentered requested cache, hsame]
  · intro hknown
    have hkeys : (cache.entered cwd requested entries).map Prod.fst = cache.map Prod.fst := by
      apply map_fst_entered
      intro entry hentry
      obtain ⟨last, -, hfound⟩ := hknown entry hentry
      rw [hfound]
      rfl
    refine Assoc.ext_find? hkeys (Assoc.apart_iff_nodup.mp (apart_entered hcache entries)) ?_
    intro key
    cases key with
    | synthetic fileUrl => exact find?_entered_synthetic cache entries fileUrl
    | real fileUrl =>
        by_cases hnamed : fileUrl ∈ entries.map (·.url cwd)
        · obtain ⟨entry, hentry, rfl⟩ := List.mem_map.mp hnamed
          obtain ⟨last, hlast, hfound⟩ := hknown entry hentry
          obtain ⟨other, hother, -, hentered⟩ := ImportEntry.lastFor_spec hcwd hentry
          obtain rfl := Option.some.inj (hlast.symm.trans hother)
          exact (hentered requested cache).trans hfound.symm
        · exact find?_entered_real hnamed cache

end Cache

theorem Leads.apart {cwd url : String} {cache after : Cache} {answer : Except Failure (Option String)}
    {entries : List ImportEntry} (hleads : Leads cwd url cache answer entries after)
    (hcache : Assoc.Apart (· == ·) cache) : Assoc.Apart (· == ·) after := by
  cases hleads with
  | unreadable => exact hcache
  | known => exact hcache
  | failed => exact Cache.apart_entered hcache entries
  | declined => exact Assoc.apart_insert hcache _
  | resolved => exact Assoc.apart_insert (Cache.apart_entered hcache entries) _

/-- A request that failed left the entries that were entered before. -/
theorem Leads.after_eq_iff {cwd url : String} {cache after : Cache} {failure : Failure} {entries : List ImportEntry}
    (hleads : Leads cwd url cache (.error failure) entries after) (hcwd : Path.IsAbsolute cwd)
    (hcache : Assoc.Apart (· == ·) cache) :
    after = cache ↔ ∀ path, Url.toPath .posix url = .ok path → ∀ entry ∈ entries,
      ∃ last, ImportEntry.lastFor cwd entry.path entries = some last ∧
        cache.find? (.real (entry.url cwd)) = some (last.resolved cwd path) := by
  cases hleads with
  | unreadable hurl => simp [hurl]
  | failed hpath =>
      rw [Cache.entered_eq_iff hcwd hcache]
      constructor
      · intro hknown path hsame
        obtain rfl := Except.ok.inj (hpath.symm.trans hsame)
        exact hknown
      · intro hknown
        exact hknown _ hpath

namespace LegacyImporter

section Reached

variable (importer : LegacyImporter ι)

theorem apart_serve {state : ImportState ι} (hstate : Assoc.Apart (· == ·) state.cache) (use : ImportUse) :
    Assoc.Apart (· == ·) (importer.serve state use).state.cache := by
  cases use with
  | canonicalize cwd url => exact (importer.leads_canonicalize cwd url state.cache state.receiver).apart hstate
  | load url => exact hstate
  | setOption name value => exact hstate

/-- No key is ever bound twice. -/
theorem apart_afterAll {state : ImportState ι} (hstate : Assoc.Apart (· == ·) state.cache) (uses : List ImportUse) :
    Assoc.Apart (· == ·) (importer.afterAll state uses).cache := by
  induction uses generalizing state with
  | nil => exact hstate
  | cons use uses ih => exact ih (importer.apart_serve hstate use)

/-- The answers to some uses. -/
def answersOf : ImportState ι → List ImportUse → List ImportAnswer
  | _, [] => []
  | state, use :: uses => (importer.serve state use).answer :: answersOf (importer.serve state use).state uses

/-- Answers depend on nothing but the request, and the options stay what they are. -/
structure AnswersByRequest : Prop where
  answer : ∀ request one other, (importer.imports request one).1 = (importer.imports request other).1
  options : ∀ request receiver, (importer.imports request receiver).2.options = receiver.options

end Reached

section ByRequest

variable {importer : LegacyImporter ι} {one other : Receiver ι}

theorem synthesize_alike (cwd path fileUrl : String) (elements : List (Option ImportEntry)) (cache : Cache)
    (one other : Receiver ι) (question : ImportRequest) :
    (synthesize cwd path fileUrl elements cache one question).answer =
      (synthesize cwd path fileUrl elements cache other question).answer ∧
    (synthesize cwd path fileUrl elements cache one question).cache =
      (synthesize cwd path fileUrl elements cache other question).cache ∧
    (synthesize cwd path fileUrl elements cache one question).receiver = one := by
  rcases hregister : Cache.registerAll cwd path elements cache with ⟨outcome, entered⟩
  cases outcome <;> simp only [synthesize, hregister, and_self]

/-- Receivers of the same options give the same answer, and keep them. -/
theorem ask_alike (hbyRequest : importer.AnswersByRequest) (hoptions : one.options = other.options)
    (cwd path fileUrl : String) (cache : Cache) :
    (importer.ask cwd path fileUrl cache one).answer = (importer.ask cwd path fileUrl cache other).answer ∧
    (importer.ask cwd path fileUrl cache one).cache = (importer.ask cwd path fileUrl cache other).cache ∧
    (importer.ask cwd path fileUrl cache one).receiver.options = one.options := by
  cases hnone : one.options with
  | none =>
      rw [hnone] at hoptions
      simp only [ask, hnone, ← hoptions, and_self]
  | some options =>
      have hanswer := hbyRequest.answer (request path options) one other
      have hkept := hbyRequest.options (request path options) one
      rw [hnone] at hoptions hkept
      rw [request] at hanswer hkept
      rcases hone : importer.imports ⟨path, (options.get? "filename").getD .null⟩ one with ⟨response, after⟩
      rcases hother : importer.imports ⟨path, (options.get? "filename").getD .null⟩ other with ⟨same, later⟩
      rw [hone, hother] at hanswer
      rw [hone] at hkept
      obtain rfl : response = same := hanswer
      have hsynthesize : ∀ elements,
          (synthesize cwd path fileUrl elements cache after
            ⟨path, (options.get? "filename").getD .null⟩).receiver.options = some options := by
        intro elements
        rw [(synthesize_alike cwd path fileUrl elements cache after after _).2.2, hkept]
      simp only [ask, hnone, ← hoptions, hone, hother]
      rcases response with failure | (entry | elements | _)
      · exact ⟨rfl, rfl, hkept⟩
      · by_cases hdeclines : entry.path = path
        · simp only [if_pos hdeclines]
          exact ⟨trivial, trivial, hkept⟩
        · obtain ⟨hsame, hcache, -⟩ := synthesize_alike cwd path fileUrl [some entry] cache after later _
          simp only [if_neg hdeclines]
          exact ⟨hsame, hcache, hsynthesize [some entry]⟩
      · obtain ⟨hsame, hcache, -⟩ := synthesize_alike cwd path fileUrl elements cache after later _
        exact ⟨hsame, hcache, hsynthesize elements⟩
      · exact ⟨rfl, rfl, hkept⟩

theorem canonicalize_alike (hbyRequest : importer.AnswersByRequest) (hoptions : one.options = other.options)
    (cwd url : String) (cache : Cache) :
    (importer.canonicalize cwd url cache one).answer = (importer.canonicalize cwd url cache other).answer ∧
    (importer.canonicalize cwd url cache one).cache = (importer.canonicalize cwd url cache other).cache ∧
    (importer.canonicalize cwd url cache one).receiver.options = one.options := by
  cases hpath : Url.toPath .posix url with
  | error fault => simp only [canonicalize, hpath, and_self]
  | ok path =>
      cases hanswer : cache.answer? (Url.ofPath .posix cwd path) with
      | some answer =>
          rw [importer.canonicalize_of_answer? hpath hanswer, importer.canonicalize_of_answer? hpath hanswer]
          exact ⟨rfl, rfl, rfl⟩
      | none =>
          rw [importer.canonicalize_of_answer?_none hpath hanswer,
            importer.canonicalize_of_answer?_none hpath hanswer]
          exact ask_alike hbyRequest hoptions cwd path _ cache

end ByRequest

end LegacyImporter

/-- Two states that an importer which answers by the request does not tell apart. -/
structure ImportState.Alike (one other : ImportState ι) : Prop where
  cache : one.cache = other.cache
  options : one.receiver.options = other.receiver.options

namespace LegacyImporter

variable {importer : LegacyImporter ι} {one other : ImportState ι}

theorem serve_alike (hbyRequest : importer.AnswersByRequest) (halike : one.Alike other) (use : ImportUse) :
    (importer.serve one use).answer = (importer.serve other use).answer ∧
      (importer.serve one use).state.Alike (importer.serve other use).state := by
  obtain ⟨hcache, hoptions⟩ := halike
  cases use with
  | canonicalize cwd url =>
      obtain ⟨hanswer, hafter, hone⟩ := canonicalize_alike hbyRequest hoptions cwd url one.cache
      have hother := (canonicalize_alike hbyRequest hoptions.symm cwd url one.cache).2.2
      simp only [serve, ← hcache]
      exact ⟨congrArg ImportAnswer.url hanswer, hafter, (hone.trans hoptions).trans hother.symm⟩
  | load url => exact ⟨congrArg (fun cache => ImportAnswer.sheet (Cache.load cache url)) hcache, hcache, hoptions⟩
  | setOption name value => exact ⟨rfl, hcache, congrArg (Option.map (Bag.set · name value)) hoptions⟩

theorem answersOf_alike (hbyRequest : importer.AnswersByRequest) (halike : one.Alike other)
    (uses : List ImportUse) : importer.answersOf one uses = importer.answersOf other uses := by
  induction uses generalizing one other with
  | nil => rfl
  | cons use uses ih =>
      obtain ⟨hanswer, hafter⟩ := serve_alike hbyRequest halike use
      rw [answersOf, answersOf, hanswer, ih hafter]

/-- A request that fails leaves the cache as it was exactly if each file of the entries that were entered before the
failure was known already as the last of these has it; with no such entry that is always so. To an importer that
answers by the request it is then as if the failed request had not been made. -/
theorem failed_request_keeps_iff (importer : LegacyImporter ι) (receiver : Receiver ι) (earlier : List ImportUse)
    {cwd url : String} {failure : Failure} (hcwd : Path.IsAbsolute cwd)
    (hfailed : (importer.serve (importer.afterAll ⟨[], receiver⟩ earlier) (.canonicalize cwd url)).answer =
      .url (.error failure)) :
    let before := importer.afterAll ⟨[], receiver⟩ earlier
    let entries := importer.entriesOf before (.canonicalize cwd url)
    let after := (importer.serve before (.canonicalize cwd url)).state
    (after.cache = before.cache ↔ ∀ path, Url.toPath .posix url = .ok path → ∀ entry ∈ entries,
      ∃ last, ImportEntry.lastFor cwd entry.path entries = some last ∧
        before.cache.find? (.real (entry.url cwd)) = some (last.resolved cwd path)) ∧
    (after.cache = before.cache → importer.AnswersByRequest →
      ∀ later, importer.answersOf after later = importer.answersOf before later) := by
  intro before entries after
  constructor
  · have hnone : Assoc.Apart (· == ·) (⟨[], receiver⟩ : ImportState ι).cache := List.Pairwise.nil
    have hleads := importer.leads_canonicalize cwd url before.cache before.receiver
    have herror : (importer.canonicalize cwd url before.cache before.receiver).answer = .error failure :=
      ImportAnswer.url.inj hfailed
    rw [herror] at hleads
    exact hleads.after_eq_iff hcwd (importer.apart_afterAll hnone earlier)
  · intro hsame hbyRequest later
    have hkept := (canonicalize_alike hbyRequest (rfl : before.receiver.options = before.receiver.options) cwd url
      before.cache).2.2
    exact answersOf_alike hbyRequest ⟨hsame, hkept⟩ later

/-- An importer without a state that names an entry for a bundle, and then one in no known language. -/
def stateless : LegacyImporter Unit where
  initial := ()
  make _ := .ok ⟨(), .shared⟩
  imports request receiver :=
    (if request.path = "bundle" then .ok (.many [some ⟨"a.scss", some "x", none⟩, some ⟨"b.less", some "y", none⟩])
      else .ok (.one ⟨request.path, none, none⟩), receiver)

/-- When the bundle fails again its first entry is known already, and all stays as it is. -/
theorem failed_request_keeps_iff_again :
    let before := stateless.afterAll ⟨[], ⟨some [], ()⟩⟩ [.canonicalize "/work/project" "bundle"]
    let after := (stateless.serve before (.canonicalize "/work/project" "bundle")).state
    (∃ failure, (stateless.serve before (.canonicalize "/work/project" "bundle")).answer = .url (.error failure)) ∧
      after.cache = before.cache ∧
      ∀ later, stateless.answersOf after later = stateless.answersOf before later := by
  intro before after
  have hwork : Path.IsAbsolute "/work/project" := by decide
  have hnotok : (stateless.canonicalize "/work/project" "bundle" before.cache before.receiver).answer.isOk = false := by
    decide +kernel
  obtain ⟨failure, hfailure⟩ := Lists.exists_error_of_isOk hnotok
  have hfailed : (stateless.serve before (.canonicalize "/work/project" "bundle")).answer = .url (.error failure) :=
    congrArg ImportAnswer.url hfailure
  obtain ⟨hkeeps, hanswers⟩ := stateless.failed_request_keeps_iff ⟨some [], ()⟩
    [.canonicalize "/work/project" "bundle"] hwork hfailed
  have hentered : stateless.entriesOf before (.canonicalize "/work/project" "bundle") =
      [⟨"a.scss", some "x", none⟩] := by decide +kernel
  have hknown : before.cache.find? (.real (ImportEntry.url "/work/project" ⟨"a.scss", some "x", none⟩)) =
      some (.stylesheet ⟨"x", .scss, none⟩) := by decide +kernel
  have hlanguage : Language.ofPath "a.scss" = .ok .scss := by cbv
  have hsame : after.cache = before.cache := by
    apply hkeeps.mpr
    intro path hpath entry hentry
    rw [hentered] at hentry ⊢
    obtain rfl := List.mem_singleton.mp hentry
    refine ⟨⟨"a.scss", some "x", none⟩, by decide, ?_⟩
    rw [hknown, ImportEntry.resolved, ImportEntry.resolution, hlanguage]
    rfl
  exact ⟨⟨failure, hfailed⟩, hsame, hanswers hsame ⟨fun _ _ _ => rfl, fun _ _ => rfl⟩⟩

/-- When the bundle fails for the first time its first entry stays, and a request for that is no longer declined. -/
theorem failed_request_enters :
    let before : ImportState Unit := ⟨[], ⟨some [], ()⟩⟩
    let after := (stateless.serve before (.canonicalize "/work/project" "bundle")).state
    (stateless.serve before (.canonicalize "/work/project" "bundle")).answer =
        .url (.error (.unknownExtension "b.less")) ∧
      after.cache = [(.real "file:///work/project/a.scss", .stylesheet ⟨"x", .scss, none⟩)] ∧
      (stateless.serve before (.canonicalize "/work/project" "a.scss")).answer = .url (.ok none) ∧
      (stateless.serve after (.canonicalize "/work/project" "a.scss")).answer =
        .url (.ok (some "file:///work/project/a.scss")) := by
  intro before after
  have hfile : NamesFile "/work/project" "a.scss" "/work/project/a.scss" := ⟨by decide, "a.scss", by cbv, by decide⟩
  have hknown : after.cache.answer? (Url.ofPath .posix "/work/project" "/work/project/a.scss") =
      some (some "file:///work/project/a.scss") := by decide +kernel
  refine ⟨by cbv, by decide +kernel, by cbv, ?_⟩
  rw [stateless.serve_of_answer? hfile hknown]

end LegacyImporter

end SassBridge
