import SassBridge.Import.Cache
import SassBridge.Proofs.Assoc
import SassBridge.Proofs.Text.Split
import SassBridge.Proofs.Url.RoundTrip

/-! What is found in the cache after the entries of an answer were put in, and what the synthetic stylesheet
that lists them says. -/

namespace SassBridge

theorem Cache.find?_insert_self (cache : Cache) (url : CanonicalUrl) (resolution : Resolution) :
    (cache.insert url resolution).find? url = some resolution :=
  Assoc.find?_insert_self (beq_self_eq_true url) resolution cache

theorem Cache.find?_insert_of_ne (cache : Cache) {url other : CanonicalUrl} (hne : url ≠ other)
    (resolution : Resolution) : (cache.insert url resolution).find? other = cache.find? other := by
  refine Assoc.find?_insert_of_apart (beq_eq_false_iff_ne.mpr hne) (fun k hk => ?_) resolution cache
  rw [eq_of_beq hk]
  exact beq_eq_false_iff_ne.mpr hne

theorem Json.charText_ascii_plain {c : Char} (hlow : 0x20 < c.toNat) (hhigh : c.toNat < 0x7F)
    (hplain : c ∉ ['"', '\\']) : charText true c = [c] := by
  have hne : ∀ d : Char, d.toNat ≤ 0x20 → c ≠ d := by
    rintro d hd rfl
    omega
  simp only [List.mem_cons, List.not_mem_nil, or_false] at hplain
  rw [charText, if_neg hplain, if_neg (hne _ (by decide)), if_neg (hne _ (by decide)),
    if_neg (hne _ (by decide)), if_neg (hne _ (by decide)), if_neg (hne _ (by decide)), if_neg (by omega)]

theorem Json.quoteAscii_plain {text : String}
    (htext : ∀ c ∈ text.toList, 0x20 < c.toNat ∧ c.toNat < 0x7F ∧ c ∉ ['"', '\\']) :
    quoteAscii text = "\"" ++ text ++ "\"" := by
  have hflat : ∀ chars : List Char, (∀ c ∈ chars, 0x20 < c.toNat ∧ c.toNat < 0x7F ∧ c ∉ ['"', '\\']) →
      chars.flatMap (charText true) = chars := by
    intro chars hchars
    induction chars with
    | nil => rfl
    | cons c chars ih =>
        obtain ⟨hlow, hhigh, hplain⟩ := hchars c List.mem_cons_self
        rw [List.flatMap_cons, charText_ascii_plain hlow hhigh hplain,
          ih fun d hd => hchars d (List.mem_cons_of_mem _ hd), List.singleton_append]
  apply String.toList_inj.mp
  rw [quoteAscii, hflat _ htext]
  simp

namespace CanonicalUrl

theorem ofWire_synthetic (fileUrl : String) : ofWire (synthetic fileUrl).wire = synthetic fileUrl := by
  have hstart : Text.dropStart? scheme.toList (scheme ++ fileUrl).toList = some fileUrl.toList := by
    rw [String.toList_append, Text.dropStart?_append]
  rw [ofWire, wire, hstart]
  exact congrArg synthetic (String.ofList_toList)

/-- A URL that was written for a path is not one of the synthetic scheme. -/
theorem ofWire_ofPath (cwd path : String) :
    ofWire (Url.ofPath .posix cwd path) = real (Url.ofPath .posix cwd path) := by
  have hstart : Text.dropStart? scheme.toList (Url.ofPath .posix cwd path).toList = none := by
    rw [Url.ofPath, String.toList_ofList]
    rfl
  rw [ofWire, hstart]

theorem synthetic_ne_real (fileUrl other : String) : synthetic fileUrl ≠ real other :=
  fun heq => CanonicalUrl.noConfusion heq

end CanonicalUrl

namespace ImportEntry

variable (cwd : String) (entry : ImportEntry)

/-- What an entry stands for, where that can be told. -/
def resolved (requested : String) : Resolution :=
  match entry.resolution cwd requested with
  | .ok resolution => resolution
  | .error _ => .declined

theorem resolution_of_none (hsource : entry.source = none) (requested : String) :
    entry.resolution cwd requested = .ok .declined := by
  rw [resolution, hsource]

theorem resolution_of_source {source : String} {language : Language} (hsource : entry.source = some source)
    (hlanguage : Language.ofPath? entry.path = some language) (requested : String) :
    entry.resolution cwd requested = .ok (.stylesheet ⟨source, language, entry.sourceMapUrl cwd requested⟩) := by
  rw [resolution, hsource, Language.ofPath, hlanguage]
  rfl

theorem resolution_eq_resolved (hlanguage : entry.source.isSome → (Language.ofPath? entry.path).isSome)
    (requested : String) : entry.resolution cwd requested = .ok (entry.resolved cwd requested) := by
  rw [resolved]
  cases hsource : entry.source with
  | none => rw [entry.resolution_of_none cwd hsource]
  | some source =>
      obtain ⟨language, hfound⟩ := Option.isSome_iff_exists.mp (hlanguage (by rw [hsource]; rfl))
      rw [entry.resolution_of_source cwd hsource hfound]

theorem char_of_mem_url {c : Char} (hc : c ∈ (entry.url cwd).toList) :
    0x20 < c.toNat ∧ c.toNat < 0x7F ∧ c ∉ ['"', '\\'] := by
  rw [url, Url.ofPath, String.toList_ofList] at hc
  obtain ⟨hlow, hhigh, hmarks⟩ := Url.char_of_mem_ofPathChars hc
  simp only [List.mem_cons, not_or] at hmarks ⊢
  exact ⟨hlow, hhigh, hmarks.1, hmarks.2.1, List.not_mem_nil⟩

/-- An entry without a source stands for nothing. -/
theorem stylesheet?_of_none (hsource : entry.source = none) (requested : String) :
    (entry.resolved cwd requested).stylesheet? = none := by
  rw [resolved, entry.resolution_of_none cwd hsource]
  rfl

/-- An entry with a source stands for it, in the language of its path. -/
theorem stylesheet?_of_source (hlanguage : entry.source.isSome → (Language.ofPath? entry.path).isSome)
    {source : String} (hsource : entry.source = some source) (requested : String) :
    ∃ language, Language.ofPath? entry.path = some language ∧
      (entry.resolved cwd requested).stylesheet? =
        some ⟨source, language, entry.sourceMapUrl cwd requested⟩ := by
  obtain ⟨language, hfound⟩ := Option.isSome_iff_exists.mp (hlanguage (by rw [hsource]; rfl))
  refine ⟨language, hfound, ?_⟩
  rw [resolved, entry.resolution_of_source cwd hsource hfound]
  rfl

/-- Quoting leaves the URL of an entry as it is. -/
theorem statement_eq : entry.statement cwd = "@import \"" ++ entry.url cwd ++ "\";" := by
  rw [statement, Json.quoteAscii_plain fun c hc => entry.char_of_mem_url cwd hc]
  simp only [String.append_assoc]
  rfl

theorem newline_not_mem_statement : '\n' ∉ (entry.statement cwd).toList := by
  rw [statement_eq]
  intro hmem
  simp only [String.toList_append, List.mem_append] at hmem
  rcases hmem with (hmem | hmem) | hmem
  · exact absurd hmem (by decide)
  · exact absurd (entry.char_of_mem_url cwd hmem).1 (by decide)
  · exact absurd hmem (by decide)

end ImportEntry

/-- The synthetic stylesheet has one line for each entry, in order, and none for no entry. -/
theorem Stylesheet.contents_importing (cwd : String) (entries : List ImportEntry) :
    (entries = [] → (importing cwd (entries.map some)).contents = "") ∧
    (entries ≠ [] → Text.split '\n' (importing cwd (entries.map some)).contents.toList =
      entries.map fun entry => (entry.statement cwd).toList) := by
  have hsome : (entries.map some).filterMap id = entries := by simp
  rw [importing, hsome]
  refine ⟨?_, fun hne => ?_⟩
  · rintro rfl
    rfl
  · rw [String.toList_intercalate, List.map_map]
    refine Text.split_intercalate '\n' _ (by simpa using hne) ?_
    intro line hline
    obtain ⟨entry, -, rfl⟩ := List.mem_map.mp hline
    exact entry.newline_not_mem_statement cwd

namespace Cache

variable {cwd requested : String}

theorem load_of_find? {cache : Cache} {path : String} {resolution : Resolution}
    (hfound : cache.find? (.real (Url.ofPath .posix cwd path)) = some resolution) :
    cache.load (Url.ofPath .posix cwd path) = resolution.stylesheet? := by
  rw [load, CanonicalUrl.ofWire_ofPath, hfound, Option.bind_some]

theorem load_synthetic (cache : Cache) (fileUrl : String) :
    cache.load (CanonicalUrl.synthetic fileUrl).wire =
      (cache.find? (.synthetic fileUrl)).bind Resolution.stylesheet? := by
  rw [load, CanonicalUrl.ofWire_synthetic]

theorem register_some {cache : Cache} {entry : ImportEntry} {resolution : Resolution}
    (hresolution : entry.resolution cwd requested = .ok resolution) :
    cache.register cwd requested (some entry) = .ok (cache.insert (.real (entry.url cwd)) resolution) := by
  rw [register, hresolution]
  rfl

/-- The cache after entries were put in one after another. -/
def entered (cwd requested : String) (cache : Cache) (entries : List ImportEntry) : Cache :=
  entries.foldl (fun cache entry => cache.insert (.real (entry.url cwd)) (entry.resolved cwd requested)) cache

theorem registerAll_ok {entries : List ImportEntry}
    (hlanguage : ∀ entry ∈ entries, entry.source.isSome → (Language.ofPath? entry.path).isSome)
    (cache : Cache) :
    registerAll cwd requested (entries.map some) cache = (.ok (), cache.entered cwd requested entries) := by
  induction entries generalizing cache with
  | nil => rfl
  | cons entry entries ih =>
      have hentry := entry.resolution_eq_resolved cwd (hlanguage entry List.mem_cons_self) requested
      rw [List.map_cons, registerAll, register_some hentry]
      exact ih (fun other hother => hlanguage other (List.mem_cons_of_mem _ hother)) _

/-- What is known of a URL that no entry has stays known. -/
theorem find?_entered_of_ne {entries : List ImportEntry} {url : CanonicalUrl}
    (hne : ∀ entry ∈ entries, .real (entry.url cwd) ≠ url) (cache : Cache) :
    (cache.entered cwd requested entries).find? url = cache.find? url := by
  induction entries generalizing cache with
  | nil => rfl
  | cons entry entries ih =>
      rw [entered, List.foldl_cons, ← entered, ih fun other hother => hne other (List.mem_cons_of_mem _ hother),
        find?_insert_of_ne cache (hne entry List.mem_cons_self)]

/-- The last entry with a URL decides what the URL stands for. -/
theorem find?_entered_last {first rest : List ImportEntry} {last : ImportEntry}
    (hrest : ∀ entry ∈ rest, entry.url cwd ≠ last.url cwd) (cache : Cache) :
    (cache.entered cwd requested (first ++ last :: rest)).find? (.real (last.url cwd)) =
      some (last.resolved cwd requested) := by
  rw [entered, List.foldl_append, List.foldl_cons, ← entered, ← entered, find?_entered_of_ne, find?_insert_self]
  exact fun entry hentry heq => hrest entry hentry (CanonicalUrl.real.inj heq)

end Cache

end SassBridge
