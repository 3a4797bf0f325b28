import SassBridge.Proofs.Path.Normal
import SassBridge.Proofs.Text.Percent
import SassBridge.Url.File

/-! Paths written as `file:` URLs and read back. An escaped path holds nothing that the URL reader acts on, so it
comes back as the absolute path that was written. -/

namespace SassBridge.Url

theorem withSlash_of_root {path : List Char} (hroot : Path.root path ≠ []) : withSlash path = path := by
  obtain ⟨rest, rfl⟩ := Path.root_ne_nil_iff.mp hroot
  rfl

theorem ofPathChars_posix {cwd : List Char} (hcwd : Path.root cwd ≠ []) (path : List Char) :
    ofPathChars .posix cwd path =
      fileStart ++ Percent.escape Percent.safeInPath (Path.absoluteChars cwd path) := by
  rw [ofPathChars, absoluteForUrl, withSlash_of_root (Path.root_absoluteChars hcwd path)]

/-- Printable ASCII without quotes, backslashes and what ends the path of a URL. -/
theorem char_of_mem_ofPathChars {platform : Platform} {cwd path : List Char} {c : Char}
    (hc : c ∈ ofPathChars platform cwd path) :
    0x20 < c.toNat ∧ c.toNat < 0x7F ∧ c ∉ ['"', '\\', '#', '?'] := by
  rcases List.mem_append.mp hc with hstart | hescape
  · have hall : fileStart.all (fun d =>
        decide (0x20 < d.toNat ∧ d.toNat < 0x7F ∧ d ∉ ['"', '\\', '#', '?'])) = true := by decide
    exact of_decide_eq_true (List.all_eq_true.mp hall c hstart)
  · exact Percent.char_of_mem_escape hescape

theorem clean_ofPathChars (platform : Platform) (cwd path : List Char) :
    clean (ofPathChars platform cwd path) = ofPathChars platform cwd path := by
  have hblank : (ofPathChars platform cwd path).dropWhile isLeadingBlank = ofPathChars platform cwd path := rfl
  rw [clean, hblank, List.filter_eq_self]
  intro c hc
  have hprintable := (char_of_mem_ofPathChars hc).1
  have hnone : ∀ d ∈ ['\t', '\n', '\r'], c ≠ d := by
    rintro d hd rfl
    simp only [List.mem_cons, List.not_mem_nil, or_false] at hd
    rcases hd with rfl | rfl | rfl <;> exact absurd hprintable (by decide)
  simp [isDropped, hnone]

theorem dropScheme_file (rest : List Char) : dropScheme (fileStart ++ rest) = '/' :: '/' :: rest := by
  have hstart : fileStart = ['f', 'i', 'l', 'e', ':', '/', '/'] := rfl
  have hscheme : Text.before ':' (fileStart ++ rest) = ['f', 'i', 'l', 'e'] := by rw [hstart]; rfl
  have hafter : Text.after ':' (fileStart ++ rest) = '/' :: '/' :: rest := by rw [hstart]; rfl
  have hcolon : ':' ∈ fileStart ++ rest := List.mem_append_left _ (by decide)
  rw [dropScheme, hscheme, hafter, if_pos ⟨hcolon, by decide, by decide⟩]

/-- An authority may be empty. -/
theorem dropAuthority_slash (rest : List Char) : dropAuthority ('/' :: '/' :: '/' :: rest) = .ok ('/' :: rest) := rfl

theorem exists_withSlash_eq (path : List Char) : ∃ rest, withSlash path = '/' :: rest := by
  unfold withSlash
  split <;> exact ⟨_, rfl⟩

/-- The path of a written URL is the escaped text, on either platform. -/
theorem pathChars_ofPathChars (platform : Platform) (cwd path : List Char) :
    pathChars (ofPathChars platform cwd path) =
      .ok (Percent.escape Percent.safeInPath (withSlash (absoluteForUrl platform cwd path))) := by
  obtain ⟨rest, hrest⟩ := exists_withSlash_eq (absoluteForUrl platform cwd path)
  have hescape : Percent.escape Percent.safeInPath ('/' :: rest) = '/' :: Percent.escape Percent.safeInPath rest := rfl
  have hmark : ∀ mark ∈ ['"', '\\', '#', '?'], mark ∉ Percent.escape Percent.safeInPath ('/' :: rest) :=
    fun mark hmark hmem => (Percent.char_of_mem_escape hmem).2.2 hmark
  rw [pathChars, clean_ofPathChars, ofPathChars, hrest, dropScheme_file, hescape, dropAuthority_slash, ← hescape]
  change Except.ok _ = _
  rw [Text.before_of_not_mem (hmark '#' (by decide)), Text.before_of_not_mem (hmark '?' (by decide))]

theorem toPathChars_ofPathChars {cwd : List Char} (hcwd : Path.root cwd ≠ []) (path : List Char) :
    toPathChars .posix (ofPathChars .posix cwd path) = .ok (Path.absoluteChars cwd path) := by
  rw [toPathChars, pathChars_ofPathChars, absoluteForUrl, withSlash_of_root (Path.root_absoluteChars hcwd path)]
  exact congrArg Except.ok (Percent.unescape_escape Percent.isSafeSet_safeInPath _)

/-- Reading undoes writing up to the absolute form. -/
theorem toPath_ofPath {cwd : String} (hcwd : Path.IsAbsolute cwd) (path : String) :
    toPath .posix (ofPath .posix cwd path) = .ok (Path.absolute cwd path) := by
  rw [toPath, ofPath, String.toList_ofList, toPathChars_ofPathChars hcwd]
  rfl

/-- The URL of an absolute form is that of the path, whatever directory it is read from now. -/
theorem ofPath_absolute {cwd directory : String} (hcwd : Path.IsAbsolute cwd)
    (hdirectory : Path.IsAbsolute directory) (path : String) :
    ofPath .posix directory (Path.absolute cwd path) = ofPath .posix cwd path := by
  rw [ofPath, ofPath, ofPathChars_posix hdirectory, ofPathChars_posix hcwd, Path.absolute,
    String.toList_ofList, Path.absoluteChars_absoluteChars hcwd]

/-- Two paths have one URL exactly if they have one absolute form. -/
theorem ofPath_eq_iff {cwd directory : String} (hcwd : Path.IsAbsolute cwd)
    (hdirectory : Path.IsAbsolute directory) (path other : String) :
    ofPath .posix cwd path = ofPath .posix directory other ↔
      Path.absolute cwd path = Path.absolute directory other := by
  constructor
  · intro hurl
    have hread := toPath_ofPath hcwd path
    rw [hurl, toPath_ofPath hdirectory other] at hread
    exact (Except.ok.inj hread).symm
  · intro hpath
    rw [← ofPath_absolute hcwd hdirectory, hpath, ofPath_absolute hdirectory hdirectory]

/-- Every path comes back from its URL in absolute form, so that URLs are equal exactly where the absolute forms
are, and every URL that was written from a path is written again from the path that it names. The second
directory may be the first: what a URL means does not depend on it. -/
theorem file_url_round_trip {cwd directory : String} (hcwd : Path.IsAbsolute cwd)
    (hdirectory : Path.IsAbsolute directory) :
    (∀ path, toPath .posix (ofPath .posix cwd path) = .ok (Path.absolute cwd path)) ∧
    (∀ path other, ofPath .posix cwd path = ofPath .posix directory other ↔
      Path.absolute cwd path = Path.absolute directory other) ∧
    ∀ url, (∃ path, url = ofPath .posix cwd path) →
      (toPath .posix url).map (ofPath .posix directory) = .ok url := by
  refine ⟨toPath_ofPath hcwd, ofPath_eq_iff hcwd hdirectory, ?_⟩
  rintro url ⟨path, rfl⟩
  rw [toPath_ofPath hcwd, ← ofPath_absolute hcwd hdirectory path]
  rfl

theorem file_url_round_trip_marks :
    Path.IsAbsolute "/work/project" ∧ Path.IsAbsolute "//host" ∧
    toPath .posix (ofPath .posix "/work/project" "..//a?b#c%20;\n/./@ж[:/x/..") = .ok "/work/a?b#c%20;\n/@ж[:" ∧
    (toPath .posix "file:////host/%D0%B6").map (ofPath .posix "/work/project") = .ok "file:////host/%D0%B6" := by
  have hwork : Path.IsAbsolute "/work/project" := by decide
  have hhost : Path.IsAbsolute "//host" := by decide
  refine ⟨hwork, hhost, ?_, ?_⟩
  · rw [(file_url_round_trip hwork hhost).1]
    exact congrArg Except.ok (by decide)
  · exact (file_url_round_trip hhost hwork).2.2 _ ⟨"ж", by decide⟩

end SassBridge.Url
