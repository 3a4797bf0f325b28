import SassBridge.Proofs.Url.RoundTrip

/-! Windows paths written as `file:` URLs and read back. A slash is put in front of every path that has none, and
taken away again in front of a drive letter only: so it depends on how the absolute form starts whether it comes
back. Its slashes come back forward. -/

namespace SassBridge.Path.Windows

variable {path cwd piece part : List Char} {parts pieces : List (List Char)} {rooted : Bool} {c separator : Char}

theorem slash_not_mem_backslashed : '/' ∉ backslashed path := by
  rw [backslashed, List.mem_map]
  rintro ⟨c, -, hc⟩
  split at hc
  · exact absurd hc (by decide)
  · next hne => exact hne hc

/-- Parts are only taken up as they are. -/
theorem mem_push (hpart : part ∈ push rooted parts piece) : part ∈ parts ∨ part = piece := by
  unfold push at hpart
  split at hpart
  · exact .inl hpart
  · split at hpart
    · cases parts with
      | nil =>
          cases rooted
          · exact .inr (List.mem_singleton.mp hpart)
          · cases hpart
      | cons last rest =>
          simp only at hpart
          split at hpart
          · exact (List.mem_cons.mp hpart).symm
          · exact .inl (List.mem_cons_of_mem _ hpart)
    · exact (List.mem_cons.mp hpart).symm

theorem mem_foldl_push (hpart : part ∈ pieces.foldl (push rooted) parts) : part ∈ parts ∨ part ∈ pieces := by
  induction pieces generalizing parts with
  | nil => exact .inl hpart
  | cons piece pieces ih =>
      rw [List.foldl_cons] at hpart
      rcases ih hpart with hpushed | htail
      · rcases mem_push hpushed with hold | rfl
        · exact .inl hold
        · exact .inr List.mem_cons_self
      · exact .inr (List.mem_cons_of_mem _ htail)

/-- The normal form has no forward slash. -/
theorem slash_not_mem_normalize (path : List Char) : '/' ∉ normalize path := by
  have hpath : '/' ∉ backslashed path := slash_not_mem_backslashed
  obtain ⟨drive, rest, hsplit⟩ : ∃ drive rest, splitDrive (backslashed path) = (drive, rest) := ⟨_, _, rfl⟩
  have happend : drive ++ rest = backslashed path := by
    rw [splitDrive, List.splitAt_eq, Prod.mk.injEq] at hsplit
    rw [← hsplit.1, ← hsplit.2, List.take_append_drop]
  rw [← happend, List.mem_append, not_or] at hpath
  have hstart : '/' ∉ if startsWithSeparator rest then drive ++ ['\\'] else drive := by
    split
    · simpa using hpath.1
    · exact hpath.1
  rw [normalize, hsplit]
  simp only
  generalize hparts : (Text.split '\\' rest).foldl (push _) [] = parts
  have hpieces : '/' ∉ ['\\'].intercalate parts.reverse := by
    intro hslash
    rcases Text.mem_intercalate hslash with hback | ⟨part, hpart, hmem⟩
    · exact absurd hback (by decide)
    · rw [List.mem_reverse, ← hparts] at hpart
      rcases mem_foldl_push hpart with hnone | hpiece
      · cases hnone
      · exact hpath.2 (Text.mem_of_mem_split hpiece hmem)
  split
  · decide
  · rw [List.mem_append, not_or]
    exact ⟨hstart, hpieces⟩

theorem slash_not_mem_absolute (cwd path : List Char) : '/' ∉ absolute cwd path :=
  slash_not_mem_normalize _

end SassBridge.Path.Windows

namespace SassBridge.Url

open Path.Windows

/-- The forward slash for a backslash. -/
def forward (c : Char) : Char :=
  if c = '\\' then '/' else c

/-- A path with forward slashes for its backslashes. -/
def slashed (path : List Char) : List Char :=
  path.map forward

/-- Whether a path starts with a drive letter of ASCII and a colon. -/
def StartsWithDrive (path : List Char) : Prop :=
  ∃ letter rest, path = letter :: ':' :: rest ∧ isSchemeStart letter = true

/-- Whether a path starts with a backslash that no drive letter with its colon follows. -/
def StartsWithRoot (path : List Char) : Prop :=
  ∃ rest, path = '\\' :: rest ∧ ¬ StartsWithDrive rest

variable {path rest : List Char} {c d : Char}

theorem eq_of_forward_eq (hc : forward c = d) (hd : d ≠ '/') : c = d := by
  rw [forward] at hc
  split at hc
  · exact absurd hc.symm hd
  · exact hc

theorem startsWithDrive_slashed_iff : StartsWithDrive (slashed path) ↔ StartsWithDrive path := by
  constructor
  · rintro ⟨letter, rest, hslashed, hletter⟩
    obtain ⟨c, path, rfl, hc, hpath⟩ := List.map_eq_cons_iff.mp hslashed
    obtain ⟨colon, tail, rfl, hcolon, -⟩ := List.map_eq_cons_iff.mp hpath
    have hne : letter ≠ '/' := by
      rintro rfl
      exact absurd hletter (by decide)
    rw [eq_of_forward_eq hc hne, eq_of_forward_eq hcolon (by decide)]
    exact ⟨letter, tail, rfl, hletter⟩
  · rintro ⟨letter, rest, rfl, hletter⟩
    have hne : letter ≠ '\\' := by
      rintro rfl
      exact absurd hletter (by decide)
    exact ⟨letter, slashed rest, congrArg (· :: _) (if_neg hne), hletter⟩

/-- A backslash is no drive letter. -/
theorem not_startsWithDrive_backslash : ¬ StartsWithDrive ('\\' :: rest) := by
  rintro ⟨letter, tail, hpath, hletter⟩
  obtain ⟨rfl, -⟩ := List.cons_eq_cons.mp hpath
  exact absurd hletter (by decide)

theorem startsWithRoot_backslash_iff : StartsWithRoot ('\\' :: rest) ↔ ¬ StartsWithDrive rest := by
  constructor
  · rintro ⟨tail, hpath, htail⟩
    obtain ⟨-, rfl⟩ := List.cons_eq_cons.mp hpath
    exact htail
  · exact fun hrest => ⟨rest, rfl, hrest⟩

theorem withSlash_of_ne (hc : c ≠ '/') : withSlash (c :: rest) = '/' :: c :: rest := by
  unfold withSlash
  split
  · next htext => exact absurd (List.cons_eq_cons.mp htext).1 hc
  · rfl

theorem dropDriveSlash_of_drive (hdrive : StartsWithDrive path) : dropDriveSlash ('/' :: path) = path := by
  obtain ⟨letter, rest, rfl, hletter⟩ := hdrive
  rw [dropDriveSlash, if_pos hletter]

theorem dropDriveSlash_of_no_drive (hdrive : ¬ StartsWithDrive path) : dropDriveSlash ('/' :: path) = '/' :: path := by
  unfold dropDriveSlash
  split
  · next letter rest hpath =>
    obtain ⟨-, rfl⟩ := List.cons_eq_cons.mp hpath
    exact if_neg fun hletter => hdrive ⟨letter, rest, rfl, hletter⟩
  · rfl

theorem dropDriveSlash_eq_tail_iff : dropDriveSlash ('/' :: path) = path ↔ StartsWithDrive path := by
  by_cases hdrive : StartsWithDrive path
  · exact iff_of_true (dropDriveSlash_of_drive hdrive) hdrive
  · rw [dropDriveSlash_of_no_drive hdrive]
    exact iff_of_false (List.cons_ne_self _ _) hdrive

theorem dropDriveSlash_eq_self_iff : dropDriveSlash ('/' :: path) = '/' :: path ↔ ¬ StartsWithDrive path := by
  by_cases hdrive : StartsWithDrive path
  · rw [dropDriveSlash_of_drive hdrive]
    exact iff_of_false (List.cons_ne_self _ _).symm (not_not_intro hdrive)
  · exact iff_of_true (dropDriveSlash_of_no_drive hdrive) hdrive

/-- Of the slash that is put in front of a path with backslashes only, nothing is left exactly if the path starts with
a drive; a path that starts with a slash of its own keeps it exactly if no drive follows. -/
theorem dropDriveSlash_withSlash_eq_iff (hslash : '/' ∉ path) :
    dropDriveSlash (withSlash (slashed path)) = slashed path ↔ StartsWithDrive path ∨ StartsWithRoot path := by
  cases path with
  | nil =>
      refine iff_of_false (List.cons_ne_nil _ _) ?_
      rintro (⟨_, _, hnil, _⟩ | ⟨_, hnil, _⟩) <;> cases hnil
  | cons c rest =>
      by_cases hc : c = '\\'
      · subst hc
        have hrooted : slashed ('\\' :: rest) = '/' :: slashed rest := rfl
        rw [or_iff_right not_startsWithDrive_backslash, startsWithRoot_backslash_iff, hrooted, withSlash,
          dropDriveSlash_eq_self_iff, startsWithDrive_slashed_iff]
      · have hne : forward c ≠ '/' := by
          rw [forward, if_neg hc]
          rintro rfl
          exact hslash List.mem_cons_self
        have hroot : ¬ StartsWithRoot (c :: rest) := fun ⟨_, hpath, _⟩ => hc (List.cons_eq_cons.mp hpath).1
        rw [or_iff_left hroot, ← startsWithDrive_slashed_iff, ← dropDriveSlash_eq_tail_iff]
        exact Iff.of_eq (congrArg (dropDriveSlash · = _) (withSlash_of_ne hne))

theorem toPathChars_ofPathChars_windows (cwd path : List Char) :
    toPathChars .windows (ofPathChars .windows cwd path) =
      .ok (dropDriveSlash (withSlash (slashed (absolute cwd path)))) := by
  rw [toPathChars, pathChars_ofPathChars]
  exact congrArg (Except.ok ∘ dropDriveSlash) (Percent.unescape_escape Percent.isSafeSet_safeInPath _)

/-- On Windows a path comes back from its URL as its absolute form, with forward slashes for its backslashes, if that
form starts with a drive letter and a colon, or with a backslash and no drive letter with its colon right behind it;
and it does not come back otherwise. -/
theorem windows_url_round_trip_iff (cwd path : String) :
    toPath .windows (ofPath .windows cwd path) = .ok (.ofList (slashed (absolute cwd.toList path.toList))) ↔
      StartsWithDrive (absolute cwd.toList path.toList) ∨ StartsWithRoot (absolute cwd.toList path.toList) := by
  rw [toPath, ofPath, String.toList_ofList, toPathChars_ofPathChars_windows,
    ← dropDriveSlash_withSlash_eq_iff (slash_not_mem_absolute _ _)]
  change Except.ok _ = Except.ok _ ↔ _
  rw [Except.ok.injEq, String.ofList_inj]

/-- A network path. -/
example : toPath .windows (ofPath .windows "C:\\work" "\\\\host\\share/./ж?#%20;\n:") =
    .ok "//host/share/ж?#%20;\n:" := by
  rw [toPath, ofPath, String.toList_ofList, toPathChars_ofPathChars_windows]
  rfl

end SassBridge.Url
