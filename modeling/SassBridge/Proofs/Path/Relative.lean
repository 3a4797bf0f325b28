import SassBridge.Proofs.Path.Normal

/-! The way from one path to another. Read from where it starts it leads to the other path: it goes up to the last
directory that both share, and down from there. -/

namespace SassBridge.Path

section Names

variable {parts : List (List Char)}

theorem filter_names_plain (hparts : ∀ p ∈ parts, IsPlain p) : parts.filter (· ≠ []) = parts := by
  rw [List.filter_eq_self]
  exact fun p hp => decide_eq_true (hparts p hp).1

theorem names_intercalate (hparts : ∀ p ∈ parts, IsPlain p) : names (['/'].intercalate parts) = parts := by
  by_cases hnil : parts = []
  · rw [hnil]
    rfl
  · rw [names, Text.split_intercalate '/' parts hnil fun p hp => (hparts p hp).2.2.2, filter_names_plain hparts]

theorem names_cons_slash (path : List Char) : names ('/' :: path) = names path := by
  rw [names, names, Text.split_separator]
  rfl

/-- The names along the normal form of a path are its parts. -/
theorem names_normalChars {path : List Char} (hroot : root path ≠ []) :
    names (normalChars path) = normalParts path := by
  have hparts := normalParts_plain hroot
  rw [normalChars_of_root hroot]
  obtain ⟨tail, rfl⟩ := root_ne_nil_iff.mp hroot
  rcases root_cons_slash tail with h | h
  · rw [h, List.singleton_append, names_cons_slash, names_intercalate hparts]
  · rw [h, List.cons_append, List.singleton_append, names_cons_slash, names_cons_slash, names_intercalate hparts]

end Names

section Joining

variable {directory path : List Char}

/-- A path that starts with no slash stands after the directory and a slash. -/
theorem joinChars_cases (hdirectory : directory ≠ []) (hpath : path.head? ≠ some '/') :
    (∃ before, directory = before ++ ['/'] ∧ joinChars directory path = before ++ '/' :: path) ∨
      directory.getLast? ≠ some '/' ∧ joinChars directory path = directory ++ '/' :: path := by
  unfold joinChars
  split
  · exact absurd rfl hpath
  split
  · next hlast => exact absurd (List.getLast?_eq_none_iff.mp hlast) hdirectory
  · next hlast =>
      obtain ⟨before, rfl⟩ := List.getLast?_eq_some_iff.mp hlast
      exact Or.inl ⟨before, rfl, by rw [List.append_assoc, List.singleton_append]⟩
  · next hslash hlast => exact Or.inr ⟨by rw [hlast]; exact fun heq => hslash (Option.some.inj heq), rfl⟩

theorem root_append (hroot : root directory ≠ []) (hpath : path.head? ≠ some '/') :
    root (directory ++ path) = root directory := by
  obtain ⟨rest, rfl⟩ := root_ne_nil_iff.mp hroot
  have hhead : ∀ after, path ≠ '/' :: after := fun after heq => hpath (by rw [heq]; rfl)
  match rest with
  | [] => cases path <;> simp_all [root]
  | [c] => cases path <;> by_cases hc : c = '/' <;> simp_all [root]
  | c :: d :: others => by_cases hc : c = '/' <;> by_cases hd : d = '/' <;> simp_all [root]

/-- A slash and more after a path that does not end with one leave the root as it is. -/
theorem root_append_slash (hroot : root directory ≠ []) (hlast : directory.getLast? ≠ some '/') :
    root (directory ++ '/' :: path) = root directory := by
  obtain ⟨rest, rfl⟩ := root_ne_nil_iff.mp hroot
  match rest with
  | [] => exact absurd rfl hlast
  | [c] => by_cases hc : c = '/' <;> simp_all [root]
  | c :: d :: others => by_cases hc : c = '/' <;> by_cases hd : d = '/' <;> simp_all [root]

theorem root_joinChars_of_head (hroot : root directory ≠ []) (hpath : path.head? ≠ some '/') :
    root (joinChars directory path) = root directory := by
  have hdirectory : directory ≠ [] := fun heq => hroot (by rw [heq]; rfl)
  rcases joinChars_cases hdirectory hpath with ⟨before, rfl, hjoin⟩ | ⟨hlast, hjoin⟩
  · rw [hjoin, ← List.singleton_append, ← List.append_assoc, root_append hroot hpath]
  · rw [hjoin, root_append_slash hroot hlast]

/-- The parts of a path are gone through after those of the directory. -/
theorem foldl_push_joinChars (hdirectory : directory ≠ []) (hpath : path.head? ≠ some '/') (rooted : Bool)
    (before : List (List Char)) :
    (Text.split '/' (joinChars directory path)).foldl (push rooted) before =
      (Text.split '/' path).foldl (push rooted) ((Text.split '/' directory).foldl (push rooted) before) := by
  rcases joinChars_cases hdirectory hpath with ⟨start, rfl, hjoin⟩ | ⟨-, hjoin⟩
  · rw [hjoin, Text.split_append, Text.split_append, List.foldl_append, List.foldl_append]
    exact congrArg _ (push_nil rooted _).symm
  · rw [hjoin, Text.split_append, List.foldl_append]

end Joining

section Steps

/-- Each step up takes the last name away. -/
theorem foldl_push_up {parts : List (List Char)} (hparts : ∀ p ∈ parts, IsPlain p) (rooted : Bool)
    (before : List (List Char)) :
    (List.replicate parts.length ['.', '.']).foldl (push rooted) (parts ++ before) = before := by
  induction parts with
  | nil => rfl
  | cons part parts ih =>
      have hdots : part ≠ ['.', '.'] := (hparts part List.mem_cons_self).2.2.1
      have hstep : push rooted (part :: (parts ++ before)) ['.', '.'] = parts ++ before := by
        simp [push, hdots]
      rw [List.length_cons, List.replicate_succ, List.foldl_cons, List.cons_append, hstep,
        ih fun p hp => hparts p (List.mem_cons_of_mem _ hp)]

theorem dropCommon_eq {α : Type} [DecidableEq α] (as bs : List α) :
    ∃ common, as = common ++ (dropCommon as bs).1 ∧ bs = common ++ (dropCommon as bs).2 := by
  fun_induction dropCommon as bs with
  | case1 as a bs ih =>
      obtain ⟨common, has, hbs⟩ := ih
      exact ⟨a :: common, congrArg _ has, congrArg _ hbs⟩
  | case2 a as b bs hne => exact ⟨[], rfl, rfl⟩
  | case3 as bs hnil => exact ⟨[], rfl, rfl⟩

theorem steps_eq_nil_iff {above below : List (List Char)} :
    List.replicate above.length ['.', '.'] ++ below = [] ↔ above = [] ∧ below = [] := by
  rw [List.append_eq_nil_iff, List.replicate_eq_nil_iff, List.length_eq_zero_iff]

variable {cwd : List Char} (hcwd : root cwd ≠ [])

include hcwd in
/-- A way goes up from the first path and then down to the second, both from the names that they share. -/
theorem relativeChars_eq (start target : List Char) :
    ∃ common above below, normalParts (joinChars cwd start) = common ++ above ∧
      normalParts (joinChars cwd target) = common ++ below ∧
      (∀ p ∈ above, IsPlain p) ∧ (∀ p ∈ below, IsPlain p) ∧
      relativeChars cwd start target =
        if above = [] ∧ below = [] then ['.']
        else ['/'].intercalate (List.replicate above.length ['.', '.'] ++ below) := by
  have hstart := normalParts_plain (root_joinChars hcwd start)
  have htarget := normalParts_plain (root_joinChars hcwd target)
  obtain ⟨common, habove, hbelow⟩ :=
    dropCommon_eq (normalParts (joinChars cwd start)) (normalParts (joinChars cwd target))
  rw [habove, List.forall_mem_append] at hstart
  rw [hbelow, List.forall_mem_append] at htarget
  refine ⟨common, _, _, habove, hbelow, hstart.2, htarget.2, ?_⟩
  rw [relativeChars, absoluteChars, absoluteChars, names_normalChars (root_joinChars hcwd start),
    names_normalChars (root_joinChars hcwd target)]
  simp only [List.map_const']
  split
  · next hnil => rw [if_pos (steps_eq_nil_iff.mp hnil)]
  · next hne => rw [if_neg fun hnone => hne (steps_eq_nil_iff.mpr hnone)]

include hcwd in
theorem head_relativeChars (start target : List Char) : (relativeChars cwd start target).head? ≠ some '/' := by
  obtain ⟨common, above, below, -, -, -, hbelow, hway⟩ := relativeChars_eq hcwd start target
  rw [hway]
  split
  · simp
  cases above with
  | nil => exact head_intercalate_plain hbelow
  | cons name above =>
      rw [List.length_cons, List.replicate_succ, List.cons_append]
      cases List.replicate above.length ['.', '.'] ++ below <;> simp

include hcwd in
/-- The parts of a way take the names of the first path away down to the shared ones, and bind those of the second. -/
theorem foldl_push_relativeChars (start target : List Char) (rooted : Bool) :
    (Text.split '/' (relativeChars cwd start target)).foldl (push rooted) (normalParts (joinChars cwd start)).reverse =
      (normalParts (joinChars cwd target)).reverse := by
  obtain ⟨common, above, below, hstart, htarget, habove, hbelow, hway⟩ := relativeChars_eq hcwd start target
  rw [hway, hstart, htarget]
  by_cases hnone : above = [] ∧ below = []
  · rw [if_pos hnone, hnone.1, hnone.2]
    simp [Text.split, push]
  · have hslash : ∀ p ∈ List.replicate above.length ['.', '.'] ++ below, '/' ∉ p := by
      refine List.forall_mem_append.mpr ⟨fun p hp => ?_, fun p hp => (hbelow p hp).2.2.2⟩
      rw [List.eq_of_mem_replicate hp]
      decide
    have hreversed : ∀ p ∈ above.reverse, IsPlain p := fun p hp => habove p (List.mem_reverse.mp hp)
    -- the parts so far are in reverse, so the names to be taken away come first
    rw [if_neg hnone, Text.split_intercalate '/' _ (mt steps_eq_nil_iff.mp hnone) hslash, List.foldl_append,
      List.reverse_append, List.reverse_append, ← List.length_reverse, foldl_push_up hreversed,
      foldl_push_plain hbelow]

end Steps

section Way

variable {cwd : List Char}

/-- Read from where it starts, a way leads to where it ends. -/
theorem normalChars_join_relativeChars (hcwd : root cwd ≠ []) {start target : List Char}
    (hroot : root (joinChars cwd start) = root (joinChars cwd target)) :
    normalChars (joinChars (joinChars cwd start) (relativeChars cwd start target)) = absoluteChars cwd target := by
  have hstart := root_joinChars hcwd start
  have hhead := head_relativeChars hcwd start target
  have hjoin : root (joinChars (joinChars cwd start) (relativeChars cwd start target)) = root (joinChars cwd start) :=
    root_joinChars_of_head hstart hhead
  have hparts : normalParts (joinChars (joinChars cwd start) (relativeChars cwd start target)) =
      normalParts (joinChars cwd target) := by
    have hne : joinChars cwd start ≠ [] := fun heq => hstart (by rw [heq]; rfl)
    have hsteps := foldl_push_relativeChars hcwd start target (root (joinChars cwd start) ≠ [])
    rw [normalParts, List.reverse_reverse] at hsteps
    rw [normalParts, hjoin, foldl_push_joinChars hne hhead, hsteps, List.reverse_reverse]
  rw [absoluteChars, normalChars_of_root (by rwa [hjoin]), hjoin, hparts, hroot,
    normalChars_of_root (root_joinChars hcwd target)]

/-- The way from the working directory to a path below the same root is found, starts with no slash and leads back to
the path. -/
theorem relative?_absolute {cwd path : String} (hcwd : root cwd.toList = ['/'])
    (hpath : root (absolute cwd path).toList = ['/']) :
    ∃ way, relative? cwd cwd (absolute cwd path) = some way ∧ way.toList.head? ≠ some '/' ∧
      normalize (join cwd way) = absolute cwd path := by
  have hrooted : root cwd.toList ≠ [] := by simp [hcwd]
  have hne : absolute cwd path ≠ "" := by
    intro heq
    rw [heq] at hpath
    cases hpath
  refine ⟨_, if_neg hne, ?_, ?_⟩
  · rw [String.toList_ofList]
    exact head_relativeChars hrooted _ _
  · have hself : joinChars cwd.toList cwd.toList = cwd.toList := joinChars_of_root hrooted _
    have htarget : joinChars cwd.toList (absolute cwd path).toList = (absolute cwd path).toList :=
      joinChars_of_root (by simp [hpath]) _
    have hway := @normalChars_join_relativeChars _ hrooted cwd.toList (absolute cwd path).toList
      (by rw [hself, htarget, hcwd, hpath])
    rw [hself] at hway
    have habsolute : absoluteChars cwd.toList (absolute cwd path).toList = (absolute cwd path).toList := by
      rw [absolute, String.toList_ofList, absoluteChars_absoluteChars hrooted]
    rw [normalize, join, String.toList_ofList, String.toList_ofList, hway, habsolute, String.ofList_toList]

example : relative? "/work/project" "/work/project" "/work/other/a.scss" = some "../other/a.scss" := by decide

end Way

end SassBridge.Path
