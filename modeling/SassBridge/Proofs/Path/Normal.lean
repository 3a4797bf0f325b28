import SassBridge.Path.Basic
import SassBridge.Proofs.Text.Split

/-! The normal form of a path that has a root: the root and then plain names. It is a normal form in that
normalizing it again, from whatever directory, changes nothing. -/

namespace SassBridge.Path

/-- A path with a root does not depend on the working directory. -/
def IsAbsolute (path : String) : Prop :=
  root path.toList ≠ []

instance (path : String) : Decidable (IsAbsolute path) :=
  inferInstanceAs (Decidable (root path.toList ≠ []))

/-- A name that stands for one step down. -/
def IsPlain (part : List Char) : Prop :=
  part ≠ [] ∧ part ≠ ['.'] ∧ part ≠ ['.', '.'] ∧ '/' ∉ part

theorem push_plain {rooted : Bool} {parts : List (List Char)} {part : List Char} (hpart : IsPlain part) :
    push rooted parts part = part :: parts := by
  obtain ⟨hempty, hdot, hdots, -⟩ := hpart
  unfold push
  rw [if_neg (by simp [hempty, hdot]), if_neg hdots]

/-- Below a root a part goes down or up and never beyond it. -/
theorem push_rooted {parts : List (List Char)} {part : List Char} (hparts : ∀ p ∈ parts, IsPlain p)
    (hpart : '/' ∉ part) : ∀ p ∈ push true parts part, IsPlain p := by
  unfold push
  split
  · exact hparts
  next hneither =>
  rw [not_or] at hneither
  split
  · cases parts with
    | nil => simp
    | cons last rest =>
        have hlast := hparts last List.mem_cons_self
        simp only [if_neg hlast.2.2.1]
        exact fun p hp => hparts p (List.mem_cons_of_mem _ hp)
  next hdots =>
  intro p hp
  rcases List.mem_cons.mp hp with rfl | hp
  · exact ⟨hneither.1, hneither.2, hdots, hpart⟩
  · exact hparts p hp

theorem foldl_push_plain {rooted : Bool} {parts : List (List Char)} (hparts : ∀ p ∈ parts, IsPlain p)
    (before : List (List Char)) : parts.foldl (push rooted) before = parts.reverse ++ before := by
  induction parts generalizing before with
  | nil => rfl
  | cons part parts ih =>
      rw [List.foldl_cons, push_plain (hparts part List.mem_cons_self),
        ih fun p hp => hparts p (List.mem_cons_of_mem _ hp), List.reverse_cons, List.append_assoc]
      rfl

theorem foldl_push_rooted {pieces before : List (List Char)} (hpieces : ∀ p ∈ pieces, '/' ∉ p)
    (hbefore : ∀ p ∈ before, IsPlain p) : ∀ p ∈ pieces.foldl (push true) before, IsPlain p := by
  induction pieces generalizing before with
  | nil => exact hbefore
  | cons piece pieces ih =>
      exact ih (fun p hp => hpieces p (List.mem_cons_of_mem _ hp))
        (push_rooted hbefore (hpieces piece List.mem_cons_self))

theorem normalParts_plain {path : List Char} (hroot : root path ≠ []) :
    ∀ p ∈ normalParts path, IsPlain p := by
  intro p hp
  rw [normalParts, List.mem_reverse, decide_eq_true hroot] at hp
  exact foldl_push_rooted (fun _ => Text.not_mem_of_mem_split) (by simp) p hp

theorem normalChars_of_root {path : List Char} (hroot : root path ≠ []) :
    normalChars path = root path ++ ['/'].intercalate (normalParts path) := by
  unfold normalChars
  split
  · next hnil => exact absurd (List.append_eq_nil_iff.mp hnil).1 hroot
  · rfl

theorem head_intercalate_plain {parts : List (List Char)} (hparts : ∀ p ∈ parts, IsPlain p) :
    (['/'].intercalate parts).head? ≠ some '/' := by
  cases parts with
  | nil => simp
  | cons part parts =>
      obtain ⟨hempty, -, -, hslash⟩ := hparts part List.mem_cons_self
      cases part with
      | nil => exact absurd rfl hempty
      | cons c rest =>
          rw [List.mem_cons, not_or] at hslash
          cases parts <;> simpa using Ne.symm hslash.1

theorem root_root_append {path rest : List Char} (hrest : rest.head? ≠ some '/') (hroot : root path ≠ []) :
    root (root path ++ rest) = root path := by
  obtain ⟨tail, rfl⟩ := root_ne_nil_iff.mp hroot
  cases rest with
  | nil => rcases root_cons_slash tail with h | h <;> rw [h] <;> rfl
  | cons c rest =>
      have hc : c ≠ '/' := fun heq => hrest (by rw [heq]; rfl)
      rcases root_cons_slash tail with h | h <;> rw [h] <;> simp [root, hc]

theorem foldl_push_split {rooted : Bool} {parts : List (List Char)} (hparts : ∀ p ∈ parts, IsPlain p) :
    (Text.split '/' (['/'].intercalate parts)).foldl (push rooted) [] = parts.reverse := by
  by_cases hnil : parts = []
  · rw [hnil]
    exact push_nil rooted []
  · rw [Text.split_intercalate '/' parts hnil fun p hp => (hparts p hp).2.2.2, foldl_push_plain hparts,
      List.append_nil]

/-- Plain names below a root are the parts of the path that they make up. -/
theorem normalParts_root_append {path : List Char} {parts : List (List Char)} (hroot : root path ≠ [])
    (hparts : ∀ p ∈ parts, IsPlain p) :
    normalParts (root path ++ ['/'].intercalate parts) = parts := by
  obtain ⟨tail, rfl⟩ := root_ne_nil_iff.mp hroot
  rw [normalParts]
  rcases root_cons_slash tail with h | h
  · rw [h, List.singleton_append, Text.split_separator, List.foldl_cons, push_nil, foldl_push_split hparts,
      List.reverse_reverse]
  · rw [h, List.cons_append, List.singleton_append, Text.split_separator, Text.split_separator,
      List.foldl_cons, List.foldl_cons, push_nil, push_nil, foldl_push_split hparts, List.reverse_reverse]

theorem root_normalChars {path : List Char} (hroot : root path ≠ []) : root (normalChars path) = root path := by
  rw [normalChars_of_root hroot]
  exact root_root_append (head_intercalate_plain (normalParts_plain hroot)) hroot

/-- The normal form of a path with a root is normal. -/
theorem normalChars_normalChars {path : List Char} (hroot : root path ≠ []) :
    normalChars (normalChars path) = normalChars path := by
  have hagain : root (normalChars path) ≠ [] := by rwa [root_normalChars hroot]
  rw [normalChars_of_root hagain, root_normalChars hroot, normalChars_of_root hroot,
    normalParts_root_append hroot (normalParts_plain hroot)]

theorem joinChars_of_root {path : List Char} (hroot : root path ≠ []) (directory : List Char) :
    joinChars directory path = path := by
  obtain ⟨rest, rfl⟩ := root_ne_nil_iff.mp hroot
  rfl

theorem root_joinChars {directory : List Char} (hroot : root directory ≠ []) (path : List Char) :
    root (joinChars directory path) ≠ [] := by
  obtain ⟨rest, rfl⟩ := root_ne_nil_iff.mp hroot
  rw [root_ne_nil_iff]
  unfold joinChars
  split
  · exact ⟨_, rfl⟩
  split
  · exact ⟨_, rfl⟩
  · exact ⟨_, rfl⟩
  · exact ⟨_, rfl⟩

theorem root_absoluteChars {cwd : List Char} (hcwd : root cwd ≠ []) (path : List Char) :
    root (absoluteChars cwd path) ≠ [] := by
  rw [absoluteChars, root_normalChars (root_joinChars hcwd path)]
  exact root_joinChars hcwd path

/-- An absolute path is its own absolute form, from whatever directory it is read. -/
theorem absoluteChars_absoluteChars {cwd : List Char} (hcwd : root cwd ≠ []) (directory path : List Char) :
    absoluteChars directory (absoluteChars cwd path) = absoluteChars cwd path := by
  rw [absoluteChars, joinChars_of_root (root_absoluteChars hcwd path), absoluteChars,
    normalChars_normalChars (root_joinChars hcwd path)]

end SassBridge.Path
