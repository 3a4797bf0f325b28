import SassBridge.Proofs.Path.Relative
import SassBridge.Proofs.Text.Wide

/-! Paths whose characters are spelled in another way. The rules of paths look at slashes and points only, so that a
spelling which keeps these apart from the rest and can be undone changes nothing: the way between two paths, spelled so,
is the way between the paths as they are spelled. -/

namespace SassBridge.Path

/-- A way to spell texts, character by character, that leaves slashes and points alone and makes up no slashes. -/
structure IsSpelling (spell : List Char → List Char) : Prop where
  append : ∀ text more, spell (text ++ more) = spell text ++ spell more
  slash : spell ['/'] = ['/']
  point : spell ['.'] = ['.']
  keeps : ∀ {text}, '/' ∉ text → '/' ∉ spell text
  injective : ∀ {text other}, spell text = spell other → text = other

/-- A path without a root stands after the directory, and after a slash where the directory does not end in one. -/
theorem joinChars_of_no_root {path : List Char} (hroot : ¬root path ≠ []) (directory : List Char) :
    joinChars directory path =
      if directory = [] ∨ directory.getLast? = some '/' then directory ++ path else directory ++ '/' :: path := by
  have hslash : ∀ rest, path ≠ '/' :: rest := fun rest heq => hroot (root_ne_nil_iff.mpr ⟨rest, heq⟩)
  unfold joinChars
  split
  · exact absurd rfl (hslash _)
  split
  · next hlast => rw [if_pos (Or.inl (List.getLast?_eq_none_iff.mp hlast))]
  · next hlast => rw [if_pos (Or.inr hlast)]
  · next hslash hlast =>
      rw [if_neg]
      rintro (rfl | hend)
      · cases hlast
      · exact hslash (Option.some.inj (hlast.symm.trans hend))

/-- The slashes at the start of a path tell its root. -/
theorem root_takeWhile (path : List Char) : root (path.takeWhile (· = '/')) = root path := by
  have hstop : ∀ text : List Char, (∀ rest, text ≠ '/' :: rest) → text.takeWhile (· = '/') = [] := by
    intro text htext
    cases text with
    | nil => rfl
    | cons c rest =>
        have hc : c ≠ '/' := fun heq => htext rest (by rw [heq])
        simp [hc]
  rw [root.eq_def path]
  split
  · simp [root]
  · next rest hthird =>
    simp [root, hstop rest fun others heq => hthird others (by rw [heq])]
  · next rest _ hsecond =>
    simp [root, hstop rest fun others heq => hsecond others (by rw [heq])]
  · next _ _ hfirst =>
    rw [hstop path hfirst]
    rfl

namespace IsSpelling

variable {spell : List Char → List Char} (hspell : IsSpelling spell)

include hspell

theorem nil : spell [] = [] := by
  have hlength := congrArg List.length (hspell.append [] [])
  rw [List.append_nil, List.length_append] at hlength
  exact List.length_eq_zero_iff.mp (by omega)

/-- A text that is spelled as it is is spelled so alone. -/
theorem eq_iff_of_kept {kept : List Char} (hkept : spell kept = kept) {text : List Char} :
    spell text = kept ↔ text = kept := by
  constructor
  · intro hspelled
    exact hspell.injective (hspelled.trans hkept.symm)
  · rintro rfl
    exact hkept

theorem eq_nil_iff {text : List Char} : spell text = [] ↔ text = [] :=
  hspell.eq_iff_of_kept hspell.nil

theorem cons_slash (rest : List Char) : spell ('/' :: rest) = '/' :: spell rest := by
  rw [← List.singleton_append, hspell.append, hspell.slash, List.singleton_append]

theorem points : spell ['.', '.'] = ['.', '.'] := by
  rw [← List.singleton_append, hspell.append, hspell.point, List.singleton_append]

/-- What does not start with a slash does not start with one when it is spelled. -/
theorem cons_of_ne {c : Char} (hc : c ≠ '/') (rest : List Char) :
    ∃ d more, spell (c :: rest) = d :: more ∧ d ≠ '/' := by
  have hslash : '/' ∉ spell [c] := hspell.keeps (by simpa using Ne.symm hc)
  cases hspelled : spell [c] with
  | nil => cases hspell.eq_nil_iff.mp hspelled
  | cons d more =>
      rw [hspelled, List.mem_cons, not_or] at hslash
      refine ⟨d, more ++ spell rest, ?_, Ne.symm hslash.1⟩
      rw [← List.singleton_append, hspell.append, hspelled, List.cons_append]

theorem intercalate (parts : List (List Char)) :
    spell (['/'].intercalate parts) = ['/'].intercalate (parts.map spell) := by
  induction parts with
  | nil => exact hspell.nil
  | cons part parts ih =>
      cases parts with
      | nil => simp
      | cons next others =>
          rw [List.intercalate_cons_cons, hspell.append, hspell.append, hspell.slash, ih]
          simp only [List.map_cons, List.intercalate_cons_cons]

theorem split (text : List Char) : Text.split '/' (spell text) = (Text.split '/' text).map spell := by
  have hpieces : ∀ piece ∈ (Text.split '/' text).map spell, '/' ∉ piece := by
    intro piece hpiece
    obtain ⟨original, horiginal, rfl⟩ := List.mem_map.mp hpiece
    exact hspell.keeps (Text.not_mem_of_mem_split horiginal)
  have hne : (Text.split '/' text).map spell ≠ [] := by simp [Text.split_ne_nil]
  rw [← Text.split_intercalate '/' _ hne hpieces, ← hspell.intercalate, Text.intercalate_split]

theorem takeWhile_spell (text : List Char) : (spell text).takeWhile (· = '/') = text.takeWhile (· = '/') := by
  induction text with
  | nil => rw [hspell.nil]
  | cons c rest ih =>
      by_cases hc : c = '/'
      · rw [hc, hspell.cons_slash]
        simpa using ih
      · obtain ⟨d, more, hspelled, hd⟩ := hspell.cons_of_ne hc rest
        rw [hspelled]
        simp [hc, hd]

theorem root_spell (path : List Char) : root (spell path) = root path := by
  rw [← root_takeWhile, hspell.takeWhile_spell, root_takeWhile]

theorem push_spell (rooted : Bool) (parts : List (List Char)) (part : List Char) :
    push rooted (parts.map spell) (spell part) = (push rooted parts part).map spell := by
  have hpoints : ∀ other, spell other = ['.', '.'] ↔ other = ['.', '.'] :=
    fun _ => hspell.eq_iff_of_kept hspell.points
  unfold push
  simp only [hspell.eq_nil_iff, hspell.eq_iff_of_kept hspell.point, hpoints]
  split
  · rfl
  split
  · next hpart =>
    cases parts with
    | nil => cases rooted <;> simp [hpart, hspell.points]
    | cons last rest =>
        simp only [List.map_cons, hpoints]
        split
        · simp
        · rfl
  · rfl

theorem foldl_push_spell (rooted : Bool) (parts before : List (List Char)) :
    (parts.map spell).foldl (push rooted) (before.map spell) = (parts.foldl (push rooted) before).map spell := by
  induction parts generalizing before with
  | nil => rfl
  | cons part parts ih => rw [List.map_cons, List.foldl_cons, List.foldl_cons, hspell.push_spell, ih]

theorem normalParts_spell (path : List Char) : normalParts (spell path) = (normalParts path).map spell := by
  have hfold := hspell.foldl_push_spell (root path ≠ []) (Text.split '/' path) []
  rw [normalParts, normalParts, hspell.split, hspell.root_spell, List.map_reverse]
  exact congrArg List.reverse hfold

theorem spell_root (path : List Char) : spell (root path) = root path := by
  unfold root
  split
  · exact hspell.slash
  · rw [hspell.cons_slash, hspell.slash]
  · exact hspell.slash
  · exact hspell.nil

theorem normalChars_spell (path : List Char) : normalChars (spell path) = spell (normalChars path) := by
  have hbody : root (spell path) ++ ['/'].intercalate (normalParts (spell path)) =
      spell (root path ++ ['/'].intercalate (normalParts path)) := by
    rw [hspell.append, hspell.spell_root, hspell.root_spell, hspell.normalParts_spell, hspell.intercalate]
  rw [normalChars, normalChars, hbody]
  cases hpath : root path ++ ['/'].intercalate (normalParts path) with
  | nil =>
      rw [hspell.nil]
      exact hspell.point.symm
  | cons c rest =>
      have hne : spell (c :: rest) ≠ [] := by simp [hspell.eq_nil_iff]
      split
      · next hnil => exact absurd hnil hne
      · rfl

theorem getLast?_spell_iff (text : List Char) : (spell text).getLast? = some '/' ↔ text.getLast? = some '/' := by
  rcases List.eq_nil_or_concat text with rfl | ⟨init, c, rfl⟩
  · rw [hspell.nil]
  · rw [List.concat_eq_append, hspell.append, List.getLast?_concat]
    by_cases hc : c = '/'
    · rw [hc, hspell.slash, List.getLast?_concat]
    · have hslash : '/' ∉ spell [c] := hspell.keeps (by simpa using Ne.symm hc)
      refine iff_of_false (fun hlast => ?_) (by simpa using hc)
      obtain ⟨d, more, hspelled, -⟩ := hspell.cons_of_ne hc []
      rw [hspelled, List.getLast?_append_of_ne_nil _ (List.cons_ne_nil d more), ← hspelled] at hlast
      exact hslash (List.mem_of_getLast? hlast)

theorem joinChars_spell (directory path : List Char) :
    joinChars (spell directory) (spell path) = spell (joinChars directory path) := by
  by_cases hpath : root path ≠ []
  · have hspelled : root (spell path) ≠ [] := by rwa [hspell.root_spell]
    rw [joinChars_of_root hpath, joinChars_of_root hspelled]
  · have hspelled : ¬root (spell path) ≠ [] := by rwa [hspell.root_spell]
    rw [joinChars_of_no_root hpath, joinChars_of_no_root hspelled]
    simp only [hspell.eq_nil_iff, hspell.getLast?_spell_iff]
    split
    · exact (hspell.append _ _).symm
    · rw [hspell.append, hspell.cons_slash]

theorem absoluteChars_spell (cwd path : List Char) :
    absoluteChars (spell cwd) (spell path) = spell (absoluteChars cwd path) := by
  rw [absoluteChars, absoluteChars, hspell.joinChars_spell, hspell.normalChars_spell]

theorem names_spell (path : List Char) : names (spell path) = (names path).map spell := by
  rw [names, names, hspell.split, List.filter_map]
  refine congrArg _ (List.filter_congr fun part _ => ?_)
  simp [hspell.eq_nil_iff]

theorem dropCommon_spell (above below : List (List Char)) :
    dropCommon (above.map spell) (below.map spell) =
      ((dropCommon above below).1.map spell, (dropCommon above below).2.map spell) := by
  fun_induction dropCommon above below with
  | case1 above name below ih => rw [List.map_cons, List.map_cons, dropCommon, if_pos rfl, ih]
  | case2 name above other below hne =>
      have hspelled : spell name ≠ spell other := fun heq => hne (hspell.injective heq)
      rw [List.map_cons, List.map_cons, dropCommon, if_neg hspelled]
  | case3 above below hnil =>
      cases above with
      | nil => rfl
      | cons name above =>
          cases below with
          | nil => rfl
          | cons other below => exact (hnil name above other below rfl rfl).elim

/-- The way between two paths does not depend on how their characters are spelled. -/
theorem relativeChars_spell (cwd start target : List Char) :
    relativeChars (spell cwd) (spell start) (spell target) = spell (relativeChars cwd start target) := by
  simp only [relativeChars, hspell.absoluteChars_spell, hspell.names_spell, hspell.dropCommon_spell, List.map_map]
  generalize dropCommon (names (absoluteChars cwd start)) (names (absoluteChars cwd target)) = rest
  have hparts : rest.1.map ((fun _ => ['.', '.']) ∘ spell) ++ rest.2.map spell =
      (rest.1.map (fun _ => ['.', '.']) ++ rest.2).map spell := by
    rw [List.map_append, List.map_map]
    simp [Function.comp_def, hspell.points]
  rw [hparts]
  cases hway : rest.1.map (fun _ => ['.', '.']) ++ rest.2 with
  | nil => exact hspell.point.symm
  | cons part parts => exact (hspell.intercalate _).symm

end IsSpelling

/-- Escaping surrogates is such a spelling of what has none. -/
theorem isSpelling_escaped : IsSpelling fun text => (Wide.ofChars text).escaped where
  append text more := by rw [Wide.ofChars_append, Wide.escaped_append]
  slash := rfl
  point := rfl
  keeps {text} htext := by
    intro hmem
    obtain ⟨code, hcode, hmem⟩ := List.mem_flatMap.mp hmem
    obtain ⟨c, hc, rfl⟩ := List.mem_map.mp hcode
    dsimp only at hmem
    split at hmem
    · exact absurd hmem (by decide)
    · exact htext (List.mem_singleton.mp hmem ▸ hc)
  injective {text other} hspelled := by
    have hread : Wide.ofChars text = Wide.ofChars other := by
      rw [← Wide.ofEscaped_escaped (.ofChars text), hspelled, Wide.ofEscaped_escaped]
    have hchars := congrArg Wide.toChars? hread
    rwa [Wide.toChars?_ofChars, Wide.toChars?_ofChars, Option.some_inj] at hchars

end SassBridge.Path
