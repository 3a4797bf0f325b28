import Mathlib.Data.List.Forall2
import Mathlib.Data.List.Infix
import SassBridge.Import.Language
import SassBridge.Proofs.Lists
import SassBridge.Text.LetterCase

/-!
Which language a path is in. The endings are looked for anywhere, but they can be found at the end only, where no two
of them fit: so there is one answer at most, whatever is asked first, and nothing in front of a path changes it.
-/

namespace SassBridge.Language

/-! Letter case. Of all characters only those that ASCII folds, and the long s, are cases of the letters of endings. -/

/-- Whether a character is a letter in one of its cases: its small letter is that letter, or it is the long s. -/
def IsCaseOf (c letter : Char) : Prop :=
  LetterCase.lowerChar c = letter ∨ (c = 'ſ' ∧ letter = 's')

/-- The characters that endings are made of. -/
def letters : List Char :=
  ['.', 'a', 'c', 's']

theorem mem_letters {language : Language} {letter : Char} (hletter : letter ∈ language.ending) : letter ∈ letters := by
  have hall : language.ending.all (· ∈ letters) = true := by cases language <;> decide
  exact of_decide_eq_true (List.all_eq_true.mp hall letter hletter)

theorem toNat_lt_of_mem_letters {letter : Char} (hletter : letter ∈ letters) :
    0 < letter.toNat ∧ letter.toNat < 0x80 := by
  have hall : letters.all (fun letter => 0 < letter.toNat ∧ letter.toNat < 0x80) = true := by decide
  exact of_decide_eq_true (List.all_eq_true.mp hall letter hletter)

/-- Capitals beyond ASCII have none of the letters as their small letters. -/
theorem letter_outside_run {run : LetterCase.Run} (hrun : run ∈ LetterCase.runs.tail) {letter : Char}
    (hletter : letter ∈ letters) :
    letter.toNat < run.small ∨ run.small + (run.last - run.first) < letter.toNat := by
  have hall : LetterCase.runs.tail.all (fun run => letters.all fun letter =>
      letter.toNat < run.small ∨ run.small + (run.last - run.first) < letter.toNat) = true := by decide +kernel
  exact of_decide_eq_true (List.all_eq_true.mp (List.all_eq_true.mp hall run hrun) letter hletter)

theorem lowerChar_ascii {c : Char} (hc : c.toNat < 0x80) : LetterCase.lowerChar c = c.toLower := by
  have hall : ∀ n < 0x80, LetterCase.lowerChar (Char.ofNat n) = (Char.ofNat n).toLower := by decide +kernel
  have hn := hall c.toNat hc
  rwa [Char.ofNat_toNat] at hn

theorem lowerChar_ne_letter {c letter : Char} (hc : 0x80 ≤ c.toNat) (hletter : letter ∈ letters) :
    LetterCase.lowerChar c ≠ letter := by
  have hascii := toNat_lt_of_mem_letters hletter
  intro hlower
  rw [LetterCase.lowerChar] at hlower
  split at hlower
  · next run hfound =>
    have hholds := List.find?_some hfound
    simp only [LetterCase.Run.holds, Bool.and_eq_true, decide_eq_true_eq] at hholds
    obtain ⟨⟨hfirst, hlast⟩, -⟩ := hholds
    have hvalue : run.small + (c.toNat - run.first) = letter.toNat := by
      by_cases hvalid : (run.small + (c.toNat - run.first)).isValidChar
      · exact congrArg Char.toNat ((dif_pos hvalid).symm.trans hlower)
      · have hzero : letter.toNat = 0 := congrArg Char.toNat (hlower.symm.trans (dif_neg hvalid))
        exact absurd hzero (Nat.ne_of_gt hascii.1)
    rcases List.mem_cons.mp (List.mem_of_find?_eq_some hfound) with rfl | hbeyond
    · exact absurd hlast (by simp only; omega)
    · have houtside := letter_outside_run hbeyond hletter
      omega
  · rw [hlower] at hc
    omega

theorem toLower_eq_iff {c letter : Char} (hletter : letter ∈ letters) :
    c.toLower = letter ↔ LetterCase.lowerChar c = letter := by
  rcases Nat.lt_or_ge c.toNat 0x80 with hc | hc
  · rw [lowerChar_ascii hc]
  · have hsame : c.toLower = c := by
      refine dif_neg ?_
      rintro ⟨-, hlast⟩
      exact absurd (Nat.le_trans hc (UInt32.le_iff_toNat_le.mp hlast)) (by decide)
    have hne : c ≠ letter := by
      rintro rfl
      exact absurd (toNat_lt_of_mem_letters hletter).2 (Nat.not_lt.mpr hc)
    rw [hsame]
    exact iff_of_false hne (lowerChar_ne_letter hc hletter)

theorem fold_eq_iff {c letter : Char} (hletter : letter ∈ letters) : fold c = letter ↔ IsCaseOf c letter := by
  rw [fold, IsCaseOf, ← toLower_eq_iff hletter]
  split
  · next hlong =>
    have hne : c.toLower ≠ letter := by
      rw [hlong]
      rintro rfl
      exact absurd hletter (by decide)
    rw [or_iff_right hne, and_iff_right hlong, eq_comm]
  · next hlong => rw [or_iff_left fun hlast => hlong hlast.1]

/-! The search. What it finds is an ending with at most one line break after it. -/

/-- What may follow an ending: nothing, or one line break. -/
def IsRest (rest : List Char) : Prop :=
  rest = [] ∨ rest = ['\n']

theorem stopsAfter_iff {ending text : List Char} :
    stopsAfter ending text = true ↔ ∃ part rest, text = part ++ rest ∧ part.map fold = ending ∧ IsRest rest := by
  induction ending generalizing text with
  | nil => simp [stopsAfter, IsRest]
  | cons letter ending ih =>
      cases text with
      | nil => simp [stopsAfter]
      | cons c text =>
          rw [stopsAfter, Bool.and_eq_true, beq_iff_eq, ih]
          constructor
          · rintro ⟨hc, part, rest, rfl, hpart, hrest⟩
            exact ⟨c :: part, rest, rfl, by rw [List.map_cons, hc, hpart], hrest⟩
          · rintro ⟨part, rest, htext, hpart, hrest⟩
            obtain ⟨first, part, rfl, hfirst, htail⟩ := List.map_eq_cons_iff.mp hpart
            obtain ⟨rfl, rfl⟩ := List.cons_eq_cons.mp htext
            exact ⟨hfirst, part, rest, rfl, htail, hrest⟩

theorem isFound_iff {ending path : List Char} :
    isFound ending path = true ↔ ∃ stem text, path = stem ++ text ∧ stopsAfter ending text = true := by
  induction path with
  | nil => simp [isFound]
  | cons c path ih =>
      rw [isFound, Bool.or_eq_true, ih]
      constructor
      · rintro (hhere | ⟨stem, text, rfl, htext⟩)
        · exact ⟨[], c :: path, rfl, hhere⟩
        · exact ⟨c :: stem, text, rfl, htext⟩
      · rintro ⟨stem, text, hpath, htext⟩
        rcases List.cons_eq_append_iff.mp hpath with ⟨rfl, rfl⟩ | ⟨stem, rfl, rfl⟩
        · exact .inl htext
        · exact .inr ⟨stem, text, rfl, htext⟩

/-- A path without one line break at its end. -/
def dropLineBreak (path : List Char) : List Char :=
  if path.getLast? = some '\n' then path.dropLast else path

theorem dropLineBreak_line_break (path : List Char) : dropLineBreak (path ++ ['\n']) = path := by
  simp [dropLineBreak]

theorem dropLineBreak_append {stem text : List Char} (htext : text ≠ []) :
    dropLineBreak (stem ++ text) = stem ++ dropLineBreak text := by
  rw [dropLineBreak, dropLineBreak, List.getLast?_append_of_ne_nil _ htext, List.dropLast_append_of_ne_nil htext]
  split <;> rfl

/-- A path is what stays of it, and the line break that is dropped, if it had one. -/
theorem exists_eq_dropLineBreak (path : List Char) : ∃ rest, path = dropLineBreak path ++ rest ∧ IsRest rest := by
  rw [dropLineBreak]
  split
  · next hlast => exact ⟨['\n'], (List.dropLast_append_getLast? _ hlast).symm, .inr rfl⟩
  · exact ⟨[], (List.append_nil path).symm, .inl rfl⟩

/-- Whether a path without one line break at its end has the ending of a language, in any letter case. -/
def Ends (language : Language) (path : List Char) : Prop :=
  ∃ stem text, dropLineBreak path = stem ++ text ∧ List.Forall₂ IsCaseOf text language.ending

variable {language other : Language} {path before : List Char}

theorem map_fold_eq_ending_iff {part : List Char} :
    part.map fold = language.ending ↔ List.Forall₂ IsCaseOf part language.ending := by
  rw [← List.forall₂_eq_eq_eq, List.forall₂_map_left_iff]
  exact Lists.forall₂_iff_of_mem fun c _ letter hletter => fold_eq_iff (mem_letters hletter)

/-- A text that is an ending in some letter case is not empty, and does not end in a line break. -/
theorem getLast?_of_map_fold {part : List Char} (hpart : part.map fold = language.ending) :
    part ≠ [] ∧ part.getLast? ≠ some '\n' := by
  have hlast : (part.map fold).getLast? ≠ none ∧ (part.map fold).getLast? ≠ some (fold '\n') := by
    rw [hpart]
    cases language <;> decide
  rw [List.getLast?_map] at hlast
  exact ⟨fun hnil => hlast.1 (by rw [hnil]; rfl), fun hbreak => hlast.2 (by rw [hbreak]; rfl)⟩

theorem matchesPath_iff : language.matchesPath path = true ↔ language.Ends path := by
  rw [matchesPath, isFound_iff]
  constructor
  · rintro ⟨stem, text, rfl, htext⟩
    obtain ⟨part, rest, rfl, hpart, hrest⟩ := stopsAfter_iff.mp htext
    obtain ⟨hne, hlast⟩ := getLast?_of_map_fold hpart
    refine ⟨stem, part, ?_, map_fold_eq_ending_iff.mp hpart⟩
    rcases hrest with rfl | rfl
    · rw [List.append_nil, dropLineBreak_append hne, dropLineBreak, if_neg hlast]
    · rw [← List.append_assoc, dropLineBreak_line_break]
  · rintro ⟨stem, part, hpath, hpart⟩
    obtain ⟨rest, hrest, hisRest⟩ := exists_eq_dropLineBreak path
    refine ⟨stem, part ++ rest, by rw [← List.append_assoc, ← hpath, ← hrest], ?_⟩
    exact stopsAfter_iff.mpr ⟨part, rest, rfl, map_fold_eq_ending_iff.mpr hpart, hisRest⟩

/-! One answer. No ending is the end of another one. -/

theorem eq_of_suffix (hsuffix : language.ending <:+ other.ending) : language = other := by
  have hall : ∀ language other : Language, language.ending <:+ other.ending → language = other := by
    intro language other
    cases language <;> cases other <;> decide
  exact hall language other hsuffix

theorem Ends.suffix (hends : language.Ends path) : language.ending <:+ (dropLineBreak path).map fold := by
  obtain ⟨stem, text, hpath, htext⟩ := hends
  exact ⟨stem.map fold, by rw [hpath, List.map_append, map_fold_eq_ending_iff.mpr htext]⟩

theorem Ends.eq (hends : language.Ends path) (hother : other.Ends path) : language = other := by
  rcases List.suffix_or_suffix_of_suffix hends.suffix hother.suffix with hsuffix | hsuffix
  · exact eq_of_suffix hsuffix
  · exact (eq_of_suffix hsuffix).symm

/-- Nothing that stands in front of a path changes its ending. -/
theorem Ends.append (hends : language.Ends path) : language.Ends (before ++ path) := by
  obtain ⟨stem, text, hpath, htext⟩ := hends
  refine ⟨before ++ stem, text, ?_, htext⟩
  have hne : path ≠ [] := by
    rintro rfl
    obtain ⟨-, rfl⟩ := List.append_eq_nil_iff.mp hpath.symm
    cases language <;> cases htext
  rw [dropLineBreak_append hne, hpath, List.append_assoc]

theorem ends_of_find? {order : List Language} (hfound : order.find? (·.matchesPath path) = some language) :
    language.Ends path := by
  have hmatches := List.find?_some hfound
  exact matchesPath_iff.mp hmatches

/-- Asked in any order, the languages give the one whose ending a path has. -/
theorem find?_matchesPath_eq_some_iff {order : List Language} (hall : ∀ language, language ∈ order) :
    order.find? (·.matchesPath path) = some language ↔ language.Ends path := by
  constructor
  · exact ends_of_find?
  · intro hends
    cases hfound : order.find? (·.matchesPath path) with
    | none =>
        have hnone := List.find?_eq_none.mp hfound language (hall language)
        exact absurd (matchesPath_iff.mpr hends) hnone
    | some first => rw [(ends_of_find? hfound).eq hends]

theorem ofPath?_eq_some_iff {path : String} : ofPath? path = some language ↔ language.Ends path.toList :=
  find?_matchesPath_eq_some_iff fun language => by cases language <;> decide

theorem ofPath_eq_ok_iff {path : String} : ofPath path = .ok language ↔ language.Ends path.toList := by
  rw [← ofPath?_eq_some_iff, ofPath]
  cases ofPath? path <;> simp

/-- The endings of the three languages are told apart by any search for them: whatever order they are asked in, the
language of a path is the one whose ending the path has, letter case and one line break at the end aside, a path with
none of the endings is refused, and a path that is accepted is accepted in the same language behind any text. -/
theorem ending_decides (path : String) :
    (∀ language other : Language,
      language.matchesPath path.toList = true → other.matchesPath path.toList = true → language = other) ∧
    (∀ order : List Language, (∀ language, language ∈ order) →
      order.find? (·.matchesPath path.toList) = ofPath? path) ∧
    (∀ language : Language, (language.matchesPath path.toList = true ↔ language.Ends path.toList) ∧
      (ofPath path = .ok language ↔ language.Ends path.toList)) ∧
    (ofPath path = .error (.unknownExtension path) ↔ ∀ language : Language, ¬ language.Ends path.toList) ∧
    ∀ (before : String) (language : Language), ofPath path = .ok language → ofPath (before ++ path) = .ok language := by
  refine ⟨fun language other hlanguage hother => ?_, fun order hall => ?_, fun language => ?_, ?_,
    fun before language haccepted => ?_⟩
  · exact (matchesPath_iff.mp hlanguage).eq (matchesPath_iff.mp hother)
  · refine Option.ext fun language => ?_
    rw [find?_matchesPath_eq_some_iff hall, ofPath?_eq_some_iff]
  · exact ⟨matchesPath_iff, ofPath_eq_ok_iff⟩
  · simp only [← ofPath?_eq_some_iff, ofPath]
    cases ofPath? path <;> simp
  · rw [ofPath_eq_ok_iff, String.toList_append]
    exact (ofPath_eq_ok_iff.mp haccepted).append

theorem ending_decides_long_s :
    ofPath "_old.ſAſs\n" = .ok .indented ∧ ofPath ("themes.css/" ++ "_old.ſAſs\n") = .ok .indented := by
  have haccepted : ofPath "_old.ſAſs\n" = .ok .indented := rfl
  exact ⟨haccepted, (ending_decides "_old.ſAſs\n").2.2.2.2 "themes.css/" .indented haccepted⟩

end SassBridge.Language
