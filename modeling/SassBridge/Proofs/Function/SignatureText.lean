import SassBridge.Function.Signature
import SassBridge.Proofs.Lists
import SassBridge.Proofs.Text.Split

/-!
Signatures read back from their texts. A text is that of at most one signature whose names have no punctuation of
signatures in them, which identifiers never have; the reader finds it and accepts no other text.
-/

namespace SassBridge

namespace Signature

/-- Whether a character is none of those that signatures are punctuated with. -/
def isPlainChar (c : Char) : Bool :=
  !(['(', ')', '$', ',', ' ', ':', '.'].contains c)

def isPlain (name : String) : Bool :=
  name.toList.all isPlainChar

/-- A plain name ends where something follows that is not plain. -/
theorem plain_part_eq {name rest : List Char} (hname : name.all isPlainChar = true)
    (hrest : ∀ c ∈ rest.head?, isPlainChar c = false) :
    (name ++ rest).takeWhile isPlainChar = name ∧ (name ++ rest).dropWhile isPlainChar = rest := by
  have hnone : rest.takeWhile isPlainChar = [] ∧ rest.dropWhile isPlainChar = rest := by
    cases rest with
    | nil => exact ⟨rfl, rfl⟩
    | cons c rest =>
        have hc : ¬isPlainChar c = true := Bool.eq_false_iff.mp (hrest c rfl)
        exact ⟨List.takeWhile_cons_of_neg hc, List.dropWhile_cons_of_neg hc⟩
  rw [List.all_eq_true] at hname
  rw [List.takeWhile_append_of_pos hname, List.dropWhile_append_of_pos hname, hnone.1, hnone.2, List.append_nil]
  exact ⟨rfl, rfl⟩

end Signature

namespace Announced

open Signature

def name : Announced → String
  | required name | optional name | rest name => name

/-- What stands behind the name. -/
def mark : Announced → List Char
  | required _ => []
  | optional _ => ": null".toList
  | rest _ => "...".toList

theorem toList_toText (parameter : Announced) :
    parameter.toText.toList = '$' :: (parameter.name.toList ++ parameter.mark) := by
  cases parameter <;> simp [toText, name, mark]

/-- The parameter that a text announces. -/
def ofChars? (text : List Char) : Option Announced := do
  let text ← Text.dropStart? ['$'] text
  let name := String.ofList (text.takeWhile isPlainChar)
  [required name, optional name, rest name].find? (·.mark == text.dropWhile isPlainChar)

theorem ofChars?_eq_some_iff {text : List Char} {parameter : Announced} :
    ofChars? text = some parameter ↔ isPlain parameter.name = true ∧ parameter.toText.toList = text := by
  simp only [ofChars?, Option.bind_eq_bind, Option.bind_eq_some_iff]
  constructor
  · rintro ⟨behind, hbehind, hfound⟩
    obtain rfl := List.isPrefixOf?_eq_some_iff_append_eq.mp hbehind
    have hmark := List.find?_some hfound
    rw [beq_iff_eq] at hmark
    have hname : parameter.name = String.ofList (behind.takeWhile isPlainChar) := by
      have hmem := List.mem_of_find?_eq_some hfound
      simp only [List.mem_cons, List.not_mem_nil, or_false] at hmem
      rcases hmem with rfl | rfl | rfl <;> rfl
    refine ⟨?_, ?_⟩
    · rw [isPlain, hname, String.toList_ofList]
      exact List.all_takeWhile
    · rw [toList_toText, hname, hmark, String.toList_ofList, List.takeWhile_append_dropWhile]
      rfl
  · rintro ⟨hplain, rfl⟩
    have hend : ∀ c ∈ parameter.mark.head?, isPlainChar c = false := by
      cases parameter <;> simp [mark, isPlainChar]
    obtain ⟨htake, hdrop⟩ := plain_part_eq hplain hend
    refine ⟨parameter.name.toList ++ parameter.mark, ?_, ?_⟩
    · rw [toList_toText]
      exact Text.dropStart?_append ['$'] _
    · rw [htake, hdrop, String.ofList_toList]
      cases parameter <;> rfl

theorem comma_not_mem_toText {parameter : Announced} (hplain : isPlain parameter.name = true) :
    ',' ∉ parameter.toText.toList := by
  have hname : ',' ∉ parameter.name.toList := by
    intro hmem
    have hcomma := List.all_eq_true.mp hplain _ hmem
    cases hcomma
  have hmark : ',' ∉ parameter.mark := by
    cases parameter <;> simp [mark]
  rw [toList_toText]
  simp [hname, hmark]

/-- The parameter that a text announces behind a blank. -/
def ofPiece? (piece : List Char) : Option Announced :=
  (Text.dropStart? [' '] piece).bind ofChars?

theorem ofPiece?_eq_some_iff {piece : List Char} {parameter : Announced} :
    ofPiece? piece = some parameter ↔
      isPlain parameter.name = true ∧ ' ' :: parameter.toText.toList = piece := by
  simp only [ofPiece?, Option.bind_eq_some_iff, ofChars?_eq_some_iff]
  constructor
  · rintro ⟨text, hpiece, hplain, rfl⟩
    exact ⟨hplain, List.isPrefixOf?_eq_some_iff_append_eq.mp hpiece⟩
  · rintro ⟨hplain, rfl⟩
    exact ⟨_, Text.dropStart?_append [' '] _, hplain, rfl⟩

/-- The parameters that a text announces, with a comma and a blank between them. -/
def listOfChars? : List Char → Option (List Announced)
  | [] => some []
  | text => (Text.split ',' (' ' :: text)).mapM ofPiece?

/-- The text of a list of parameters. -/
def listToText (parameters : List Announced) : List Char :=
  (", ".intercalate (parameters.map toText)).toList

theorem blank_cons_intercalate {pieces : List (List Char)} (hne : pieces ≠ []) :
    ' ' :: [',', ' '].intercalate pieces = [','].intercalate (pieces.map (' ' :: ·)) := by
  induction pieces with
  | nil => exact absurd rfl hne
  | cons piece pieces ih =>
      cases pieces with
      | nil => simp
      | cons next others =>
          rw [List.intercalate_cons_cons, List.map_cons, List.map_cons, List.intercalate_cons_cons,
            ← List.map_cons, ← ih (List.cons_ne_nil next others)]
          simp

theorem blank_cons_listToText {parameters : List Announced} (hne : parameters ≠ []) :
    ' ' :: listToText parameters =
      [','].intercalate (parameters.map fun parameter => ' ' :: parameter.toText.toList) := by
  have hpieces : (parameters.map toText).map String.toList ≠ [] := by simpa using hne
  rw [listToText, String.toList_intercalate]
  refine (blank_cons_intercalate hpieces).trans ?_
  rw [List.map_map, List.map_map]
  rfl

theorem listToText_ne_nil {parameters : List Announced} (hne : parameters ≠ []) : listToText parameters ≠ [] := by
  obtain ⟨parameter, others, rfl⟩ := List.exists_cons_of_ne_nil hne
  intro hnil
  have hblank := blank_cons_listToText hne
  rw [hnil, List.map_cons, toList_toText] at hblank
  cases others with
  | nil => simp at hblank
  | cons next others => simp [List.intercalate_cons_cons] at hblank

theorem forall₂_ofPiece?_iff {pieces : List (List Char)} {parameters : List Announced} :
    List.Forall₂ (fun piece parameter => ofPiece? piece = some parameter) pieces parameters ↔
      (∀ parameter ∈ parameters, isPlain parameter.name = true) ∧
        parameters.map (fun parameter => ' ' :: parameter.toText.toList) = pieces := by
  simp only [ofPiece?_eq_some_iff]
  induction parameters generalizing pieces with
  | nil => cases pieces <;> simp
  | cons parameter parameters ih =>
      simp only [List.forall₂_cons_right_iff, ih, List.forall_mem_cons, List.map_cons]
      constructor
      · rintro ⟨piece, pieces, ⟨hplain, rfl⟩, ⟨hall, rfl⟩, rfl⟩
        exact ⟨⟨hplain, hall⟩, rfl⟩
      · rintro ⟨⟨hplain, hall⟩, rfl⟩
        exact ⟨_, _, ⟨hplain, rfl⟩, ⟨hall, rfl⟩, rfl⟩

theorem listOfChars?_eq_some_iff {text : List Char} {parameters : List Announced} :
    listOfChars? text = some parameters ↔
      (∀ parameter ∈ parameters, isPlain parameter.name = true) ∧ listToText parameters = text := by
  constructor
  · intro hread
    cases text with
    | nil =>
        obtain rfl := Option.some.inj hread
        exact ⟨nofun, rfl⟩
    | cons c text =>
        rw [listOfChars?, Lists.mapM_eq_some_iff, forall₂_ofPiece?_iff] at hread
        · obtain ⟨hplain, hpieces⟩ := hread
          have hne : parameters ≠ [] := by
            rintro rfl
            exact Text.split_ne_nil ',' (' ' :: c :: text) hpieces.symm
          have hblank := blank_cons_listToText hne
          rw [hpieces, Text.intercalate_split] at hblank
          exact ⟨hplain, (List.cons.inj hblank).2⟩
        · nofun
  · rintro ⟨hplain, rfl⟩
    by_cases hne : parameters = []
    · rw [hne]
      rfl
    · rw [listOfChars?, Lists.mapM_eq_some_iff, forall₂_ofPiece?_iff]
      · refine ⟨hplain, ?_⟩
        rw [blank_cons_listToText hne, Text.split_intercalate]
        · simpa using hne
        · intro piece hpiece
          obtain ⟨parameter, hmem, rfl⟩ := List.mem_map.mp hpiece
          simp [comma_not_mem_toText (hplain parameter hmem)]
      · exact listToText_ne_nil hne

end Announced

namespace Signature

/-- Whether no name of a signature has punctuation in it. -/
def IsPlain (signature : Signature) : Prop :=
  isPlain signature.function = true ∧ ∀ parameter ∈ signature.parameters, isPlain parameter.name = true

theorem toList_toText (signature : Signature) :
    signature.toText.toList =
      signature.function.toList ++ '(' :: (Announced.listToText signature.parameters ++ [')']) := by
  simp [toText, Announced.listToText]

/-- A signature begins with the name of its function, which ends at the parenthesis. -/
theorem plain_part_toText {signature : Signature} (hfunction : isPlain signature.function = true) :
    signature.toText.toList.takeWhile isPlainChar = signature.function.toList ∧
      signature.toText.toList.dropWhile isPlainChar =
        '(' :: (Announced.listToText signature.parameters ++ [')']) := by
  rw [toList_toText]
  exact plain_part_eq hfunction (by simp [isPlainChar])

/-- Functions of different names have different texts. -/
theorem function_eq_of_toText_eq {first second : Signature} (hfirst : isPlain first.function = true)
    (hsecond : isPlain second.function = true) (htext : first.toText = second.toText) :
    first.function = second.function := by
  rw [← String.toList_inj, ← (plain_part_toText hfirst).1, htext, (plain_part_toText hsecond).1]

/-- What stands between the parentheses of a text. -/
def enclosed? : List Char → Option (List Char)
  | '(' :: text => if text.getLast? = some ')' then some text.dropLast else none
  | _ => none

theorem enclosed?_eq_some_iff {text inner : List Char} :
    enclosed? text = some inner ↔ '(' :: (inner ++ [')']) = text := by
  constructor
  · intro henclosed
    unfold enclosed? at henclosed
    split at henclosed
    · next behind =>
      split at henclosed
      · next hlast =>
        obtain ⟨before, rfl⟩ := List.getLast?_eq_some_iff.mp hlast
        rw [List.dropLast_concat, Option.some.injEq] at henclosed
        rw [henclosed]
      · cases henclosed
    · cases henclosed
  · rintro rfl
    simp [enclosed?]

/-- The signature that has a text. -/
def ofText? (text : String) : Option Signature := do
  let inner ← enclosed? (text.toList.dropWhile isPlainChar)
  let parameters ← Announced.listOfChars? inner
  return ⟨.ofList (text.toList.takeWhile isPlainChar), parameters⟩

/-- The reader undoes the printer, and reads nothing that the printer does not write. -/
theorem ofText?_eq_some_iff {text : String} {signature : Signature} :
    ofText? text = some signature ↔ signature.IsPlain ∧ signature.toText = text := by
  simp only [ofText?, Option.bind_eq_bind, Option.bind_eq_some_iff, enclosed?_eq_some_iff,
    Announced.listOfChars?_eq_some_iff]
  constructor
  · rintro ⟨inner, hinner, parameters, ⟨hplain, rfl⟩, hsignature⟩
    obtain rfl := Option.some.inj hsignature
    refine ⟨⟨?_, hplain⟩, ?_⟩
    · rw [isPlain, String.toList_ofList]
      exact List.all_takeWhile
    · rw [← String.toList_inj, toList_toText, hinner, String.toList_ofList, List.takeWhile_append_dropWhile]
  · rintro ⟨⟨hfunction, hparameters⟩, rfl⟩
    obtain ⟨htake, hdrop⟩ := plain_part_toText hfunction
    refine ⟨_, hdrop.symm, signature.parameters, ⟨hparameters, rfl⟩, ?_⟩
    rw [htake, String.ofList_toList]
    rfl

example : ofText? "tint($color, $amount: null, $others...)" =
    some ⟨"tint", [.required "color", .optional "amount", .rest "others"]⟩ := by
  decide +kernel

end Signature

end SassBridge
