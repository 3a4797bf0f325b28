import SassBridge.Text.Wide

/-! Texts of code points. Those without surrogates are the texts of characters; each is the characters before its first
surrogate and the rest; and escaped as characters it can be had back. -/

namespace SassBridge.Wide

theorem ofChars_append (text more : List Char) : ofChars (text ++ more) = ofChars text ++ ofChars more :=
  List.map_append

theorem toChars?_ofChars (text : List Char) : toChars? (ofChars text) = some text := by
  induction text with
  | nil => rfl
  | cons c text ih => exact congrArg (Option.map (c :: ·)) ih

theorem toString?_ofString (text : String) : toString? (ofString text) = some text := by
  rw [toString?, ofString, toChars?_ofChars, Option.map_some, String.ofList_toList]

/-- Only texts of characters have characters. -/
theorem eq_of_toChars? {text : Wide} {chars : List Char} (hchars : text.toChars? = some chars) :
    text = ofChars chars := by
  induction text generalizing chars with
  | nil =>
      obtain rfl := Option.some.inj hchars
      rfl
  | cons code rest ih =>
      cases code with
      | char c =>
          obtain ⟨others, hothers, rfl⟩ := Option.map_eq_some_iff.mp hchars
          rw [ih hothers]
          rfl
      | surrogate place => cases hchars

section Leading

theorem leading_append (text : List Char) (rest : Wide) : (ofChars text ++ rest).leading = text ++ rest.leading := by
  induction text with
  | nil => rfl
  | cons c text ih => exact congrArg (c :: ·) ih

theorem afterLeading_append (text : List Char) (rest : Wide) :
    (ofChars text ++ rest).afterLeading = rest.afterLeading := by
  induction text with
  | nil => rfl
  | cons c text ih => exact ih

theorem leading_append_afterLeading (text : Wide) : ofChars text.leading ++ text.afterLeading = text := by
  induction text with
  | nil => rfl
  | cons code rest ih =>
      cases code with
      | char c => exact congrArg (CodePoint.char c :: ·) ih
      | surrogate place => rfl

end Leading

section Escapes

theorem escaped_append (text more : Wide) : (text ++ more).escaped = text.escaped ++ more.escaped :=
  List.flatMap_append

theorem toNat_ofNat_surrogate (place : Fin 0x800) : (Char.ofNat (0xE000 + place)).toNat = 0xE000 + place := by
  have hvalid : Nat.isValidChar (0xE000 + place) := Or.inr ⟨by omega, by omega⟩
  rw [Char.ofNat, dif_pos hvalid]
  rfl

/-- A text is had back from its escaped form. -/
theorem ofEscaped_escaped (text : Wide) : ofEscaped text.escaped = text := by
  induction text with
  | nil => rfl
  | cons code rest ih =>
      rw [escaped, List.flatMap_cons, ← escaped]
      cases code with
      | char c =>
          dsimp only
          split
          · next hc =>
            rw [hc, List.cons_append, List.cons_append, List.nil_append, ofEscaped, ih]
          · next hc =>
            rw [List.cons_append, List.nil_append, ofEscaped, ih]
            · exact fun _ heq => absurd heq hc
            · exact fun _ _ heq => absurd heq hc
      | surrogate place =>
          have hne : Char.ofNat (0xE000 + place) ≠ '\\' := by
            intro heq
            have hcode := congrArg Char.toNat heq
            rw [toNat_ofNat_surrogate] at hcode
            exact absurd hcode (by simp; omega)
          rw [List.cons_append, List.cons_append, List.nil_append, ofEscaped, ih, toNat_ofNat_surrogate]
          · rw [Nat.add_sub_cancel_left, Fin.ofNat_val_eq_self]
          · exact hne

end Escapes

end SassBridge.Wide
