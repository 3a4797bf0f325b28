import Mathlib.Data.List.Basic
import SassBridge.Text.Split

/-! Splitting text and joining the pieces again. A text without the separator is one piece, and pieces
without it come back from their concatenation. -/

namespace SassBridge.Text

/-- A separator ends a piece, whatever stands before it. -/
theorem split_append (separator : Char) (text rest : List Char) :
    split separator (text ++ separator :: rest) = split separator text ++ split separator rest := by
  induction text with
  | nil => exact split_separator separator rest
  | cons c text ih =>
      rw [List.cons_append, split, split, ih]
      split
      · rfl
      · obtain ⟨piece, pieces, hsplit⟩ := List.exists_cons_of_ne_nil (split_ne_nil separator text)
        rw [hsplit]
        rfl

theorem split_of_not_mem (separator : Char) (text : List Char) (htext : separator ∉ text) :
    split separator text = [text] := by
  induction text with
  | nil => rfl
  | cons c text ih =>
      rw [List.mem_cons, not_or] at htext
      rw [split, if_neg (Ne.symm htext.1), ih htext.2]

theorem split_append_separator (separator : Char) (piece rest : List Char) (hpiece : separator ∉ piece) :
    split separator (piece ++ separator :: rest) = piece :: split separator rest := by
  rw [split_append, split_of_not_mem separator piece hpiece, List.singleton_append]

theorem not_mem_of_mem_split {separator : Char} {text piece : List Char}
    (hpiece : piece ∈ split separator text) : separator ∉ piece := by
  induction text generalizing piece with
  | nil =>
      rw [split, List.mem_singleton] at hpiece
      simp [hpiece]
  | cons c text ih =>
      rw [split] at hpiece
      split at hpiece
      · rcases List.mem_cons.mp hpiece with rfl | htail
        · simp
        · exact ih htail
      · next hc =>
        split at hpiece
        · next hnil => exact absurd hnil (split_ne_nil separator text)
        · next first others hsplit =>
          rw [hsplit] at ih
          rcases List.mem_cons.mp hpiece with rfl | htail
          · have hfirst := ih List.mem_cons_self
            rw [List.mem_cons, not_or]
            exact ⟨Ne.symm hc, hfirst⟩
          · exact ih (List.mem_cons_of_mem _ htail)

/-- Splitting undoes joining. -/
theorem split_intercalate (separator : Char) (pieces : List (List Char)) (hne : pieces ≠ [])
    (hpieces : ∀ piece ∈ pieces, separator ∉ piece) :
    split separator ([separator].intercalate pieces) = pieces := by
  induction pieces with
  | nil => exact absurd rfl hne
  | cons piece pieces ih =>
      have hpiece := hpieces piece List.mem_cons_self
      cases pieces with
      | nil => simpa using split_of_not_mem separator piece hpiece
      | cons next others =>
          rw [List.intercalate_cons_cons, List.append_assoc, List.singleton_append,
            split_append_separator separator piece _ hpiece,
            ih (by simp) fun other hother => hpieces other (List.mem_cons_of_mem _ hother)]

/-- Joining undoes splitting. -/
theorem intercalate_split (separator : Char) (text : List Char) :
    [separator].intercalate (split separator text) = text := by
  induction text with
  | nil => rfl
  | cons c text ih =>
      obtain ⟨piece, pieces, hsplit⟩ := List.exists_cons_of_ne_nil (split_ne_nil separator text)
      rw [hsplit] at ih
      rw [split]
      split
      · next hc =>
        rw [hsplit, List.intercalate_cons_cons, ih, hc]
        rfl
      · rw [hsplit, ← ih]
        cases pieces with
        | nil => simp
        | cons next others => rw [List.intercalate_cons_cons, List.intercalate_cons_cons]; rfl

/-- A joined text is made of separators and of its pieces. -/
theorem mem_intercalate {separator c : Char} {pieces : List (List Char)} (hc : c ∈ [separator].intercalate pieces) :
    c = separator ∨ ∃ piece ∈ pieces, c ∈ piece := by
  induction pieces with
  | nil => cases hc
  | cons piece pieces ih =>
      cases pieces with
      | nil => exact .inr ⟨piece, List.mem_cons_self, by simpa using hc⟩
      | cons next others =>
          rw [List.intercalate_cons_cons, List.append_assoc, List.mem_append, List.mem_append] at hc
          rcases hc with hpiece | hseparator | hothers
          · exact .inr ⟨piece, List.mem_cons_self, hpiece⟩
          · exact .inl (List.mem_singleton.mp hseparator)
          · refine (ih hothers).imp_right fun ⟨other, hother, hmem⟩ => ?_
            exact ⟨other, List.mem_cons_of_mem _ hother, hmem⟩

theorem mem_intercalate_of_mem {separator c : Char} {piece : List Char} {pieces : List (List Char)}
    (hpiece : piece ∈ pieces) (hc : c ∈ piece) : c ∈ [separator].intercalate pieces := by
  induction pieces with
  | nil => cases hpiece
  | cons first pieces ih =>
      cases pieces with
      | nil => simpa [← List.mem_singleton.mp hpiece] using hc
      | cons next others =>
          rw [List.intercalate_cons_cons, List.append_assoc, List.mem_append, List.mem_append]
          rcases List.mem_cons.mp hpiece with rfl | htail
          · exact .inl hc
          · exact .inr (.inr (ih htail))

/-- Splitting makes up no characters. -/
theorem mem_of_mem_split {separator c : Char} {text piece : List Char} (hpiece : piece ∈ split separator text)
    (hc : c ∈ piece) : c ∈ text := by
  have hjoined : c ∈ [separator].intercalate (split separator text) := mem_intercalate_of_mem hpiece hc
  rwa [intercalate_split] at hjoined

/-- Nothing is cut off a text without the mark. -/
theorem before_of_not_mem {mark : Char} {text : List Char} (htext : mark ∉ text) : before mark text = text := by
  have hall : ∀ c ∈ text, decide (c ≠ mark) = true := by
    intro c hc
    exact decide_eq_true fun heq => htext (heq ▸ hc)
  have htake : (text ++ []).takeWhile (· ≠ mark) = text ++ [].takeWhile (· ≠ mark) :=
    List.takeWhile_append_of_pos hall
  rwa [List.append_nil, List.takeWhile_nil, List.append_nil] at htake

theorem dropStart?_append (start rest : List Char) : dropStart? start (start ++ rest) = some rest :=
  List.isPrefixOf?_eq_some_iff_append_eq.mpr rfl

end SassBridge.Text
