import Mathlib.Data.List.Chain
import SassBridge.Proofs.Text.Split

/-! Occurrences of one text in another: cutting at the last one, and texts in which two characters never follow one
another. -/

namespace SassBridge.Text

theorem occurs_iff {needle text : List Char} : occurs needle text = true ↔ needle <:+: text := by
  induction text with
  | nil => rw [occurs, List.isEmpty_iff, List.infix_nil]
  | cons c rest ih => rw [occurs, Bool.or_eq_true, List.isPrefixOf_iff_prefix, ih, List.infix_cons_iff]

/-- What stands before the last occurrence of a mark, and what follows it. -/
def cutLast? (mark : List Char) : List Char → Option (List Char × List Char)
  | [] => (dropStart? mark []).map ([], ·)
  | c :: rest =>
    match cutLast? mark rest with
    | some (before, after) => some (c :: before, after)
    | none => (dropStart? mark (c :: rest)).map ([], ·)

theorem dropStart?_eq_some_iff {start text rest : List Char} :
    dropStart? start text = some rest ↔ text = start ++ rest := by
  rw [dropStart?, List.isPrefixOf?_eq_some_iff_append_eq, eq_comm]

theorem exists_cutLast? (mark other rest : List Char) :
    ∃ found, cutLast? mark (other ++ mark ++ rest) = some found := by
  induction other with
  | nil =>
      rw [List.nil_append]
      have hstart := dropStart?_append mark rest
      cases htext : mark ++ rest with
      | nil =>
          rw [htext] at hstart
          exact ⟨([], rest), by rw [cutLast?, hstart]; rfl⟩
      | cons c tail =>
          rw [htext] at hstart
          rw [cutLast?, hstart]
          split
          · exact ⟨_, rfl⟩
          · exact ⟨_, rfl⟩
  | cons c other ih =>
      obtain ⟨found, hfound⟩ := ih
      exact ⟨(c :: found.1, found.2), by rw [List.cons_append, List.cons_append, cutLast?, hfound]⟩

theorem cutLast?_spec {mark text before after : List Char} (hcut : cutLast? mark text = some (before, after)) :
    text = before ++ mark ++ after ∧ ∀ other rest, text = other ++ mark ++ rest → other.length ≤ before.length := by
  induction text generalizing before with
  | nil =>
      simp only [cutLast?, Option.map_eq_some_iff, dropStart?_eq_some_iff, Prod.mk.injEq] at hcut
      obtain ⟨rest, htext, rfl, rfl⟩ := hcut
      refine ⟨htext, fun other rest hother => ?_⟩
      simp_all
  | cons c tail ih =>
      rw [cutLast?] at hcut
      split at hcut
      · next later last hlater =>
        obtain ⟨rfl, rfl⟩ := Prod.mk.inj (Option.some.inj hcut)
        obtain ⟨htail, hlast⟩ := ih hlater
        refine ⟨by rw [htail]; rfl, fun other rest hother => ?_⟩
        cases other with
        | nil => exact Nat.zero_le _
        | cons d other =>
            rw [List.cons_append, List.cons_append, List.cons.injEq] at hother
            exact Nat.succ_le_succ (hlast other rest hother.2)
      · next hnone =>
        simp only [Option.map_eq_some_iff, dropStart?_eq_some_iff, Prod.mk.injEq] at hcut
        obtain ⟨rest, htext, rfl, rfl⟩ := hcut
        refine ⟨htext, fun other rest hother => ?_⟩
        cases other with
        | nil => exact Nat.le_refl _
        | cons d other =>
            rw [List.cons_append, List.cons_append, List.cons.injEq] at hother
            obtain ⟨found, hfound⟩ := exists_cutLast? mark other rest
            rw [← hother.2, hnone] at hfound
            cases hfound

/-- No other occurrence begins later than the one that is cut at. -/
theorem cutLast?_eq_some_iff {mark text before after : List Char} :
    cutLast? mark text = some (before, after) ↔
      text = before ++ mark ++ after ∧
        ∀ other rest, text = other ++ mark ++ rest → other.length ≤ before.length := by
  refine ⟨cutLast?_spec, fun ⟨htext, hlast⟩ => ?_⟩
  obtain ⟨⟨found, rest⟩, hcut⟩ := exists_cutLast? mark before after
  rw [← htext] at hcut
  obtain ⟨htext', hlast'⟩ := cutLast?_spec hcut
  have hlength : before.length = found.length :=
    Nat.le_antisymm (hlast' before after htext) (hlast found rest htext')
  have hsame := htext.symm.trans htext'
  rw [List.append_assoc, List.append_assoc] at hsame
  obtain ⟨hbefore, hafter⟩ := List.append_inj hsame hlength
  rw [hcut, hbefore, List.append_cancel_left hafter]

/-- A mark that begins with a character that does not come again is cut off at its place. -/
theorem cutLast?_append {c : Char} {mark after : List Char} (hmark : c ∉ mark) (hafter : c ∉ after)
    (before : List Char) : cutLast? (c :: mark) (before ++ c :: (mark ++ after)) = some (before, after) := by
  refine cutLast?_eq_some_iff.mpr ⟨by simp, fun other rest hother => ?_⟩
  rw [List.append_assoc, List.cons_append, List.append_eq_append_iff] at hother
  rcases hother with ⟨more, rfl, hmore⟩ | ⟨more, rfl, -⟩
  · cases more with
    | nil => simp
    | cons d more =>
        have hmem : c ∈ mark ++ after := by
          rw [(List.cons.inj hmore).2]
          simp
        exact absurd (List.mem_append.mp hmem) (not_or.mpr ⟨hmark, hafter⟩)
  · simp

/-- Whether the second of two characters never follows the first. -/
def Parted (first second : Char) (text : List Char) : Prop :=
  text.IsChain fun c next => ¬ (c = first ∧ next = second)

section Parted

variable {first second : Char} {text rest : List Char}

theorem parted_iff : Parted first second text ↔ ¬ [first, second] <:+: text := by
  rw [Parted, List.isChain_iff_forall_rel_of_append_cons_cons]
  constructor
  · rintro hparted ⟨before, after, htext⟩
    exact hparted (by simpa using htext.symm) ⟨rfl, rfl⟩
  · rintro hparted c next before after htext ⟨rfl, rfl⟩
    exact hparted ⟨before, after, by simpa using htext.symm⟩

theorem parted_of_not_mem (htext : first ∉ text) : Parted first second text :=
  parted_iff.mpr fun hpair => htext (hpair.subset List.mem_cons_self)

theorem parted_append_iff :
    Parted first second (text ++ rest) ↔ Parted first second text ∧ Parted first second rest ∧
      ¬ (text.getLast? = some first ∧ rest.head? = some second) := by
  rw [Parted, List.isChain_append]
  refine and_congr_right fun _ => and_congr_right fun _ => ?_
  constructor
  · rintro hparted ⟨hlast, hhead⟩
    exact hparted _ hlast _ hhead ⟨rfl, rfl⟩
  · rintro hparted c hlast next hhead ⟨rfl, rfl⟩
    exact hparted ⟨hlast, hhead⟩

end Parted

end SassBridge.Text
