import SassBridge.Proofs.Value.Entries
import SassBridge.Value.Conversion

/-! What a conversion consists of, and when it succeeds: everything in the value has to be of the family converted
from, with separators that both families know, and toward the compiler every alpha has to be in its range. -/

namespace SassBridge

/-- Whether a separator is one of those of a family that the other one has as well. -/
def Separator.isOf : Side → Option String → Bool
  | .legacy, separator => separator == some "comma" || separator == some "space"
  | .compiler, separator => separator == some "," || separator == some " "

theorem Separator.exists_toCompiler_iff {separator : Option String} :
    (∃ converted, toCompiler? separator = some converted) ↔ isOf .legacy separator = true := by
  unfold toCompiler?
  split <;> simp_all [isOf]

theorem Separator.exists_toLegacy_iff {separator : Option String} :
    (∃ converted, toLegacy? separator = some converted) ↔ isOf .compiler separator = true := by
  unfold toLegacy?
  split <;> simp_all [isOf]

theorem Separator.isOf_toCompiler {separator : Option String} {mark : String}
    (h : toCompiler? separator = some mark) : isOf .compiler (some mark) = true := by
  unfold toCompiler? at h
  split at h <;> cases h <;> rfl

theorem Separator.isOf_toLegacy {separator : Option String} {mark : String}
    (h : toLegacy? separator = some mark) : isOf .legacy (some mark) = true := by
  unfold toLegacy? at h
  split at h <;> cases h <;> rfl

theorem Separator.toLegacy_eq_iff {first second : Option String} (hfirst : isOf .compiler first = true)
    (hsecond : isOf .compiler second = true) : toLegacy? first = toLegacy? second ↔ first = second := by
  simp only [isOf, Bool.or_eq_true, beq_iff_eq] at hfirst hsecond
  rcases hfirst with rfl | rfl <;> rcases hsecond with rfl | rfl <;> simp [toLegacy?]

namespace Atom

/-- The range that the alpha of a color of the compiler has to be in. -/
def alphaInRange : Atom → Bool
  | color _ value => value.alpha.inUnitInterval
  | _ => true

theorem exists_toCompiler_iff {value : Atom} :
    (∃ converted, value.toCompiler = .ok converted) ↔ (value.isOf .legacy && value.alphaInRange) = true := by
  cases value with
  | color side color =>
      cases side with
      | legacy =>
          by_cases halpha : color.alpha.inUnitInterval = true
          · simp [toCompiler, Color.checkAlpha, halpha, isOf, alphaInRange]
          · simp [toCompiler, Color.checkAlpha, halpha, isOf, alphaInRange]
      | compiler => simp [toCompiler, isOf]
  | legacyString text type => simp [toCompiler, isOf, alphaInRange]
  | compilerString text quoted => simp [toCompiler, isOf]
  | foreign typeName => simp [toCompiler, isOf]
  | _ side => cases side <;> simp [toCompiler, isOf, alphaInRange]

theorem exists_toLegacy_iff {value : Atom} :
    (∃ converted, value.toLegacy = .ok converted) ↔ value.isOf .compiler = true := by
  cases value with
  | legacyString text type => simp [toLegacy, isOf]
  | compilerString text quoted => simp [toLegacy, isOf]
  | foreign typeName => simp [toLegacy, isOf]
  | _ side => cases side <;> simp [toLegacy, isOf]

/-- What atoms convert to, kind by kind. -/
theorem toCompiler_cases {value part : Atom} (h : value.toCompiler = .ok part) :
    (value = null .legacy ∧ part = null .compiler) ∨
    (∃ truth, value = bool .legacy truth ∧ part = bool .compiler truth) ∨
    (∃ own, own.alpha.inUnitInterval = true ∧ value = color .legacy own ∧ part = color .compiler own) ∨
    (∃ own, value = number .legacy own ∧ part = number .compiler own) ∨
    ∃ text type, value = legacyString text type ∧ part = compilerString text (type ≠ Value.identifierType) := by
  unfold toCompiler at h
  split at h
  · exact Or.inl ⟨rfl, (Except.ok.inj h).symm⟩
  · exact Or.inr (Or.inl ⟨_, rfl, (Except.ok.inj h).symm⟩)
  · next own =>
    rw [Lists.return_ok_iff] at h
    obtain ⟨checked, hchecked, rfl⟩ := h
    rw [Color.checkAlpha] at hchecked
    by_cases halpha : own.alpha.inUnitInterval = true
    · rw [if_pos halpha] at hchecked
      exact Or.inr (Or.inr (Or.inl ⟨own, halpha, rfl, by rw [Except.ok.inj hchecked]⟩))
    · rw [if_neg halpha] at hchecked
      cases hchecked
  · exact Or.inr (Or.inr (Or.inr (Or.inl ⟨_, rfl, (Except.ok.inj h).symm⟩)))
  · exact Or.inr (Or.inr (Or.inr (Or.inr ⟨_, _, rfl, (Except.ok.inj h).symm⟩)))
  · cases h

theorem toLegacy_cases {value part : Atom} (h : value.toLegacy = .ok part) :
    (value = null .compiler ∧ part = null .legacy) ∨
    (∃ truth, value = bool .compiler truth ∧ part = bool .legacy truth) ∨
    (∃ own, value = color .compiler own ∧ part = color .legacy own) ∨
    (∃ own, value = number .compiler own ∧ part = number .legacy own) ∨
    ∃ text quoted, value = compilerString text quoted ∧
      part = legacyString text (if quoted then Value.stringType else Value.identifierType) := by
  unfold toLegacy at h
  split at h
  · exact Or.inl ⟨rfl, (Except.ok.inj h).symm⟩
  · exact Or.inr (Or.inl ⟨_, rfl, (Except.ok.inj h).symm⟩)
  · exact Or.inr (Or.inr (Or.inl ⟨_, rfl, (Except.ok.inj h).symm⟩))
  · exact Or.inr (Or.inr (Or.inr (Or.inl ⟨_, rfl, (Except.ok.inj h).symm⟩)))
  · exact Or.inr (Or.inr (Or.inr (Or.inr ⟨_, _, rfl, (Except.ok.inj h).symm⟩)))
  · cases h

end Atom

namespace Value

variable {side : Side} {elements : List Value} {separator : Option String} {bracketed : Datum}
  {entries : List (Value × Value)} {converted : Value}

theorem pair_ok_iff {convert : Value → Except Failure Value} {entry pair : Value × Value} :
    (do return (← convert entry.1, ← convert entry.2)) = Except.ok pair ↔
      convert entry.1 = .ok pair.1 ∧ convert entry.2 = .ok pair.2 := by
  simp only [Lists.bind_ok_iff]
  constructor
  · rintro ⟨key, hkey, value, hvalue, hpair⟩
    rw [← Except.ok.inj hpair]
    exact ⟨hkey, hvalue⟩
  · rintro ⟨hkey, hvalue⟩
    exact ⟨pair.1, hkey, pair.2, hvalue, rfl⟩

theorem toCompiler_atom_iff {value : Atom} :
    (atom value).toCompiler = .ok converted ↔ ∃ part, value.toCompiler = .ok part ∧ converted = atom part := by
  rw [toCompiler_atom, Lists.return_ok_iff]

theorem toCompiler_list_iff :
    (list side elements separator bracketed).toCompiler = .ok converted ↔
      side = .legacy ∧ ∃ mark, Separator.toCompiler? separator = some mark ∧
        ∃ parts, List.Forall₂ (fun element part => element.toCompiler = .ok part) elements parts ∧
          converted = list .compiler parts (some mark) (.bool bracketed.isTrue) := by
  cases side with
  | compiler => simp [toCompiler]
  | legacy =>
      rw [toCompiler]
      split
      · next mark hmark =>
        rw [elementsToCompiler_eq, Lists.return_ok_iff]
        simp only [Lists.mapM_ok_iff, hmark, true_and, Option.some.injEq, exists_eq_left']
      · next hnone => simp [hnone]

theorem toCompiler_map_iff :
    (map side entries).toCompiler = .ok converted ↔
      side = .legacy ∧ ∃ pairs, List.Forall₂ (fun entry pair : Value × Value =>
        entry.1.toCompiler = .ok pair.1 ∧ entry.2.toCompiler = .ok pair.2) entries pairs ∧
        converted = map .compiler (entriesOf pairs) := by
  cases side with
  | compiler => simp [toCompiler]
  | legacy =>
      rw [toCompiler, entriesToCompiler_eq, Lists.return_ok_iff]
      simp only [Lists.mapM_ok_iff, pair_ok_iff, true_and]

theorem toLegacy_atom_iff {value : Atom} :
    (atom value).toLegacy = .ok converted ↔ ∃ part, value.toLegacy = .ok part ∧ converted = atom part := by
  rw [toLegacy_atom, Lists.return_ok_iff]

theorem toLegacy_list_iff :
    (list side elements separator bracketed).toLegacy = .ok converted ↔
      side = .compiler ∧ ∃ mark, Separator.toLegacy? separator = some mark ∧
        ∃ parts, List.Forall₂ (fun element part => element.toLegacy = .ok part) elements parts ∧
          converted = list .legacy parts (some mark) bracketed := by
  cases side with
  | legacy => simp [toLegacy]
  | compiler =>
      rw [toLegacy]
      split
      · next mark hmark =>
        rw [elementsToLegacy_eq, Lists.return_ok_iff]
        simp only [Lists.mapM_ok_iff, hmark, true_and, Option.some.injEq, exists_eq_left']
      · next hnone => simp [hnone]

theorem toLegacy_map_iff :
    (map side entries).toLegacy = .ok converted ↔
      side = .compiler ∧ ∃ pairs, List.Forall₂ (fun entry pair : Value × Value =>
        entry.1.toLegacy = .ok pair.1 ∧ entry.2.toLegacy = .ok pair.2) entries pairs ∧
        converted = map .legacy (entriesOf pairs) := by
  cases side with
  | legacy => simp [toLegacy]
  | compiler =>
      rw [toLegacy, entriesToLegacy_eq, Lists.return_ok_iff]
      simp only [Lists.mapM_ok_iff, pair_ok_iff, true_and]

/-- Whether a value itself is of a family and, as a list, has a separator that can be converted. What it holds is not
looked at. -/
def isOf (side : Side) : Value → Bool
  | atom value => value.isOf side
  | list own _ separator _ => own == side && Separator.isOf side separator
  | map own _ => own == side

def alphaInRange : Value → Bool
  | atom value => value.alphaInRange
  | _ => true

theorem exists_toCompiler_list_iff :
    (∃ converted, (list side elements separator bracketed).toCompiler = .ok converted) ↔
      (side = .legacy ∧ ∃ mark, Separator.toCompiler? separator = some mark) ∧
        ∀ element ∈ elements, ∃ part, element.toCompiler = .ok part := by
  rw [← Lists.exists_forall₂_iff]
  constructor
  · rintro ⟨converted, hconverted⟩
    obtain ⟨hside, mark, hmark, parts, hparts, -⟩ := toCompiler_list_iff.mp hconverted
    exact ⟨⟨hside, mark, hmark⟩, parts, hparts⟩
  · rintro ⟨⟨hside, mark, hmark⟩, parts, hparts⟩
    exact ⟨_, toCompiler_list_iff.mpr ⟨hside, mark, hmark, parts, hparts, rfl⟩⟩

theorem exists_toCompiler_map_iff :
    (∃ converted, (map side entries).toCompiler = .ok converted) ↔
      side = .legacy ∧ ∀ entry ∈ entries,
        (∃ key, entry.1.toCompiler = .ok key) ∧ ∃ value, entry.2.toCompiler = .ok value := by
  have hpair : ∀ entry : Value × Value,
      (∃ pair : Value × Value, entry.1.toCompiler = .ok pair.1 ∧ entry.2.toCompiler = .ok pair.2) ↔
        (∃ key, entry.1.toCompiler = .ok key) ∧ ∃ value, entry.2.toCompiler = .ok value := by
    simp [Prod.exists]
  simp only [← hpair, ← Lists.exists_forall₂_iff]
  constructor
  · rintro ⟨converted, hconverted⟩
    obtain ⟨hside, pairs, hpairs, -⟩ := toCompiler_map_iff.mp hconverted
    exact ⟨hside, pairs, hpairs⟩
  · rintro ⟨hside, pairs, hpairs⟩
    exact ⟨_, toCompiler_map_iff.mpr ⟨hside, pairs, hpairs, rfl⟩⟩

theorem exists_toCompiler_iff {value : Value} :
    (∃ converted, value.toCompiler = .ok converted) ↔
      value.everywhere (isOf .legacy) = true ∧ value.everywhere alphaInRange = true := by
  rw [← everywhere_and]
  induction value using Value.induction with
  | atom value =>
      rw [everywhere_atom, isOf, alphaInRange, ← Atom.exists_toCompiler_iff]
      simp [toCompiler_atom_iff]
  | list side elements separator bracketed ih =>
      rw [exists_toCompiler_list_iff, everywhere_list_iff, Separator.exists_toCompiler_iff]
      refine and_congr ?_ (forall₂_congr ih)
      simp [isOf, alphaInRange]
  | map side entries ih =>
      rw [exists_toCompiler_map_iff, everywhere_map_iff]
      refine and_congr ?_ (forall₂_congr fun entry hmem => and_congr (ih entry hmem).1 (ih entry hmem).2)
      simp [isOf, alphaInRange]

end Value

end SassBridge
