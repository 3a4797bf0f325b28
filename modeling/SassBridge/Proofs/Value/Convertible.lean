import SassBridge.Proofs.Number.Exact
import SassBridge.Proofs.Value.Refusal

/-! When conversions succeed. All parts of the value have to be of the family that is converted from, every list among
them has to have a separator that both families know, and toward the compiler the alpha of every color has to be between
zero and one. One part that is not so, at whatever depth, is enough for a failure. -/

namespace SassBridge.Value

variable {value part : Value}

/-- A part that is converted toward the compiler. -/
theorem refusal?_legacy_eq_none_iff : part.refusal? .legacy = none ↔
    part.family? = some .legacy ∧
    (∀ elements separator bracketed, part = list .legacy elements separator bracketed →
      separator = some "comma" ∨ separator = some "space") ∧
    ∀ color, part = atom (.color .legacy color) →
      ∃ alpha, color.alpha.rational? = some alpha ∧ 0 ≤ alpha ∧ alpha ≤ 1 := by
  by_cases hfamily : part.family? = some .legacy
  · rw [and_iff_right hfamily]
    cases part with
    | atom value =>
        cases value with
        | color own color =>
            obtain rfl : own = .legacy := Option.some.inj hfamily
            rw [refusal?_color]
            simp [Numeral.inUnitInterval_iff]
        | _ => simp [refusal?, hfamily]
    | list own elements separator bracketed =>
        obtain rfl : own = .legacy := Option.some.inj hfamily
        rw [refusal?_list]
        simp [Separator.isOf, or_iff_not_imp_left]
    | map own entries => simp [refusal?, hfamily]
  · simp [refusal?, hfamily]

/-- A part that is converted toward the legacy family. Of colors nothing is asked. -/
theorem refusal?_compiler_eq_none_iff : part.refusal? .compiler = none ↔
    part.family? = some .compiler ∧
    ∀ elements separator bracketed, part = list .compiler elements separator bracketed →
      separator = some "," ∨ separator = some " " := by
  by_cases hfamily : part.family? = some .compiler
  · rw [and_iff_right hfamily]
    cases part with
    | atom value => simp [refusal?, hfamily]
    | list own elements separator bracketed =>
        obtain rfl : own = .compiler := Option.some.inj hfamily
        rw [refusal?_list]
        simp [Separator.isOf, or_iff_not_imp_left]
    | map own entries => simp [refusal?, hfamily]
  · simp [refusal?, hfamily]

theorem exists_toCompiler_iff_forall : (∃ converted, value.toCompiler = .ok converted) ↔
    ∀ part ∈ value.parts, part.refusal? .legacy = none := by
  rw [Lists.exists_ok_iff, failure?_toCompiler, List.findSome?_eq_none_iff]

theorem exists_toLegacy_iff_forall : (∃ converted, value.toLegacy = .ok converted) ↔
    ∀ part ∈ value.parts, part.refusal? .compiler = none := by
  rw [Lists.exists_ok_iff, failure?_toLegacy, List.findSome?_eq_none_iff]

/-- A value converts exactly if all its parts can be converted by themselves: they are of the family that is converted
from, the lists among them have a separator of both families, and toward the compiler the alphas of the colors are
between zero and one. So a part of the other family is never converted along with the rest. -/
theorem converts_iff (value : Value) :
    ((∃ converted, value.toCompiler = .ok converted) ↔ ∀ part ∈ value.parts,
      part.family? = some .legacy ∧
      (∀ elements separator bracketed, part = list .legacy elements separator bracketed →
        separator = some "comma" ∨ separator = some "space") ∧
      ∀ color, part = atom (.color .legacy color) →
        ∃ alpha, color.alpha.rational? = some alpha ∧ 0 ≤ alpha ∧ alpha ≤ 1) ∧
    ((∃ converted, value.toLegacy = .ok converted) ↔ ∀ part ∈ value.parts,
      part.family? = some .compiler ∧
      ∀ elements separator bracketed, part = list .compiler elements separator bracketed →
        separator = some "," ∨ separator = some " ") ∧
    ∀ part ∈ value.parts,
      (part.family? = some .compiler → ∃ failure, value.toCompiler = .error failure) ∧
      (part.family? = some .legacy → ∃ failure, value.toLegacy = .error failure) := by
  have hcompiler := (@exists_toCompiler_iff_forall value).trans
    (forall₂_congr fun _ _ => refusal?_legacy_eq_none_iff)
  have hlegacy := (@exists_toLegacy_iff_forall value).trans
    (forall₂_congr fun _ _ => refusal?_compiler_eq_none_iff)
  refine ⟨hcompiler, hlegacy, fun part hpart => ⟨fun hfamily => ?_, fun hfamily => ?_⟩⟩
  · cases hconverted : value.toCompiler with
    | error failure => exact ⟨failure, rfl⟩
    | ok converted =>
        have hother := (hcompiler.mp ⟨converted, hconverted⟩ part hpart).1
        rw [hfamily] at hother
        cases hother
  · cases hconverted : value.toLegacy with
    | error failure => exact ⟨failure, rfl⟩
    | ok converted =>
        have hother := (hlegacy.mp ⟨converted, hconverted⟩ part hpart).1
        rw [hfamily] at hother
        cases hother

/-- A map with a key that holds a number, and with a color that lets half of the light through. -/
def lamps (side : Side) : Value :=
  map .legacy
    [(list .legacy [atom (.legacyString "lamp" identifierType), atom (.number side ⟨.int 2, [], []⟩)] (some "comma")
        (.bool false),
      atom (.color .legacy ⟨.rgb (.int 255) (.int 255) (.int 0), .float (.finite false 1 1073)⟩))]

/-- The map is convertible, but not if the number in its key is of the other family. -/
theorem converts_iff_lamps :
    (∃ converted, (lamps .legacy).toCompiler = .ok converted) ∧
      (∃ failure, (lamps .compiler).toCompiler = .error failure) ∧
      ∃ failure, (lamps .compiler).toLegacy = .error failure := by
  have hparts : ∀ side, (lamps side).parts =
      [lamps side,
        list .legacy [atom (.legacyString "lamp" identifierType), atom (.number side ⟨.int 2, [], []⟩)] (some "comma")
          (.bool false),
        atom (.legacyString "lamp" identifierType), atom (.number side ⟨.int 2, [], []⟩),
        atom (.color .legacy ⟨.rgb (.int 255) (.int 255) (.int 0), .float (.finite false 1 1073)⟩)] := fun _ => rfl
  have hhalf : ∃ alpha, Numeral.rational? (.float (.finite false 1 1073)) = some alpha ∧ 0 ≤ alpha ∧ alpha ≤ 1 :=
    (Numeral.inUnitInterval_iff _).mp (by decide +kernel)
  refine ⟨(converts_iff _).1.mpr ?_, ?_, ?_⟩
  · rw [hparts]
    simp [lamps, family?, Atom.family?, hhalf]
  · have hnumber : atom (.number .compiler ⟨.int 2, [], []⟩) ∈ (lamps .compiler).parts := by simp [hparts]
    exact ((converts_iff _).2.2 _ hnumber).1 rfl
  · have hwhole : lamps .compiler ∈ (lamps .compiler).parts := by simp [hparts]
    exact ((converts_iff _).2.2 _ hwhole).2 rfl

end SassBridge.Value
