import SassBridge.Proofs.Value.RoundTrip

/-! What conversions refuse. A part of a value can be refused for itself, and a conversion fails with the refusal of the
first such part, in the order in which it comes to the parts. All refusals are failures of conversion but one: toward
the compiler, a color whose alpha is out of range is refused by the check of the color. What keys convert to can be
keys again, so that nothing else fails while a map is rebuilt. -/

namespace SassBridge

namespace Separator

variable (separator : Option String)

theorem isSome_toCompiler? : (toCompiler? separator).isSome = isOf .legacy separator := by
  rw [Bool.eq_iff_iff, Option.isSome_iff_exists, exists_toCompiler_iff]

theorem isSome_toLegacy? : (toLegacy? separator).isSome = isOf .compiler separator := by
  rw [Bool.eq_iff_iff, Option.isSome_iff_exists, exists_toLegacy_iff]

end Separator

/-- The family that an atom belongs to, if it is a script value. -/
def Atom.family? : Atom → Option Side
  | null own | bool own _ | color own _ | number own _ => some own
  | legacyString _ _ => some .legacy
  | compilerString _ _ => some .compiler
  | foreign _ => none

def Side.other : Side → Side
  | legacy => compiler
  | compiler => legacy

namespace Value

mutual

/-- The parts of a value in the order in which a conversion comes to them: a value before what it holds, elements from
left to right, and each key before its value. -/
def parts : Value → List Value
  | atom value => [atom value]
  | list side elements separator bracketed => list side elements separator bracketed :: elementParts elements
  | map side entries => map side entries :: entryParts entries

def elementParts : List Value → List Value
  | [] => []
  | element :: rest => parts element ++ elementParts rest

def entryParts : List (Value × Value) → List Value
  | [] => []
  | (key, value) :: rest => parts key ++ parts value ++ entryParts rest

end

def family? : Value → Option Side
  | atom value => value.family?
  | list own _ _ _ | map own _ => some own

/-- Why a conversion from a family refuses a part for itself, whatever it holds: it is not of the family, it is a list
with a separator that the other family does not have, or, toward the compiler, a color whose alpha is out of range. -/
def refusal? (source : Side) (part : Value) : Option Failure :=
  if part.family? = some source then
    match source, part with
    | _, list _ _ separator _ => if Separator.isOf source separator then none else some (.separator separator)
    | .legacy, atom (.color _ color) =>
      if color.alpha.inUnitInterval then none else some (.alphaRange color.alpha)
    | _, _ => none
  else some (.unconvertible part.typeName source.other)

/-- The first part that is refused. -/
def firstRefused? (source : Side) (value : Value) : Option Value :=
  value.parts.find? fun part => (part.refusal? source).isSome

variable {side : Side} {elements : List Value} {separator : Option String} {bracketed : Datum}
  {entries : List (Value × Value)}

theorem parts_list : (list side elements separator bracketed).parts =
    list side elements separator bracketed :: elements.flatMap parts := by
  have helements : elementParts elements = elements.flatMap parts := by
    induction elements with
    | nil => rfl
    | cons element elements ih => rw [elementParts, ih, List.flatMap_cons]
  rw [parts, helements]

theorem parts_map : (map side entries).parts =
    map side entries :: entries.flatMap fun entry => entry.1.parts ++ entry.2.parts := by
  have hentries : entryParts entries = entries.flatMap fun entry => entry.1.parts ++ entry.2.parts := by
    induction entries with
    | nil => rfl
    | cons entry entries ih => rw [entryParts, ih, List.flatMap_cons]
  rw [parts, hentries]

/-- A conversion that refuses each part for itself, and then goes through what the part holds from left to right, fails
with the first refusal. -/
theorem failure?_eq_findSome? {convert : Value → Except Failure Value} {refuses : Value → Option Failure}
    (hatom : ∀ value, Lists.failure? (convert (atom value)) = refuses (atom value))
    (hlist : ∀ side elements separator bracketed,
      Lists.failure? (convert (list side elements separator bracketed)) =
        (refuses (list side elements separator bracketed)).or
          (elements.findSome? fun element => Lists.failure? (convert element)))
    (hmap : ∀ side entries, Lists.failure? (convert (map side entries)) =
      (refuses (map side entries)).or
        (entries.findSome? fun entry => (Lists.failure? (convert entry.1)).or (Lists.failure? (convert entry.2))))
    (value : Value) : Lists.failure? (convert value) = value.parts.findSome? refuses := by
  have hcons : ∀ (part : Value) (rest : List Value),
      (part :: rest).findSome? refuses = (refuses part).or (rest.findSome? refuses) := by
    intro part rest
    rw [List.findSome?_cons]
    cases refuses part <;> rfl
  induction value using Value.induction with
  | atom value => rw [hatom, parts, hcons, List.findSome?_nil, Option.or_none]
  | list side elements separator bracketed ih =>
      rw [hlist, parts_list, hcons, Lists.findSome?_flatMap, Lists.findSome?_congr ih]
  | map side entries ih =>
      have hentry : ∀ entry ∈ entries,
          (Lists.failure? (convert entry.1)).or (Lists.failure? (convert entry.2)) =
            (entry.1.parts ++ entry.2.parts).findSome? refuses := by
        intro entry hmem
        rw [List.findSome?_append, (ih entry hmem).1, (ih entry hmem).2]
      rw [hmap, parts_map, hcons, Lists.findSome?_flatMap, Lists.findSome?_congr hentry]

theorem refusal?_list (source : Side) : (list source elements separator bracketed).refusal? source =
    if Separator.isOf source separator then none else some (.separator separator) :=
  if_pos rfl

theorem refusal?_color (color : Color) : (atom (.color .legacy color)).refusal? .legacy =
    if color.alpha.inUnitInterval then none else some (.alphaRange color.alpha) :=
  if_pos rfl

theorem failure?_toCompiler (value : Value) :
    Lists.failure? value.toCompiler = value.parts.findSome? (refusal? .legacy) := by
  refine failure?_eq_findSome? ?_ ?_ ?_ value
  · intro value
    rw [toCompiler_atom, Lists.failure?_return]
    cases value with
    | color own color =>
        cases own with
        | legacy =>
            rw [Atom.toCompiler, Lists.failure?_return, Color.checkAlpha, refusal?_color]
            cases color.alpha.inUnitInterval <;> rfl
        | compiler => rfl
    | legacyString text type => rfl
    | compilerString text quoted => rfl
    | foreign typeName => rfl
    | _ own => cases own <;> rfl
  · intro side elements separator bracketed
    cases side with
    | compiler => rfl
    | legacy =>
        rw [toCompiler, refusal?_list, ← Separator.isSome_toCompiler?, elementsToCompiler_eq]
        cases Separator.toCompiler? separator with
        | none => rfl
        | some mark => exact (Lists.failure?_return _ _).trans (Lists.failure?_mapM toCompiler elements)
  · intro side entries
    cases side with
    | compiler => rfl
    | legacy =>
        rw [toCompiler, entriesToCompiler_eq, Lists.failure?_return, Lists.failure?_mapM]
        simp only [Lists.failure?_pair]
        rfl

theorem failure?_toLegacy (value : Value) :
    Lists.failure? value.toLegacy = value.parts.findSome? (refusal? .compiler) := by
  refine failure?_eq_findSome? ?_ ?_ ?_ value
  · intro value
    rw [toLegacy_atom, Lists.failure?_return]
    cases value with
    | legacyString text type => rfl
    | compilerString text quoted => rfl
    | foreign typeName => rfl
    | _ own => cases own <;> rfl
  · intro side elements separator bracketed
    cases side with
    | legacy => rfl
    | compiler =>
        rw [toLegacy, refusal?_list, ← Separator.isSome_toLegacy?, elementsToLegacy_eq]
        cases Separator.toLegacy? separator with
        | none => rfl
        | some mark => exact (Lists.failure?_return _ _).trans (Lists.failure?_mapM toLegacy elements)
  · intro side entries
    cases side with
    | legacy => rfl
    | compiler =>
        rw [toLegacy, entriesToLegacy_eq, Lists.failure?_return, Lists.failure?_mapM]
        simp only [Lists.failure?_pair]
        rfl

section Kinds

variable {source : Side} {part : Value} {failure : Failure}

/-- A refusal is a failure of conversion, unless it is that of a color toward the compiler. -/
theorem kind_of_refusal? (hrefusal : part.refusal? source = some failure) :
    failure.kind = .valueConversion ∨ source = .legacy ∧ ∃ color, part = atom (.color .legacy color) ∧
      color.alpha.inUnitInterval = false ∧ failure = .alphaRange color.alpha := by
  unfold refusal? at hrefusal
  split at hrefusal
  · next hfamily =>
      split at hrefusal
      · split at hrefusal <;> cases hrefusal
        exact Or.inl rfl
      · next own color =>
          obtain rfl : own = .legacy := Option.some.inj hfamily
          split at hrefusal
          · cases hrefusal
          · next halpha =>
              cases hrefusal
              exact Or.inr ⟨rfl, color, rfl, Bool.eq_false_iff.mpr halpha, rfl⟩
      · cases hrefusal
  · cases hrefusal
    exact Or.inl rfl

end Kinds

/-! What keys convert to has a digest, so that it can be a key. -/

/-- Whether a part of a value has a digest, as far as that hangs on the part itself. -/
def isKey : Value → Bool
  | atom value => value.digest.isOk
  | list _ _ _ bracketed => bracketed.token.isOk
  | map _ _ => true

theorem exists_digest_iff {value : Value} :
    (∃ digest, value.digest = .ok digest) ↔ value.everywhere isKey = true := by
  have hisOk : ∀ {α : Type} (outcome : Except Failure α), (∃ a, outcome = .ok a) ↔ outcome.isOk = true := by
    intro α outcome
    cases outcome <;> simp [Except.isOk, Except.toBool]
  induction value using Value.induction with
  | atom value => rw [digest, Lists.exists_return_ok_iff, hisOk, everywhere_atom, isKey]
  | list side elements separator bracketed ih =>
      have helements : (∃ digests, digestElements elements = .ok digests) ↔
          ∀ element ∈ elements, ∃ digest, element.digest = .ok digest := by
        clear ih
        induction elements with
        | nil => simp [digestElements]
        | cons element elements ih =>
            rw [digestElements, List.forall_mem_cons, ← ih]
            exact Lists.exists_bind_ok_iff fun _ => Lists.exists_return_ok_iff
      rw [everywhere_list_iff, ← forall₂_congr ih, ← helements, isKey, ← hisOk, digest]
      exact (Lists.exists_bind_ok_iff fun _ => Lists.exists_return_ok_iff).trans and_comm
  | map side entries ih =>
      have hentries : (∃ digests, digestEntries entries = .ok digests) ↔
          ∀ entry ∈ entries, (∃ digest, entry.1.digest = .ok digest) ∧ ∃ digest, entry.2.digest = .ok digest := by
        clear ih
        induction entries with
        | nil => simp [digestEntries]
        | cons entry entries ih =>
            rw [digestEntries, List.forall_mem_cons, ← ih, and_assoc]
            exact Lists.exists_bind_ok_iff fun _ => Lists.exists_bind_ok_iff fun _ => Lists.exists_return_ok_iff
      have hall := forall₂_congr fun entry hmem => and_congr (ih entry hmem).1 (ih entry hmem).2
      rw [everywhere_map_iff, ← hall, ← hentries, digest, Lists.exists_return_ok_iff]
      exact (and_iff_right rfl).symm

/-- Whatever is converted to the compiler can be a key there: its brackets are truth values. -/
theorem exists_digest_toCompiler {value converted : Value} (hconverted : value.toCompiler = .ok converted) :
    ∃ digest, converted.digest = .ok digest := by
  rw [exists_digest_iff]
  refine everywhere_toCompiler ?_ ?_ ?_ hconverted
  · intro value part hpart
    rcases Atom.toCompiler_cases hpart with
      ⟨-, rfl⟩ | ⟨_, -, rfl⟩ | ⟨_, -, -, rfl⟩ | ⟨_, -, rfl⟩ | ⟨_, _, -, rfl⟩ <;> rfl
  · intro parts mark truth _
    rfl
  · intro entries _
    rfl

/-- A key of the compiler converts to a key. -/
theorem exists_digest_toLegacy {value converted : Value} (hkey : ∃ digest, value.digest = .ok digest)
    (hconverted : value.toLegacy = .ok converted) : ∃ digest, converted.digest = .ok digest := by
  rw [exists_digest_iff] at hkey ⊢
  induction value using Value.induction generalizing converted with
  | atom value =>
      obtain ⟨part, hpart, rfl⟩ := toLegacy_atom_iff.mp hconverted
      rcases Atom.toLegacy_cases hpart with
        ⟨-, rfl⟩ | ⟨_, -, rfl⟩ | ⟨_, -, rfl⟩ | ⟨_, -, rfl⟩ | ⟨_, _, -, rfl⟩ <;> rfl
  | list side elements separator bracketed ih =>
      obtain ⟨-, mark, -, parts, hparts, rfl⟩ := toLegacy_list_iff.mp hconverted
      obtain ⟨hbrackets, helements⟩ := everywhere_list_iff.mp hkey
      refine everywhere_list_iff.mpr ⟨hbrackets, fun part hpart => ?_⟩
      obtain ⟨element, helement, hto⟩ := Lists.exists_mem_of_forall₂ hparts hpart
      exact ih element helement (helements element helement) hto
  | map side entries ih =>
      obtain ⟨-, pairs, hpairs, rfl⟩ := toLegacy_map_iff.mp hconverted
      have hentries := (everywhere_map_iff.mp hkey).2
      refine everywhere_map_iff.mpr ⟨rfl, ?_⟩
      refine forall_mem_entriesOf (P := fun key => key.everywhere isKey = true)
        (Q := fun value => value.everywhere isKey = true) fun pair hpair => ?_
      obtain ⟨entry, hentry, hto⟩ := Lists.exists_mem_of_forall₂ hpairs hpair
      exact ⟨(ih entry hentry).1 (hentries entry hentry).1 hto.1, (ih entry hentry).2 (hentries entry hentry).2 hto.2⟩

theorem toCompiler_error_iff {value : Value} {failure : Failure} : value.toCompiler = .error failure ↔
    ∃ part, value.firstRefused? .legacy = some part ∧ part.refusal? .legacy = some failure := by
  rw [← Lists.failure?_eq_some_iff, failure?_toCompiler, Lists.findSome?_eq_bind_find?, Option.bind_eq_some_iff]
  rfl

theorem toLegacy_error_iff {value : Value} {failure : Failure} : value.toLegacy = .error failure ↔
    ∃ part, value.firstRefused? .compiler = some part ∧ part.refusal? .compiler = some failure := by
  rw [← Lists.failure?_eq_some_iff, failure?_toLegacy, Lists.findSome?_eq_bind_find?, Option.bind_eq_some_iff]
  rfl

/-- A conversion fails with the refusal of the first part that is refused. Toward the legacy family that is always a
failure of conversion. Toward the compiler it is one unless the first refused part is a legacy color; then it is that of
the alpha, which is out of range. While maps are rebuilt, what their keys convert to can be keys. -/
theorem conversion_refused_first (value : Value) :
    (∀ failure, value.toLegacy = .error failure ↔
      ∃ part, value.firstRefused? .compiler = some part ∧ part.refusal? .compiler = some failure) ∧
    (∀ failure, value.toCompiler = .error failure ↔
      ∃ part, value.firstRefused? .legacy = some part ∧ part.refusal? .legacy = some failure) ∧
    (∀ failure, value.toLegacy = .error failure → failure.kind = .valueConversion) ∧
    (∀ failure, value.toCompiler = .error failure →
      (failure.kind = .valueConversion ↔ ∀ color, value.firstRefused? .legacy ≠ some (atom (.color .legacy color))) ∧
      ∀ color, value.firstRefused? .legacy = some (atom (.color .legacy color)) →
        color.alpha.inUnitInterval = false ∧ failure = .alphaRange color.alpha) ∧
    ∀ side entries, map side entries ∈ value.parts → ∀ entry ∈ entries, (∃ digest, entry.1.digest = .ok digest) →
      ∀ key, entry.1.toCompiler = .ok key ∨ entry.1.toLegacy = .ok key → ∃ digest, key.digest = .ok digest := by
  refine ⟨fun _ => toLegacy_error_iff, fun _ => toCompiler_error_iff, ?_, ?_, ?_⟩
  · intro failure hfailure
    obtain ⟨part, -, hrefusal⟩ := toLegacy_error_iff.mp hfailure
    rcases kind_of_refusal? hrefusal with hkind | ⟨hsource, -⟩
    · exact hkind
    · cases hsource
  · intro failure hfailure
    obtain ⟨part, hfirst, hrefusal⟩ := toCompiler_error_iff.mp hfailure
    have hcolor : ∀ color, value.firstRefused? .legacy = some (atom (.color .legacy color)) →
        color.alpha.inUnitInterval = false ∧ failure = .alphaRange color.alpha := by
      intro color hsame
      obtain rfl := Option.some.inj (hfirst.symm.trans hsame)
      rw [refusal?_color] at hrefusal
      split at hrefusal
      · cases hrefusal
      · next halpha => exact ⟨Bool.eq_false_iff.mpr halpha, (Option.some.inj hrefusal).symm⟩
    refine ⟨⟨?_, fun hnone => ?_⟩, hcolor⟩
    · intro hkind color hsame
      rw [(hcolor color hsame).2] at hkind
      cases hkind
    · rcases kind_of_refusal? hrefusal with hkind | ⟨-, color, rfl, -⟩
      · exact hkind
      · exact absurd hfirst (hnone color)
  · rintro side entries - entry - hdigest key (hkey | hkey)
    · exact exists_digest_toCompiler hkey
    · exact exists_digest_toLegacy hdigest hkey

/-- A list with a color that is more than opaque, within a map, and with a separator that no family knows, after it. -/
def swatches : Value :=
  list .legacy
    [atom (.bool .legacy true),
      map .legacy [(atom (.legacyString "accent" identifierType),
        atom (.color .legacy ⟨.rgb (.int 0) (.int 0) (.int 0), .int 2⟩))],
      list .legacy [] (some "slash") (.bool false)]
    (some "comma") (.bool false)

/-- The color is refused before the list after it, and toward the legacy family the whole is refused first. -/
theorem conversion_refused_first_swatches :
    swatches.toCompiler = .error (.alphaRange (.int 2)) ∧ (Failure.alphaRange (.int 2)).kind ≠ .valueConversion ∧
      swatches.toLegacy = .error (.unconvertible "List" .legacy) ∧
      (Failure.unconvertible "List" .legacy).kind = .valueConversion := by
  obtain ⟨hlegacy, hcompiler, hkind, hcolor, -⟩ := conversion_refused_first swatches
  have hrange : Numeral.inUnitInterval (.int 2) = false := by decide +kernel
  have hrefused : swatches.firstRefused? .legacy =
      some (atom (.color .legacy ⟨.rgb (.int 0) (.int 0) (.int 0), .int 2⟩)) := by
    simp [firstRefused?, swatches, parts, elementParts, entryParts, refusal?, family?, Atom.family?, Separator.isOf,
      hrange]
  have hfailure := (hcompiler (.alphaRange (.int 2))).mpr ⟨_, hrefused, by rw [refusal?_color, hrange]; rfl⟩
  have hother := (hlegacy (.unconvertible "List" .legacy)).mpr ⟨swatches, rfl, rfl⟩
  refine ⟨hfailure, ?_, hother, hkind _ hother⟩
  rw [ne_eq, (hcolor _ hfailure).1]
  exact fun hnone => hnone _ hrefused

/-- A color that can be made on the legacy side does not convert, and its failure is not one of conversion. -/
theorem color_out_of_range_refused :
    Color.ofChannels .legacy (some (.int 0)) (some (.int 0)) (some (.int 0)) none none none (.int 2) =
        .ok ⟨.rgb (.int 0) (.int 0) (.int 0), .int 2⟩ ∧
      (atom (.color .legacy ⟨.rgb (.int 0) (.int 0) (.int 0), .int 2⟩)).toCompiler =
        .error (.alphaRange (.int 2)) ∧
      (Failure.alphaRange (.int 2)).kind.isA .valueConversion = false := by
  refine ⟨rfl, ?_, by decide⟩
  have hrange : Numeral.inUnitInterval (.int 2) = false := by decide +kernel
  rw [toCompiler_atom, Atom.toCompiler, Color.checkAlpha, hrange]
  rfl

end Value

end SassBridge
