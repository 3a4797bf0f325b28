import SassBridge.Proofs.Value.Forms

/-! From one family to the other and back. -/

namespace SassBridge

/-- An atom that was built comes back the same from its legacy form. -/
theorem Atom.toCompiler_legacyForm {value : Atom} (hfamily : value.isOf .compiler = true)
    (hbuilt : (Value.atom value).isBuilt = true) : value.legacyForm.toCompiler = .ok value := by
  obtain ⟨part, hpart⟩ := Atom.exists_toLegacy_iff.mpr hfamily
  rw [legacyForm_eq hpart]
  rcases toLegacy_cases hpart with
    ⟨rfl, rfl⟩ | ⟨truth, rfl, rfl⟩ | ⟨own, rfl, rfl⟩ | ⟨number, rfl, rfl⟩ | ⟨text, quoted, rfl, rfl⟩
  · rfl
  · rfl
  · have halpha : own.checkAlpha = .ok own := if_pos hbuilt
    rw [toCompiler, halpha]
    rfl
  · rfl
  · cases quoted <;> rfl

namespace Value

variable {value converted : Value}

/-- A check holds everywhere in what was converted to the compiler if it holds of what atoms convert to, of every list
with a truth value for brackets, and of every map with keys that differ. -/
theorem everywhere_toCompiler {check : Value → Bool}
    (hatom : ∀ value part : Atom, value.toCompiler = .ok part → check (atom part) = true)
    (hlist : ∀ parts mark truth, Separator.isOf .compiler (some mark) = true →
      check (list .compiler parts (some mark) (.bool truth)) = true)
    (hmap : ∀ entries, Assoc.Apart equal entries → check (map .compiler entries) = true)
    (hconverted : value.toCompiler = .ok converted) : converted.everywhere check = true := by
  induction value using Value.induction generalizing converted with
  | atom value =>
      obtain ⟨part, hpart, rfl⟩ := toCompiler_atom_iff.mp hconverted
      exact hatom value part hpart
  | list side elements separator bracketed ih =>
      obtain ⟨-, mark, hmark, parts, hparts, rfl⟩ := toCompiler_list_iff.mp hconverted
      refine everywhere_list_iff.mpr ⟨hlist parts mark _ (Separator.isOf_toCompiler hmark), fun part hpart => ?_⟩
      obtain ⟨element, helement, hto⟩ := Lists.exists_mem_of_forall₂ hparts hpart
      exact ih element helement hto
  | map side entries ih =>
      obtain ⟨-, pairs, hpairs, rfl⟩ := toCompiler_map_iff.mp hconverted
      refine everywhere_map_iff.mpr ⟨hmap _ (apart_entriesOf pairs), ?_⟩
      refine forall_mem_entriesOf (P := fun key => key.everywhere check = true)
        (Q := fun value => value.everywhere check = true) fun pair hpair => ?_
      obtain ⟨entry, hentry, hto⟩ := Lists.exists_mem_of_forall₂ hpairs hpair
      exact ⟨(ih entry hentry).1 hto.1, (ih entry hentry).2 hto.2⟩

/-- Whether what brackets a list is a truth value. -/
def hasTruthBrackets : Value → Bool
  | list _ _ _ (.bool _) => true
  | list _ _ _ _ => false
  | _ => true

theorem isOf_toCompiler (hconverted : value.toCompiler = .ok converted) :
    converted.everywhere (isOf .compiler) = true := by
  refine everywhere_toCompiler ?_ ?_ ?_ hconverted
  · intro value part hpart
    rcases Atom.toCompiler_cases hpart with
      ⟨-, rfl⟩ | ⟨_, -, rfl⟩ | ⟨_, -, -, rfl⟩ | ⟨_, -, rfl⟩ | ⟨_, _, -, rfl⟩ <;> rfl
  · intro parts mark truth hmark
    simp [isOf, hmark]
  · intro entries _
    rfl

theorem isBuilt_toCompiler (hconverted : value.toCompiler = .ok converted) :
    converted.everywhere isBuilt = true := by
  refine everywhere_toCompiler ?_ ?_ ?_ hconverted
  · intro value part hpart
    rcases Atom.toCompiler_cases hpart with ⟨-, rfl⟩ | ⟨_, -, rfl⟩ | ⟨_, halpha, -, rfl⟩ | ⟨_, -, rfl⟩ | ⟨_, _, -, rfl⟩
    · rfl
    · rfl
    · exact halpha
    · rfl
    · rfl
  · intro parts mark truth _
    rfl
  · intro entries hapart
    exact decide_eq_true hapart

theorem hasTruthBrackets_toCompiler (hconverted : value.toCompiler = .ok converted) :
    converted.everywhere hasTruthBrackets = true := by
  refine everywhere_toCompiler ?_ ?_ ?_ hconverted
  · intro value part _
    rfl
  · intro parts mark truth _
    rfl
  · intro entries _
    rfl

/-- What was converted to the compiler comes back the same from its legacy form. -/
theorem toCompiler_legacyForm (hfamily : value.everywhere (isOf .compiler) = true)
    (hbuilt : value.everywhere isBuilt = true) (hbrackets : value.everywhere hasTruthBrackets = true) :
    value.legacyForm.toCompiler = .ok value := by
  induction value using Value.induction with
  | atom value =>
      rw [legacyForm_atom]
      exact toCompiler_atom_iff.mpr ⟨value, Atom.toCompiler_legacyForm hfamily hbuilt, rfl⟩
  | list side elements separator bracketed ih =>
      rw [everywhere_list_iff] at hfamily hbuilt hbrackets
      have hown := hfamily.1
      rw [isOf, Bool.and_eq_true, beq_iff_eq] at hown
      obtain ⟨mark, hmark⟩ := Separator.exists_toLegacy_iff.mpr hown.2
      have helements : List.Forall₂ (fun element part => element.toCompiler = .ok part)
          (elements.map legacyForm) elements := by
        rw [List.forall₂_map_left_iff, List.forall₂_same]
        exact fun element hmem =>
          ih element hmem (hfamily.2 element hmem) (hbuilt.2 element hmem) (hbrackets.2 element hmem)
      have htruth : bracketed = .bool bracketed.isTrue := by
        cases bracketed with
        | bool truth => rfl
        | _ => cases hbrackets.1
      have hback := Separator.toCompiler_toLegacy hmark
      obtain ⟨back, rfl⟩ : ∃ back, separator = some back := by
        cases separator with
        | none => cases hmark
        | some back => exact ⟨back, rfl⟩
      rw [legacyForm_list, hmark, hown.1]
      exact toCompiler_list_iff.mpr ⟨rfl, back, hback, elements, helements, by rw [← htruth]⟩
  | map side entries ih =>
      rw [everywhere_map_iff] at hfamily hbuilt hbrackets
      have hown := hfamily.1
      rw [isOf, beq_iff_eq] at hown
      have hentries : List.Forall₂ (fun entry pair : Value × Value =>
          entry.1.toCompiler = .ok pair.1 ∧ entry.2.toCompiler = .ok pair.2)
          (entries.map fun entry => (entry.1.legacyForm, entry.2.legacyForm)) entries := by
        rw [List.forall₂_map_left_iff, List.forall₂_same]
        intro entry hmem
        exact ⟨(ih entry hmem).1 (hfamily.2 entry hmem).1 (hbuilt.2 entry hmem).1 (hbrackets.2 entry hmem).1,
          (ih entry hmem).2 (hfamily.2 entry hmem).2 (hbuilt.2 entry hmem).2 (hbrackets.2 entry hmem).2⟩
      rw [legacyForm_map, hown]
      refine toCompiler_map_iff.mpr ⟨rfl, entries, hentries, ?_⟩
      rw [entriesOf_of_apart (of_decide_eq_true hbuilt.1)]

theorem legacyForm_atom_toCompiler {own part : Atom} (hknown : hasKnownType (atom own) = true)
    (hpart : own.toCompiler = .ok part) : part.legacyForm = own := by
  rcases Atom.toCompiler_cases hpart with
    ⟨rfl, rfl⟩ | ⟨truth, rfl, rfl⟩ | ⟨color, -, rfl, rfl⟩ | ⟨number, rfl, rfl⟩ | ⟨text, type, rfl, rfl⟩
  · rfl
  · rfl
  · rfl
  · rfl
  · simp only [hasKnownType, Bool.or_eq_true, beq_iff_eq] at hknown
    rcases hknown with rfl | rfl <;> rfl

/-- What a faithful value is converted to has that value for its legacy form, but for brackets. -/
theorem legacyForm_toCompiler (hbuilt : value.everywhere isBuilt = true)
    (hknown : value.everywhere hasKnownType = true)
    (hplain : value.everywhere hasPlainBrackets = true) (hconverted : value.toCompiler = .ok converted) :
    converted.legacyForm = value.reduceBrackets := by
  induction value using Value.induction generalizing converted with
  | atom own =>
      obtain ⟨part, hpart, rfl⟩ := toCompiler_atom_iff.mp hconverted
      rw [legacyForm_atom, legacyForm_atom_toCompiler hknown hpart, reduceBrackets_atom]
  | list side elements separator bracketed ih =>
      obtain ⟨rfl, mark, hmark, parts, hparts, rfl⟩ := toCompiler_list_iff.mp hconverted
      rw [everywhere_list_iff] at hbuilt hknown hplain
      have helements : List.Forall₂ (fun element part => reduceBrackets element = legacyForm part) elements parts := by
        refine Lists.forall₂_imp_of_mem (fun element hmem part _ hto => ?_) hparts
        exact (ih element hmem (hbuilt.2 element hmem) (hknown.2 element hmem)
          (hplain.2 element hmem) hto).symm
      rw [legacyForm_list, reduceBrackets_list, Separator.toLegacy_toCompiler hmark,
        Lists.map_eq_map_of_forall₂ helements]
  | map side entries ih =>
      have hfamily := (exists_toCompiler_iff.mp ⟨_, hconverted⟩).1
      obtain ⟨rfl, pairs, hpairs, rfl⟩ := toCompiler_map_iff.mp hconverted
      rw [everywhere_map_iff] at hbuilt hknown hplain hfamily
      have hkey : ∀ entry ∈ entries, ∀ key, entry.1.toCompiler = .ok key → key.legacyForm = entry.1.reduceBrackets :=
        fun entry hmem key => (ih entry hmem).1 (hbuilt.2 entry hmem).1 (hknown.2 entry hmem).1
          (hplain.2 entry hmem).1
      have hform : ∀ entry ∈ entries,
          entry.1.equal entry.1.reduceBrackets = true ∧ entry.1.reduceBrackets.equal entry.1 = true :=
        fun entry hmem => equal_reduceBrackets (hfamily.2 entry hmem).1 (hplain.2 entry hmem).1
      -- keys that meet after the conversion have equal forms, and so were equal before it
      have hapart : Assoc.Apart equal pairs := by
        refine Lists.pairwise_of_forall₂ ?_ hpairs (of_decide_eq_true hbuilt.1)
        intro first hfirst second hsecond pair pair' hpair hpair' hne
        refine Bool.eq_false_iff.mpr fun hequal => Bool.eq_false_iff.mp hne ?_
        have hforms := (equal_legacyForm_iff (isOf_toCompiler hpair.1) (isOf_toCompiler hpair'.1)).mpr hequal
        rw [hkey first hfirst _ hpair.1, hkey second hsecond _ hpair'.1] at hforms
        exact equal_trans (hform first hfirst).1 (equal_trans hforms (hform second hsecond).2)
      have hentries : List.Forall₂ (fun entry pair : Value × Value =>
          (entry.1.reduceBrackets, entry.2.reduceBrackets) = (pair.1.legacyForm, pair.2.legacyForm)) entries pairs := by
        refine Lists.forall₂_imp_of_mem (fun entry hmem pair _ hto => ?_) hpairs
        have hvalue := (ih entry hmem).2 (hbuilt.2 entry hmem).2 (hknown.2 entry hmem).2
          (hplain.2 entry hmem).2 hto.2
        rw [hkey entry hmem _ hto.1, hvalue]
      rw [entriesOf_of_apart hapart, legacyForm_map, reduceBrackets_map, Lists.map_eq_map_of_forall₂ hentries]

theorem hasKnownType_of_equal {own part : Atom} (hpart : own.toCompiler = .ok part)
    (hequal : part.legacyForm.equal own = true) : hasKnownType (atom own) = true := by
  rcases Atom.toCompiler_cases hpart with
    ⟨rfl, rfl⟩ | ⟨truth, rfl, rfl⟩ | ⟨color, -, rfl, rfl⟩ | ⟨number, rfl, rfl⟩ | ⟨text, type, rfl, rfl⟩
  · rfl
  · rfl
  · rfl
  · rfl
  · by_cases htype : type = identifierType
    · simp [hasKnownType, htype]
    · have hstring : stringType = type := by
        simpa [Atom.legacyForm, Atom.toLegacy, Except.toOption, Atom.equal, htype] using hequal
      simp [hasKnownType, hstring]

/-- Only a faithful value can equal what comes back. -/
theorem faithful_of_equal (hconverted : value.toCompiler = .ok converted)
    (hequal : converted.legacyForm.equal value = true) :
    value.everywhere hasKnownType = true ∧ value.everywhere hasPlainBrackets = true := by
  induction value using Value.induction generalizing converted with
  | atom own =>
      obtain ⟨part, hpart, rfl⟩ := toCompiler_atom_iff.mp hconverted
      rw [legacyForm_atom, equal_atom_iff] at hequal
      exact ⟨hasKnownType_of_equal hpart hequal, rfl⟩
  | list side elements separator bracketed ih =>
      obtain ⟨rfl, mark, -, parts, hparts, rfl⟩ := toCompiler_list_iff.mp hconverted
      rw [legacyForm_list, equal_list_iff, List.forall₂_map_left_iff] at hequal
      obtain ⟨-, helements, -, hbrackets⟩ := hequal
      have hboth : List.Forall₂ (fun part element => element.toCompiler = .ok part ∧
          part.legacyForm.equal element = true) parts elements :=
        hparts.flip.mp (fun _ _ hto hequal => ⟨hto, hequal⟩) helements
      have hall : ∀ element ∈ elements,
          element.everywhere hasKnownType = true ∧ element.everywhere hasPlainBrackets = true := by
        intro element hmem
        obtain ⟨part, -, hto, hequal⟩ := Lists.exists_mem_of_forall₂ hboth hmem
        exact ih element hmem hto hequal
      rw [everywhere_list_iff, everywhere_list_iff]
      exact ⟨⟨rfl, fun element hmem => (hall element hmem).1⟩,
        Datum.equal_bool_comm.mpr hbrackets, fun element hmem => (hall element hmem).2⟩
  | map side entries ih =>
      obtain ⟨rfl, pairs, hpairs, rfl⟩ := toCompiler_map_iff.mp hconverted
      rw [legacyForm_map, equal_map_iff, List.forall₂_map_left_iff] at hequal
      -- as many entries as there were pairs, so that the conversion merged none of them
      have hlength : (entriesOf pairs).length = pairs.length :=
        hequal.2.length_eq.trans hpairs.length_eq
      rw [entriesOf_of_length hlength] at hequal
      have hboth : List.Forall₂ (fun pair entry : Value × Value =>
          (entry.1.toCompiler = .ok pair.1 ∧ entry.2.toCompiler = .ok pair.2) ∧
            pair.1.legacyForm.equal entry.1 = true ∧ pair.2.legacyForm.equal entry.2 = true) pairs entries :=
        hpairs.flip.mp (fun _ _ hto hequal => ⟨hto, hequal⟩) hequal.2
      have hall : ∀ entry ∈ entries,
          (entry.1.everywhere hasKnownType = true ∧ entry.1.everywhere hasPlainBrackets = true) ∧
            entry.2.everywhere hasKnownType = true ∧ entry.2.everywhere hasPlainBrackets = true := by
        intro entry hmem
        obtain ⟨pair, -, hto, hequal⟩ := Lists.exists_mem_of_forall₂ hboth hmem
        exact ⟨(ih entry hmem).1 hto.1 hequal.1, (ih entry hmem).2 hto.2 hequal.2⟩
      rw [everywhere_map_iff, everywhere_map_iff]
      exact ⟨⟨rfl, fun entry hmem => ⟨(hall entry hmem).1.1, (hall entry hmem).2.1⟩⟩,
        rfl, fun entry hmem => ⟨(hall entry hmem).1.2, (hall entry hmem).2.2⟩⟩

theorem equal_legacyForm_toCompiler_iff (hbuilt : value.everywhere isBuilt = true)
    (hconverted : value.toCompiler = .ok converted) :
    converted.legacyForm.equal value = true ↔
      value.everywhere hasKnownType = true ∧ value.everywhere hasPlainBrackets = true := by
  constructor
  · exact faithful_of_equal hconverted
  · rintro ⟨hknown, hplain⟩
    have hfamily := (exists_toCompiler_iff.mp ⟨_, hconverted⟩).1
    rw [legacyForm_toCompiler hbuilt hknown hplain hconverted]
    exact (equal_reduceBrackets hfamily hplain).2

/-- A legacy value that converts comes back from the compiler's family and converts to the same value again. It comes
back equal if and only if all its strings are of a known type and everything that brackets a list equals its truth;
then it is the value that was sent, with these brackets reduced to their truth and nothing else changed. -/
theorem legacy_round_trip (hbuilt : value.everywhere isBuilt = true)
    (hconverted : value.toCompiler = .ok converted) :
    ∃ back, converted.toLegacy = .ok back ∧ back.toCompiler = .ok converted ∧
      (back.equal value = true ↔
        value.everywhere hasKnownType = true ∧ value.everywhere hasPlainBrackets = true) ∧
      (back.equal value = true → back = value.reduceBrackets) := by
  have hfamily := isOf_toCompiler hconverted
  have hmade := isBuilt_toCompiler hconverted
  refine ⟨converted.legacyForm, toLegacy_eq_legacyForm hfamily hmade, ?_, ?_, fun hequal => ?_⟩
  · exact toCompiler_legacyForm hfamily hmade (hasTruthBrackets_toCompiler hconverted)
  · exact equal_legacyForm_toCompiler_iff hbuilt hconverted
  · obtain ⟨hknown, hplain⟩ := faithful_of_equal hconverted hequal
    exact legacyForm_toCompiler hbuilt hknown hplain hconverted

/-- A map with a bracketed list for a key, and with two keys that differ in the type of a string only. -/
def palette : Value :=
  map .legacy
    [(list .legacy [atom (.legacyString "accent" identifierType),
          atom (.number .legacy ⟨.float (.finite false 6755399441055744 1022), ["px"], []⟩)]
        (some "comma") (.number (.int 1)),
      atom (.color .legacy ⟨.hsl (.int 120) (.int 50) (.float (.finite true 0 0)), .int 1⟩)),
      (atom (.legacyString "accent" identifierType), atom (.legacyString "accent" stringType)),
      (atom (.legacyString "accent" stringType), map .legacy [(null, atom (.bool .legacy true))])]

theorem legacy_round_trip_palette :
    ∃ converted back, palette.toCompiler = .ok converted ∧ converted.toLegacy = .ok back ∧
      back.toCompiler = .ok converted ∧ back.equal palette = true ∧ back = palette.reduceBrackets := by
  obtain ⟨converted, hconverted⟩ := exists_toCompiler_iff.mpr
    (show palette.everywhere (isOf .legacy) = true ∧ palette.everywhere alphaInRange = true by decide +kernel)
  obtain ⟨back, hback, hagain, hequal, hsame⟩ :=
    legacy_round_trip (show palette.everywhere isBuilt = true by decide +kernel) hconverted
  have hpalette : back.equal palette = true := hequal.mpr (by decide +kernel)
  exact ⟨converted, back, hconverted, hback, hagain, hpalette, hsame hpalette⟩

/-- A value of the compiler with separators that both families know converts, and so does what it converts to. It comes
back equal if and only if everything that brackets a list equals its truth. -/
theorem compiler_round_trip (hfamily : value.everywhere (isOf .compiler) = true)
    (hbuilt : value.everywhere isBuilt = true) :
    ∃ legacy back, value.toLegacy = .ok legacy ∧ legacy.toCompiler = .ok back ∧
      (back.equal value = true ↔ value.everywhere hasPlainBrackets = true) := by
  have hlegacy := isOf_legacyForm hfamily hbuilt
  have hmade := isBuilt_legacyForm hfamily hbuilt
  obtain ⟨back, hback⟩ := exists_toCompiler_iff.mpr ⟨hlegacy, alphaInRange_legacyForm hfamily hbuilt⟩
  refine ⟨value.legacyForm, back, toLegacy_eq_legacyForm hfamily hbuilt, hback, ?_⟩
  calc back.equal value = true
      ↔ back.legacyForm.equal value.legacyForm = true := (equal_legacyForm_iff (isOf_toCompiler hback) hfamily).symm
    _ ↔ value.legacyForm.everywhere hasKnownType = true ∧ value.legacyForm.everywhere hasPlainBrackets = true :=
        equal_legacyForm_toCompiler_iff hmade hback
    _ ↔ value.everywhere hasPlainBrackets = true := by
        rw [hasPlainBrackets_legacyForm]
        exact and_iff_right (hasKnownType_legacyForm hfamily hbuilt)

/-- A map with a list for a key whose brackets are true without being the truth value. -/
def shades : Value :=
  map .compiler
    [(list .compiler [atom (.compilerString "dark" true), list .compiler [] (some " ") (.bool false)] (some ",")
        (.text "yes"),
      atom (.color .compiler ⟨.rgb (.int 0) (.int 0) (.int 0), .float (.finite false 4503599627370496 1021)⟩))]

theorem compiler_round_trip_shades :
    ∃ legacy back, shades.toLegacy = .ok legacy ∧ legacy.toCompiler = .ok back ∧ back.equal shades = false := by
  obtain ⟨legacy, back, hlegacy, hback, hequal⟩ :=
    compiler_round_trip (show shades.everywhere (isOf .compiler) = true by decide +kernel) (by decide +kernel)
  refine ⟨legacy, back, hlegacy, hback, Bool.eq_false_iff.mpr fun h => ?_⟩
  exact absurd (hequal.mp h) (by decide +kernel)

end Value

end SassBridge
