import SassBridge.Proofs.Value.Conversion

/-! Conversion as a change of labels. A value of the compiler that was built has a legacy form of the same shape, which
is what it converts to; no entries of maps are merged on that way, since equality of values of the compiler is the
equality of their legacy forms. -/

namespace SassBridge

/-- What an atom of the compiler converts to. -/
def Atom.legacyForm (value : Atom) : Atom :=
  value.toLegacy.toOption.getD value

theorem Atom.legacyForm_eq {value part : Atom} (h : value.toLegacy = .ok part) : value.legacyForm = part := by
  rw [legacyForm, h]
  rfl

theorem Atom.equal_legacyForm_iff {a b : Atom} (ha : a.isOf .compiler = true) (hb : b.isOf .compiler = true) :
    a.legacyForm.equal b.legacyForm = true ↔ a.equal b = true := by
  cases a <;> cases b <;>
    simp_all only [isOf, beq_iff_eq, Bool.false_eq_true, reduceCtorEq, legacyForm, toLegacy, Except.toOption,
      Option.getD_some, equal, beq_self_eq_true, Bool.true_and]
  case compilerString.compilerString text quoted text' quoted' =>
    cases quoted <;> cases quoted' <;> simp [Value.stringType, Value.identifierType]

theorem Atom.isOf_toLegacy {value part : Atom} (h : value.toLegacy = .ok part) : part.isOf .legacy = true := by
  rcases toLegacy_cases h with ⟨-, rfl⟩ | ⟨_, -, rfl⟩ | ⟨_, -, rfl⟩ | ⟨_, -, rfl⟩ | ⟨_, _, -, rfl⟩ <;> rfl

namespace Value

def legacyLabels : Relabeling where
  atom := Atom.legacyForm
  side _ := .legacy
  separator := Separator.toLegacy?
  brackets := id

def truthLabels : Relabeling where
  atom := id
  side := id
  separator := id
  brackets bracketed := .bool bracketed.isTrue

def legacyForm (value : Value) : Value :=
  value.relabel legacyLabels

/-- The value with what brackets its lists, at any depth, reduced to its truth. -/
def reduceBrackets (value : Value) : Value :=
  value.relabel truthLabels

variable {side : Side} {elements : List Value} {separator : Option String} {bracketed : Datum}
  {entries : List (Value × Value)}

theorem legacyForm_atom {value : Atom} : (atom value).legacyForm = atom value.legacyForm := by
  rw [legacyForm, relabel, legacyLabels]

theorem legacyForm_list :
    (list side elements separator bracketed).legacyForm =
      list .legacy (elements.map legacyForm) (Separator.toLegacy? separator) bracketed :=
  relabel_list legacyLabels

theorem legacyForm_map :
    (map side entries).legacyForm =
      map .legacy (entries.map fun entry => (entry.1.legacyForm, entry.2.legacyForm)) :=
  relabel_map legacyLabels

theorem reduceBrackets_atom {value : Atom} : (atom value).reduceBrackets = atom value := rfl

theorem reduceBrackets_list :
    (list side elements separator bracketed).reduceBrackets =
      list side (elements.map reduceBrackets) separator (.bool bracketed.isTrue) :=
  relabel_list truthLabels

theorem reduceBrackets_map :
    (map side entries).reduceBrackets =
      map side (entries.map fun entry => (entry.1.reduceBrackets, entry.2.reduceBrackets)) :=
  relabel_map truthLabels

/-- Values of the compiler are equal if and only if their legacy forms are. -/
theorem equal_legacyForm_iff {a b : Value} (ha : a.everywhere (isOf .compiler) = true)
    (hb : b.everywhere (isOf .compiler) = true) : a.legacyForm.equal b.legacyForm = true ↔ a.equal b = true := by
  induction a using Value.induction generalizing b with
  | atom a =>
      cases b with
      | atom b =>
          rw [legacyForm_atom, legacyForm_atom, equal_atom_iff, equal_atom_iff]
          exact Atom.equal_legacyForm_iff ha hb
      | list => simp [legacyForm_atom, legacyForm_list, equal]
      | map => simp [legacyForm_atom, legacyForm_map, equal]
  | list s as sep brackets ih =>
      cases b with
      | list t bs sep' brackets' =>
          rw [everywhere_list_iff, isOf, Bool.and_eq_true, beq_iff_eq] at ha hb
          have hseparators := Separator.toLegacy_eq_iff ha.1.2 hb.1.2
          have helements : List.Forall₂ (fun a b => a.legacyForm.equal b.legacyForm = true) as bs ↔
              List.Forall₂ (fun a b => a.equal b = true) as bs :=
            Lists.forall₂_iff_of_mem fun a hmem b hmem' => ih a hmem (ha.2 a hmem) (hb.2 b hmem')
          rw [legacyForm_list, legacyForm_list, equal_list_iff, equal_list_iff, List.forall₂_map_left_iff,
            List.forall₂_map_right_iff, helements, hseparators, ha.1.1, hb.1.1]
          simp only [true_and]
      | atom => simp [legacyForm_atom, legacyForm_list, equal]
      | map => simp [legacyForm_list, legacyForm_map, equal]
  | map s as ih =>
      cases b with
      | map t bs =>
          rw [everywhere_map_iff, isOf, beq_iff_eq] at ha hb
          have hentries : List.Forall₂ (fun a b : Value × Value => a.1.legacyForm.equal b.1.legacyForm = true ∧
              a.2.legacyForm.equal b.2.legacyForm = true) as bs ↔
              List.Forall₂ (fun a b => a.1.equal b.1 = true ∧ a.2.equal b.2 = true) as bs :=
            Lists.forall₂_iff_of_mem fun a hmem b hmem' => and_congr
              ((ih a hmem).1 (ha.2 a hmem).1 (hb.2 b hmem').1) ((ih a hmem).2 (ha.2 a hmem).2 (hb.2 b hmem').2)
          rw [legacyForm_map, legacyForm_map, equal_map_iff, equal_map_iff, List.forall₂_map_left_iff,
            List.forall₂_map_right_iff, hentries, ha.1, hb.1]
          simp only [true_and]
      | atom => simp [legacyForm_atom, legacyForm_map, equal]
      | list => simp [legacyForm_list, legacyForm_map, equal]

theorem apart_legacyForm (hfamily : ∀ entry ∈ entries, entry.1.everywhere (isOf .compiler) = true)
    (hapart : Assoc.Apart equal entries) :
    Assoc.Apart equal (entries.map fun entry => (entry.1.legacyForm, entry.2.legacyForm)) := by
  refine List.pairwise_map.mpr (hapart.imp_of_mem fun hfirst hsecond hne => ?_)
  have hiff := equal_legacyForm_iff (hfamily _ hfirst) (hfamily _ hsecond)
  exact Bool.eq_false_iff.mpr fun hequal => Bool.eq_false_iff.mp hne (hiff.mp hequal)

/-- A value of the compiler that was built converts to its legacy form. -/
theorem toLegacy_eq_legacyForm {value : Value} (hfamily : value.everywhere (isOf .compiler) = true)
    (hbuilt : value.everywhere isBuilt = true) : value.toLegacy = .ok value.legacyForm := by
  induction value using Value.induction with
  | atom value =>
      obtain ⟨part, hpart⟩ := Atom.exists_toLegacy_iff.mpr hfamily
      rw [legacyForm_atom, Atom.legacyForm_eq hpart]
      exact toLegacy_atom_iff.mpr ⟨part, hpart, rfl⟩
  | list side elements separator bracketed ih =>
      rw [everywhere_list_iff] at hfamily hbuilt
      have hown := hfamily.1
      rw [isOf, Bool.and_eq_true, beq_iff_eq] at hown
      obtain ⟨mark, hmark⟩ := Separator.exists_toLegacy_iff.mpr hown.2
      have helements : List.Forall₂ (fun element part => element.toLegacy = .ok part) elements
          (elements.map legacyForm) := by
        rw [List.forall₂_map_right_iff, List.forall₂_same]
        exact fun element hmem => ih element hmem (hfamily.2 element hmem) (hbuilt.2 element hmem)
      rw [legacyForm_list, hmark]
      exact toLegacy_list_iff.mpr ⟨hown.1, mark, hmark, _, helements, rfl⟩
  | map side entries ih =>
      rw [everywhere_map_iff] at hfamily hbuilt
      have hown := hfamily.1
      rw [isOf, beq_iff_eq] at hown
      have hentries : List.Forall₂ (fun entry pair : Value × Value =>
          entry.1.toLegacy = .ok pair.1 ∧ entry.2.toLegacy = .ok pair.2) entries
          (entries.map fun entry => (entry.1.legacyForm, entry.2.legacyForm)) := by
        rw [List.forall₂_map_right_iff, List.forall₂_same]
        intro entry hmem
        exact ⟨(ih entry hmem).1 (hfamily.2 entry hmem).1 (hbuilt.2 entry hmem).1,
          (ih entry hmem).2 (hfamily.2 entry hmem).2 (hbuilt.2 entry hmem).2⟩
      have hapart := apart_legacyForm (fun entry hmem => (hfamily.2 entry hmem).1) (of_decide_eq_true hbuilt.1)
      rw [legacyForm_map, ← entriesOf_of_apart hapart]
      exact toLegacy_map_iff.mpr ⟨hown, _, hentries, rfl⟩

/-- Whether what brackets a list equals its own truth. -/
def hasPlainBrackets : Value → Bool
  | list _ _ _ bracketed => bracketed.equal (.bool bracketed.isTrue)
  | _ => true

/-- Whether a legacy string is of one of the types that have a meaning. -/
def hasKnownType : Value → Bool
  | atom (.legacyString _ type) => type == stringType || type == identifierType
  | _ => true

theorem everywhere_legacyForm {check : Value → Bool}
    (hpart : ∀ part : Value, part.everywhere (isOf .compiler) = true → part.everywhere isBuilt = true →
      check part.legacyForm = true)
    {value : Value} (hfamily : value.everywhere (isOf .compiler) = true)
    (hbuilt : value.everywhere isBuilt = true) : value.legacyForm.everywhere check = true := by
  rw [legacyForm, everywhere_relabel]
  refine everywhere_mono (fun part hboth => ?_) (everywhere_and.mpr ⟨hfamily, hbuilt⟩)
  exact hpart part (everywhere_and.mp hboth).1 (everywhere_and.mp hboth).2

section LegacyForm

variable {value : Value} (hfamily : value.everywhere (isOf .compiler) = true)
  (hbuilt : value.everywhere isBuilt = true)

include hfamily hbuilt

theorem isOf_legacyForm : value.legacyForm.everywhere (isOf .legacy) = true := by
  refine everywhere_legacyForm (fun part hfamily _ => ?_) hfamily hbuilt
  cases part with
  | atom own =>
      obtain ⟨part, hpart⟩ := Atom.exists_toLegacy_iff.mpr hfamily
      rw [legacyForm_atom, isOf, Atom.legacyForm_eq hpart]
      exact Atom.isOf_toLegacy hpart
  | list side elements separator bracketed =>
      have hown := check_of_everywhere hfamily
      rw [isOf, Bool.and_eq_true] at hown
      obtain ⟨mark, hmark⟩ := Separator.exists_toLegacy_iff.mpr hown.2
      rw [legacyForm_list, isOf, hmark, Separator.isOf_toLegacy hmark]
      rfl
  | map side entries => rfl

theorem isBuilt_legacyForm : value.legacyForm.everywhere isBuilt = true := by
  refine everywhere_legacyForm (fun part hfamily hbuilt => ?_) hfamily hbuilt
  cases part with
  | atom own =>
      obtain ⟨part, hpart⟩ := Atom.exists_toLegacy_iff.mpr hfamily
      rw [legacyForm_atom, Atom.legacyForm_eq hpart]
      rcases Atom.toLegacy_cases hpart with
        ⟨rfl, rfl⟩ | ⟨truth, rfl, rfl⟩ | ⟨color, rfl, rfl⟩ | ⟨number, rfl, rfl⟩ | ⟨text, quoted, rfl, rfl⟩ <;> rfl
  | list side elements separator bracketed =>
      rw [legacyForm_list, isBuilt]
      exact check_of_everywhere hbuilt
  | map side entries =>
      have hentries := (everywhere_map_iff.mp hfamily).2
      rw [legacyForm_map]
      exact decide_eq_true (apart_legacyForm (fun entry hmem => (hentries entry hmem).1)
        (of_decide_eq_true (check_of_everywhere hbuilt)))

theorem alphaInRange_legacyForm : value.legacyForm.everywhere alphaInRange = true := by
  refine everywhere_legacyForm (fun part hfamily hbuilt => ?_) hfamily hbuilt
  cases part with
  | atom own =>
      obtain ⟨part, hpart⟩ := Atom.exists_toLegacy_iff.mpr hfamily
      rw [legacyForm_atom, Atom.legacyForm_eq hpart]
      rcases Atom.toLegacy_cases hpart with
        ⟨rfl, rfl⟩ | ⟨truth, rfl, rfl⟩ | ⟨color, rfl, rfl⟩ | ⟨number, rfl, rfl⟩ | ⟨text, quoted, rfl, rfl⟩
      · rfl
      · rfl
      · exact hbuilt
      · rfl
      · rfl
  | list side elements separator bracketed => rfl
  | map side entries => rfl

theorem hasKnownType_legacyForm : value.legacyForm.everywhere hasKnownType = true := by
  refine everywhere_legacyForm (fun part hfamily _ => ?_) hfamily hbuilt
  cases part with
  | atom own =>
      obtain ⟨part, hpart⟩ := Atom.exists_toLegacy_iff.mpr hfamily
      rw [legacyForm_atom, Atom.legacyForm_eq hpart]
      rcases Atom.toLegacy_cases hpart with
        ⟨rfl, rfl⟩ | ⟨truth, rfl, rfl⟩ | ⟨color, rfl, rfl⟩ | ⟨number, rfl, rfl⟩ | ⟨text, quoted, rfl, rfl⟩
      · rfl
      · rfl
      · rfl
      · rfl
      · cases quoted <;> rfl
  | list side elements separator bracketed => rfl
  | map side entries => rfl

end LegacyForm

theorem hasPlainBrackets_legacyForm (value : Value) :
    value.legacyForm.everywhere hasPlainBrackets = value.everywhere hasPlainBrackets := by
  have hpart : (fun part => hasPlainBrackets (part.relabel legacyLabels)) = hasPlainBrackets := by
    funext part
    cases part <;> rfl
  rw [legacyForm, everywhere_relabel, hpart]

/-- Reducing brackets that equal their truth leads to an equal value. -/
theorem equal_reduceBrackets {side : Side} {value : Value} (hfamily : value.everywhere (isOf side) = true)
    (hplain : value.everywhere hasPlainBrackets = true) :
    value.equal value.reduceBrackets = true ∧ value.reduceBrackets.equal value = true := by
  induction value using Value.induction with
  | atom value =>
      have hself : value.equal value = true := Atom.equal_self hfamily
      exact ⟨equal_atom_iff.mpr hself, equal_atom_iff.mpr hself⟩
  | list own elements separator bracketed ih =>
      rw [everywhere_list_iff] at hfamily hplain
      have helement : ∀ element ∈ elements,
          element.equal element.reduceBrackets = true ∧ element.reduceBrackets.equal element = true :=
        fun element hmem => ih element hmem (hfamily.2 element hmem) (hplain.2 element hmem)
      rw [reduceBrackets_list, equal_list_iff, equal_list_iff, List.forall₂_map_right_iff, List.forall₂_same,
        List.forall₂_map_left_iff, List.forall₂_same]
      exact ⟨⟨rfl, fun element hmem => (helement element hmem).1, rfl, hplain.1⟩,
        rfl, fun element hmem => (helement element hmem).2, rfl, Datum.equal_bool_comm.mp hplain.1⟩
  | map own entries ih =>
      rw [everywhere_map_iff] at hfamily hplain
      have hkey : ∀ entry ∈ entries,
          entry.1.equal entry.1.reduceBrackets = true ∧ entry.1.reduceBrackets.equal entry.1 = true :=
        fun entry hmem => (ih entry hmem).1 (hfamily.2 entry hmem).1 (hplain.2 entry hmem).1
      have hvalue : ∀ entry ∈ entries,
          entry.2.equal entry.2.reduceBrackets = true ∧ entry.2.reduceBrackets.equal entry.2 = true :=
        fun entry hmem => (ih entry hmem).2 (hfamily.2 entry hmem).2 (hplain.2 entry hmem).2
      rw [reduceBrackets_map, equal_map_iff, equal_map_iff, List.forall₂_map_right_iff, List.forall₂_same,
        List.forall₂_map_left_iff, List.forall₂_same]
      exact ⟨⟨rfl, fun entry hmem => ⟨(hkey entry hmem).1, (hvalue entry hmem).1⟩⟩,
        rfl, fun entry hmem => ⟨(hkey entry hmem).2, (hvalue entry hmem).2⟩⟩

end Value

end SassBridge
