import SassBridge.Proofs.Datum.Equality
import SassBridge.Value.Equality

/-! Induction over the parts of a value; checks that hold of every part: of the value itself, of the elements of
lists, and of the keys and values of maps, at any depth; and changes of the parts that keep the shape. -/

namespace SassBridge.Value

/-- Induction over what a value holds. -/
@[elab_as_elim]
theorem induction {motive : Value → Prop} (atom : ∀ value, motive (atom value))
    (list : ∀ side elements separator bracketed, (∀ element ∈ elements, motive element) →
      motive (list side elements separator bracketed))
    (map : ∀ side entries, (∀ entry ∈ entries, motive entry.1 ∧ motive entry.2) → motive (map side entries))
    (value : Value) : motive value := by
  refine Value.rec (motive_1 := motive) (motive_2 := fun elements => ∀ element ∈ elements, motive element)
    (motive_3 := fun entries => ∀ entry ∈ entries, motive entry.1 ∧ motive entry.2)
    (motive_4 := fun entry => motive entry.1 ∧ motive entry.2)
    atom list map ?_ ?_ ?_ ?_ (fun _ _ hkey hvalue => ⟨hkey, hvalue⟩) value
  · simp
  · intro element elements helement helements other hother
    rcases List.mem_cons.mp hother with rfl | htail
    · exact helement
    · exact helements other htail
  · simp
  · intro entry entries hentry hentries other hother
    rcases List.mem_cons.mp hother with rfl | htail
    · exact hentry
    · exact hentries other htail

mutual

/-- Whether a check holds of a value and of everything in it. -/
def everywhere (check : Value → Bool) : Value → Bool
  | atom value => check (atom value)
  | list side elements separator bracketed =>
    check (list side elements separator bracketed) && elementsEverywhere check elements
  | map side entries => check (map side entries) && entriesEverywhere check entries

def elementsEverywhere (check : Value → Bool) : List Value → Bool
  | [] => true
  | element :: rest => everywhere check element && elementsEverywhere check rest

def entriesEverywhere (check : Value → Bool) : List (Value × Value) → Bool
  | [] => true
  | (key, value) :: rest => everywhere check key && everywhere check value && entriesEverywhere check rest

end

variable {check : Value → Bool} {side : Side} {elements : List Value} {separator : Option String}
  {bracketed : Datum} {entries : List (Value × Value)}

theorem everywhere_atom {value : Atom} : (atom value).everywhere check = check (atom value) := rfl

theorem everywhere_list_iff :
    (list side elements separator bracketed).everywhere check = true ↔
      check (list side elements separator bracketed) = true ∧
        ∀ element ∈ elements, element.everywhere check = true := by
  have helements : elementsEverywhere check elements = true ↔
      ∀ element ∈ elements, element.everywhere check = true := by
    induction elements with
    | nil => simp [elementsEverywhere]
    | cons element elements ih => simp [elementsEverywhere, ih]
  rw [everywhere, Bool.and_eq_true, helements]

theorem everywhere_map_iff :
    (map side entries).everywhere check = true ↔
      check (map side entries) = true ∧
        ∀ entry ∈ entries, entry.1.everywhere check = true ∧ entry.2.everywhere check = true := by
  have hentries : entriesEverywhere check entries = true ↔
      ∀ entry ∈ entries, entry.1.everywhere check = true ∧ entry.2.everywhere check = true := by
    induction entries with
    | nil => simp [entriesEverywhere]
    | cons entry entries ih => simp [entriesEverywhere, ih]
  rw [everywhere, Bool.and_eq_true, hentries]

/-- What to write at the parts of a value in place of what is there. -/
structure Relabeling where
  atom : Atom → Atom
  side : Side → Side
  separator : Option String → Option String
  brackets : Datum → Datum

mutual

/-- The value of the same shape with other labels. -/
def relabel (labels : Relabeling) : Value → Value
  | atom value => atom (labels.atom value)
  | list side elements separator bracketed =>
    list (labels.side side) (relabelElements labels elements) (labels.separator separator) (labels.brackets bracketed)
  | map side entries => map (labels.side side) (relabelEntries labels entries)

def relabelElements (labels : Relabeling) : List Value → List Value
  | [] => []
  | element :: rest => relabel labels element :: relabelElements labels rest

def relabelEntries (labels : Relabeling) : List (Value × Value) → List (Value × Value)
  | [] => []
  | (key, value) :: rest => (relabel labels key, relabel labels value) :: relabelEntries labels rest

end

theorem relabel_list (labels : Relabeling) :
    (list side elements separator bracketed).relabel labels =
      list (labels.side side) (elements.map (relabel labels)) (labels.separator separator)
        (labels.brackets bracketed) := by
  have helements : relabelElements labels elements = elements.map (relabel labels) := by
    induction elements with
    | nil => rfl
    | cons element elements ih => rw [relabelElements, ih, List.map_cons]
  rw [relabel, helements]

theorem relabel_map (labels : Relabeling) :
    (map side entries).relabel labels =
      map (labels.side side) (entries.map fun entry => (entry.1.relabel labels, entry.2.relabel labels)) := by
  have hentries : relabelEntries labels entries =
      entries.map fun entry => (entry.1.relabel labels, entry.2.relabel labels) := by
    induction entries with
    | nil => rfl
    | cons entry entries ih => rw [relabelEntries, ih, List.map_cons]
  rw [relabel, hentries]

theorem check_of_everywhere {value : Value} (h : value.everywhere check = true) : check value = true := by
  cases value with
  | atom value => exact h
  | list side elements separator bracketed => exact (everywhere_list_iff.mp h).1
  | map side entries => exact (everywhere_map_iff.mp h).1

/-- A check holds everywhere if it follows, for each part, from one that does. -/
theorem everywhere_mono {other : Value → Bool}
    (hcheck : ∀ part : Value, part.everywhere check = true → other part = true) {value : Value}
    (h : value.everywhere check = true) : value.everywhere other = true := by
  induction value using Value.induction with
  | atom value => exact hcheck _ h
  | list side elements separator bracketed ih =>
      have helements := (everywhere_list_iff.mp h).2
      exact everywhere_list_iff.mpr ⟨hcheck _ h, fun element hmem => ih element hmem (helements element hmem)⟩
  | map side entries ih =>
      have hentries := (everywhere_map_iff.mp h).2
      refine everywhere_map_iff.mpr ⟨hcheck _ h, fun entry hmem => ?_⟩
      exact ⟨(ih entry hmem).1 (hentries entry hmem).1, (ih entry hmem).2 (hentries entry hmem).2⟩

theorem everywhere_and {other : Value → Bool} {value : Value} :
    value.everywhere (fun part => check part && other part) = true ↔
      value.everywhere check = true ∧ value.everywhere other = true := by
  induction value using Value.induction with
  | atom value => exact Bool.and_eq_true_iff
  | list side elements separator bracketed ih =>
      simp only [everywhere_list_iff, Bool.and_eq_true]
      constructor
      · rintro ⟨hown, helements⟩
        exact ⟨⟨hown.1, fun element hmem => ((ih element hmem).mp (helements element hmem)).1⟩,
          hown.2, fun element hmem => ((ih element hmem).mp (helements element hmem)).2⟩
      · rintro ⟨hcheck, hother⟩
        exact ⟨⟨hcheck.1, hother.1⟩, fun element hmem =>
          (ih element hmem).mpr ⟨hcheck.2 element hmem, hother.2 element hmem⟩⟩
  | map side entries ih =>
      simp only [everywhere_map_iff, Bool.and_eq_true]
      constructor
      · rintro ⟨hown, hentries⟩
        have hkey := fun entry hmem => (ih entry hmem).1.mp (hentries entry hmem).1
        have hvalue := fun entry hmem => (ih entry hmem).2.mp (hentries entry hmem).2
        exact ⟨⟨hown.1, fun entry hmem => ⟨(hkey entry hmem).1, (hvalue entry hmem).1⟩⟩,
          hown.2, fun entry hmem => ⟨(hkey entry hmem).2, (hvalue entry hmem).2⟩⟩
      · rintro ⟨hcheck, hother⟩
        refine ⟨⟨hcheck.1, hother.1⟩, fun entry hmem => ?_⟩
        exact ⟨(ih entry hmem).1.mpr ⟨(hcheck.2 entry hmem).1, (hother.2 entry hmem).1⟩,
          (ih entry hmem).2.mpr ⟨(hcheck.2 entry hmem).2, (hother.2 entry hmem).2⟩⟩

theorem everywhere_relabel (labels : Relabeling) (value : Value) :
    (value.relabel labels).everywhere check = value.everywhere fun part => check (part.relabel labels) := by
  rw [Bool.eq_iff_iff]
  induction value using Value.induction with
  | atom value => rw [relabel, everywhere_atom, everywhere_atom, relabel]
  | list side elements separator bracketed ih =>
      rw [everywhere_list_iff, relabel_list, everywhere_list_iff, List.forall_mem_map]
      exact and_congr_right fun _ => forall₂_congr ih
  | map side entries ih =>
      rw [everywhere_map_iff, relabel_map, everywhere_map_iff, List.forall_mem_map]
      exact and_congr_right fun _ => forall₂_congr fun entry hmem => and_congr (ih entry hmem).1 (ih entry hmem).2

end SassBridge.Value
