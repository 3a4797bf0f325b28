import SassBridge.Proofs.Value.Nodes

/-! Equality of script values, part by part. It is symmetric and transitive; for symmetry the dictionaries among the
brackets of lists have to be ones that were built. -/

namespace SassBridge

namespace Channels

theorem equal_symm {a b : Channels} (h : equal a b = true) : equal b a = true := by
  cases a <;> cases b <;> simp only [equal, Bool.and_eq_true, Bool.false_eq_true] at h ⊢
  all_goals exact ⟨⟨Numeral.equal_symm h.1.1, Numeral.equal_symm h.1.2⟩, Numeral.equal_symm h.2⟩

theorem equal_trans {a b c : Channels} (hab : equal a b = true)
    (hbc : equal b c = true) : equal a c = true := by
  cases a <;> cases b <;> cases c <;> simp only [equal, Bool.and_eq_true, Bool.false_eq_true] at hab hbc ⊢
  all_goals exact ⟨⟨Numeral.equal_trans hab.1.1 hbc.1.1, Numeral.equal_trans hab.1.2 hbc.1.2⟩,
    Numeral.equal_trans hab.2 hbc.2⟩

end Channels

theorem Channels.equal_self (a : Channels) : equal a a = true := by
  cases a <;> simp [equal, Numeral.equal_self]

theorem Color.equal_symm {a b : Color} (h : equal a b = true) : equal b a = true := by
  rw [equal, Bool.and_eq_true] at h ⊢
  exact ⟨Channels.equal_symm h.1, Numeral.equal_symm h.2⟩

theorem Color.equal_trans {a b c : Color} (hab : equal a b = true)
    (hbc : equal b c = true) : equal a c = true := by
  rw [equal, Bool.and_eq_true] at hab hbc ⊢
  exact ⟨Channels.equal_trans hab.1 hbc.1, Numeral.equal_trans hab.2 hbc.2⟩

theorem Number.equal_symm {a b : Number} (h : equal a b = true) : equal b a = true := by
  simp only [equal, Bool.and_eq_true, beq_iff_eq] at h ⊢
  exact ⟨⟨Numeral.equal_symm h.1.1, h.1.2.symm⟩, h.2.symm⟩

theorem Number.equal_trans {a b c : Number} (hab : equal a b = true)
    (hbc : equal b c = true) : equal a c = true := by
  simp only [equal, Bool.and_eq_true, beq_iff_eq] at hab hbc ⊢
  exact ⟨⟨Numeral.equal_trans hab.1.1 hbc.1.1, hab.1.2.trans hbc.1.2⟩, hab.2.trans hbc.2⟩

namespace Atom

/-- Whether an atom is of a family. -/
def isOf (side : Side) : Atom → Bool
  | null own | bool own _ | color own _ | number own _ => own == side
  | legacyString _ _ => side == .legacy
  | compilerString _ _ => side == .compiler
  | foreign _ => false

theorem equal_self {a : Atom} {side : Side} (hside : a.isOf side = true) : equal a a = true := by
  cases a with
  | color own color => simp [equal, Color.equal, Channels.equal_self, Numeral.equal_self]
  | number own number => simp [equal, Number.equal, Numeral.equal_self]
  | foreign typeName => cases hside
  | _ => simp [equal]

theorem equal_symm {a b : Atom} (h : equal a b = true) : equal b a = true := by
  cases a <;> cases b <;> simp only [equal, Bool.and_eq_true, beq_iff_eq, bne_iff_ne, Bool.false_eq_true] at h ⊢
  case null.null => exact h.symm
  case bool.bool => exact ⟨h.1.symm, h.2.symm⟩
  case color.color => exact ⟨h.1.symm, Color.equal_symm h.2⟩
  case number.number => exact ⟨h.1.symm, Number.equal_symm h.2⟩
  case legacyString.legacyString => exact ⟨h.1.symm, h.2.symm⟩
  case compilerString.compilerString => exact ⟨h.1.symm, h.2.symm⟩
  case foreign.foreign => exact ⟨h.1.symm, h.1 ▸ h.2⟩

theorem equal_trans {a b c : Atom} (hab : equal a b = true) (hbc : equal b c = true) :
    equal a c = true := by
  cases a <;> cases b <;>
    simp only [equal, Bool.and_eq_true, beq_iff_eq, bne_iff_ne, Bool.false_eq_true] at hab
  all_goals
    cases c <;> simp only [equal, Bool.and_eq_true, beq_iff_eq, bne_iff_ne, Bool.false_eq_true] at hbc ⊢
  case null.null.null => exact hab.trans hbc
  case bool.bool.bool => exact ⟨hab.1.trans hbc.1, hab.2.trans hbc.2⟩
  case color.color.color => exact ⟨hab.1.trans hbc.1, Color.equal_trans hab.2 hbc.2⟩
  case number.number.number => exact ⟨hab.1.trans hbc.1, Number.equal_trans hab.2 hbc.2⟩
  case legacyString.legacyString.legacyString => exact ⟨hab.1.trans hbc.1, hab.2.trans hbc.2⟩
  case compilerString.compilerString.compilerString => exact ⟨hab.1.trans hbc.1, hab.2.trans hbc.2⟩
  case foreign.foreign.foreign => exact ⟨hab.1.trans hbc.1, hab.2⟩

end Atom

namespace Value

theorem equalElements_iff {as bs : List Value} :
    equalElements as bs = true ↔ List.Forall₂ (fun a b => equal a b = true) as bs := by
  induction as generalizing bs with
  | nil => cases bs <;> simp [equalElements]
  | cons a as ih => cases bs <;> simp [equalElements, ih]

theorem equalEntries_iff {as bs : List (Value × Value)} :
    equalEntries as bs = true ↔
      List.Forall₂ (fun a b => equal a.1 b.1 = true ∧ equal a.2 b.2 = true) as bs := by
  induction as generalizing bs with
  | nil => cases bs <;> simp [equalEntries]
  | cons a as ih => cases bs <;> simp [equalEntries, ih]

variable {s t : Side}

theorem equal_list_iff {as bs : List Value} {sep sep' : Option String} {brackets brackets' : Datum} :
    (list s as sep brackets).equal (list t bs sep' brackets') = true ↔
      s = t ∧ List.Forall₂ (fun a b => a.equal b = true) as bs ∧ sep = sep' ∧
        brackets.equal brackets' = true := by
  simp only [equal, Bool.and_eq_true, beq_iff_eq, equalElements_iff, and_assoc]

theorem equal_map_iff {as bs : List (Value × Value)} :
    (map s as).equal (map t bs) = true ↔
      s = t ∧ List.Forall₂ (fun a b => a.1.equal b.1 = true ∧ a.2.equal b.2 = true) as bs := by
  simp only [equal, Bool.and_eq_true, beq_iff_eq, equalEntries_iff]

/-- What is seen to when a value is made: no key of a map equals an earlier one, no more than in the dictionaries among
the brackets of lists, and the alpha of a color of the compiler is in its range. -/
def isBuilt : Value → Bool
  | atom (.color .compiler color) => color.alpha.inUnitInterval
  | atom _ => true
  | list _ _ _ bracketed => bracketed.isBuilt
  | map _ entries => decide (Assoc.Apart equal entries)

theorem equal_symm {a b : Value} (ha : a.everywhere isBuilt = true) (hab : a.equal b = true) :
    b.equal a = true := by
  induction a using Value.induction generalizing b with
  | atom a =>
      cases b with
      | atom b => exact equal_atom_iff.mpr (Atom.equal_symm (equal_atom_iff.mp hab))
      | _ => simp [equal] at hab
  | list s as sep brackets ih =>
      cases b with
      | list t bs sep' brackets' =>
          rw [everywhere_list_iff] at ha
          rw [equal_list_iff] at hab ⊢
          obtain ⟨hst, has, hsep, hbrackets⟩ := hab
          have hbs := (Lists.forall₂_imp_of_mem (fun a hmem b _ => ih a hmem (ha.2 a hmem)) has).flip
          exact ⟨hst.symm, hbs, hsep.symm, Datum.equal_symm ha.1 hbrackets⟩
      | _ => simp [equal] at hab
  | map s as ih =>
      cases b with
      | map t bs =>
          rw [everywhere_map_iff] at ha
          rw [equal_map_iff] at hab ⊢
          refine ⟨hab.1.symm, (Lists.forall₂_imp_of_mem (fun a hmem b _ hequal => ?_) hab.2).flip⟩
          exact ⟨(ih a hmem).1 (ha.2 a hmem).1 hequal.1, (ih a hmem).2 (ha.2 a hmem).2 hequal.2⟩
      | _ => simp [equal] at hab

theorem equal_trans {a b c : Value} (hab : a.equal b = true) (hbc : b.equal c = true) : a.equal c = true := by
  induction a using Value.induction generalizing b c with
  | atom a =>
      cases b with
      | atom b =>
          cases c with
          | atom c => exact equal_atom_iff.mpr (Atom.equal_trans (equal_atom_iff.mp hab) (equal_atom_iff.mp hbc))
          | _ => simp [equal] at hbc
      | _ => simp [equal] at hab
  | list s as sep brackets ih =>
      cases b with
      | list t bs sep' brackets' =>
          cases c with
          | list u cs sep'' brackets'' =>
              rw [equal_list_iff] at hab hbc ⊢
              obtain ⟨hst, has, hsep, hbrackets⟩ := hab
              obtain ⟨htu, hbs, hsep', hbrackets'⟩ := hbc
              refine ⟨hst.trans htu, Lists.forall₂_comp_of_mem (fun a ha b c hab hbc => ?_) has hbs, hsep.trans hsep',
                Datum.equal_trans hbrackets hbrackets'⟩
              exact ih a ha hab hbc
          | _ => simp [equal] at hbc
      | _ => simp [equal] at hab
  | map s as ih =>
      cases b with
      | map t bs =>
          cases c with
          | map u cs =>
              rw [equal_map_iff] at hab hbc ⊢
              refine ⟨hab.1.trans hbc.1, Lists.forall₂_comp_of_mem (fun a ha b c hab hbc => ?_) hab.2 hbc.2⟩
              exact ⟨(ih a ha).1 hab.1 hbc.1, (ih a ha).2 hab.2 hbc.2⟩
          | _ => simp [equal] at hbc
      | _ => simp [equal] at hab

end Value

end SassBridge
