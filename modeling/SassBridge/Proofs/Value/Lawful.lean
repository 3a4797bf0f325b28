import SassBridge.Proofs.Value.Refusal

/-! Equality of script values as the equality of keys: it is reflexive, symmetric and transitive on values that hold
nothing but script values, and equal values have equal digests, at any depth and with both families nested in one
another. How the classes answer a comparison between them does not matter. -/

namespace SassBridge

theorem Color.digest_eq_of_equal {a b : Color} (hequal : a.equal b = true) : a.digest = b.digest := by
  obtain ⟨channels, alpha⟩ := a
  obtain ⟨channels', alpha'⟩ := b
  rw [equal, Bool.and_eq_true] at hequal
  obtain ⟨hchannels, halpha⟩ := hequal
  cases channels <;> cases channels' <;> simp only [Channels.equal, Bool.and_eq_true, Bool.false_eq_true] at hchannels
  all_goals
    simp only [digest, Numeral.equal_iff.mp hchannels.1.1, Numeral.equal_iff.mp hchannels.1.2,
      Numeral.equal_iff.mp hchannels.2, Numeral.equal_iff.mp halpha]

theorem Number.digest_eq_of_equal {a b : Number} (hequal : a.equal b = true) : a.digest = b.digest := by
  simp only [equal, Bool.and_eq_true, beq_iff_eq] at hequal
  obtain ⟨⟨hvalue, hnumerators⟩, hdenominators⟩ := hequal
  rw [digest, digest, Numeral.equal_iff.mp hvalue, hnumerators, hdenominators]

namespace Atom

theorem digest_eq_of_equal {a b : Atom} (hequal : a.equal b = true) : a.digest = b.digest := by
  cases a <;> cases b <;> simp only [equal, Bool.and_eq_true, beq_iff_eq, Bool.false_eq_true] at hequal
  case null.null => rfl
  case bool.bool => rw [digest, digest, hequal.2]
  case color.color => rw [digest, digest, Color.digest_eq_of_equal hequal.2]
  case number.number => rw [digest, digest, Number.digest_eq_of_equal hequal.2]
  case legacyString.legacyString => rw [digest, digest, hequal.1, hequal.2]
  case compilerString.compilerString => rw [digest, digest, hequal.1, hequal.2]
  case foreign.foreign => rw [hequal.1]

theorem typeName_eq_of_equal {a b : Atom} (hequal : a.equal b = true) :
    (Value.atom a).typeName = (Value.atom b).typeName := by
  cases a <;> cases b <;> simp only [equal, Bool.and_eq_true, beq_iff_eq, Bool.false_eq_true] at hequal
  case null.null => rw [hequal]
  case bool.bool side _ _ _ | color.color side _ _ _ | number.number side _ _ _ =>
    rw [← hequal.1]
    cases side <;> rfl
  case legacyString.legacyString => rfl
  case compilerString.compilerString => rfl
  case foreign.foreign => rw [hequal.1]

theorem isOf_of_family? {a : Atom} {side : Side} (hfamily : a.family? = some side) : a.isOf side = true := by
  cases a <;> simp_all [family?, isOf]

end Atom

namespace Value

variable {a b c : Value}

theorem typeName_list (side : Side) (elements : List Value) (separator : Option String) (bracketed : Datum) :
    (list side elements separator bracketed).typeName = (list side [] none .null).typeName := by
  cases side <;> rfl

theorem typeName_map (side : Side) (entries : List (Value × Value)) :
    (map side entries).typeName = (map side []).typeName := by
  cases side <;> rfl

theorem typeName_eq_of_equal (hequal : a.equal b = true) : a.typeName = b.typeName := by
  cases a with
  | atom a =>
      cases b with
      | atom b => exact Atom.typeName_eq_of_equal (equal_atom_iff.mp hequal)
      | _ => simp [equal] at hequal
  | list s as sep brackets =>
      cases b with
      | list t bs sep' brackets' => rw [typeName_list, typeName_list t, (equal_list_iff.mp hequal).1]
      | _ => simp [equal] at hequal
  | map s as =>
      cases b with
      | map t bs => rw [typeName_map, typeName_map t, (equal_map_iff.mp hequal).1]
      | _ => simp [equal] at hequal

/-- Values of different classes are not equal. -/
theorem equal_eq_false_of_typeName (hname : a.typeName ≠ b.typeName) : a.equal b = false :=
  Bool.eq_false_iff.mpr fun hequal => hname (typeName_eq_of_equal hequal)

theorem digestElements_congr {as bs : List Value} (hdigest : List.Forall₂ (fun a b => a.digest = b.digest) as bs) :
    digestElements as = digestElements bs := by
  induction hdigest with
  | nil => rfl
  | cons hab _ ih => rw [digestElements, digestElements, hab, ih]

theorem digestEntries_congr {as bs : List (Value × Value)}
    (hdigest : List.Forall₂ (fun a b => a.1.digest = b.1.digest ∧ a.2.digest = b.2.digest) as bs) :
    digestEntries as = digestEntries bs := by
  induction hdigest with
  | nil => rfl
  | cons hab _ ih => rw [digestEntries, digestEntries, hab.1, hab.2, ih]

/-- Equal values have equal digests, or none for the same reason. -/
theorem digest_eq_of_equal (hequal : a.equal b = true) : a.digest = b.digest := by
  induction a using Value.induction generalizing b with
  | atom a =>
      cases b with
      | atom b =>
          have hatoms := equal_atom_iff.mp hequal
          rw [digest, digest, Atom.digest_eq_of_equal hatoms, Atom.typeName_eq_of_equal hatoms]
      | _ => simp [equal] at hequal
  | list s as sep brackets ih =>
      cases b with
      | list t bs sep' brackets' =>
          obtain ⟨rfl, helements, rfl, hbrackets⟩ := equal_list_iff.mp hequal
          have hdigests : digestElements as = digestElements bs :=
            digestElements_congr (Lists.forall₂_imp_of_mem (fun a hmem _ _ => ih a hmem) helements)
          rw [digest, digest, hdigests, Datum.token_eq_of_equal hbrackets, typeName_list,
            typeName_list s [] sep brackets']
      | _ => simp [equal] at hequal
  | map s as ih =>
      cases b with
      | map t bs =>
          obtain ⟨rfl, hentries⟩ := equal_map_iff.mp hequal
          have hdigests : digestEntries as = digestEntries bs :=
            digestEntries_congr (Lists.forall₂_imp_of_mem
              (fun a hmem _ _ hab => ⟨(ih a hmem).1 hab.1, (ih a hmem).2 hab.2⟩) hentries)
          rw [digest, digest, hdigests]
      | _ => simp [equal] at hequal

/-- Whether what brackets a list is data. -/
def hasDataBrackets : Value → Bool
  | list _ _ _ bracketed => bracketed.isData
  | _ => true

/-- A value that consists of script values of either family, and of data that brackets lists. -/
structure IsScript (value : Value) : Prop where
  built : value.everywhere isBuilt = true
  script : value.everywhere (fun part => part.family?.isSome) = true
  dataBrackets : value.everywhere hasDataBrackets = true

theorem IsScript.equal_self (hscript : a.IsScript) : a.equal a = true := by
  obtain ⟨hbuilt, hfamily, hdata⟩ := hscript
  induction a using Value.induction with
  | atom own =>
      obtain ⟨side, hside⟩ := Option.isSome_iff_exists.mp (check_of_everywhere hfamily)
      exact equal_atom_iff.mpr (Atom.equal_self (Atom.isOf_of_family? hside))
  | list side elements separator bracketed ih =>
      rw [everywhere_list_iff] at hbuilt hfamily hdata
      rw [equal_list_iff, List.forall₂_same]
      refine ⟨rfl, fun element hmem => ?_, rfl, Datum.equal_self hbuilt.1 hdata.1⟩
      exact ih element hmem (hbuilt.2 element hmem) (hfamily.2 element hmem) (hdata.2 element hmem)
  | map side entries ih =>
      rw [everywhere_map_iff] at hbuilt hfamily hdata
      rw [equal_map_iff, List.forall₂_same]
      refine ⟨rfl, fun entry hmem => ⟨?_, ?_⟩⟩
      · exact (ih entry hmem).1 (hbuilt.2 entry hmem).1 (hfamily.2 entry hmem).1 (hdata.2 entry hmem).1
      · exact (ih entry hmem).2 (hbuilt.2 entry hmem).2 (hfamily.2 entry hmem).2 (hdata.2 entry hmem).2

theorem hashesAgree_eq_true {agree : Bool} (hagree : a.hashesAgree b = .ok agree) : agree = true := by
  rw [hashesAgree] at hagree
  split at hagree
  · next hequal =>
    rw [digest_eq_of_equal hequal, Lists.bind_ok_iff] at hagree
    obtain ⟨first, hfirst, hagree⟩ := hagree
    rw [hfirst] at hagree
    rw [← Except.ok.inj hagree]
    exact beq_self_eq_true first
  · exact (Except.ok.inj hagree).symm

/-- What the class of the first of two values answers when they are compared. It knows no other class. -/
def answer? (a b : Value) : Option Bool :=
  if a.typeName = b.typeName then some (a.equal b) else none

/-- Whether values compare as equal: what the class of the first answers or else that of the second. Where neither
answers, they are different objects. -/
def isEqual (a b : Value) : Bool :=
  ((answer? a b).or (answer? b a)).getD false

/-- Whether values compare as different, by the opposites of the same answers. -/
def isUnequal (a b : Value) : Bool :=
  (((answer? a b).map not).or ((answer? b a).map not)).getD true

theorem isEqual_eq_equal (a b : Value) : isEqual a b = a.equal b := by
  by_cases hname : a.typeName = b.typeName
  · simp [isEqual, answer?, hname]
  · simp [isEqual, answer?, hname, Ne.symm hname, equal_eq_false_of_typeName hname]

theorem isUnequal_eq_not_equal (a b : Value) : isUnequal a b = !a.equal b := by
  by_cases hname : a.typeName = b.typeName
  · simp [isUnequal, answer?, hname]
  · simp [isUnequal, answer?, hname, Ne.symm hname, equal_eq_false_of_typeName hname]

/-- Equality is lawful for keys: it is an equivalence on script values of both families, it is what values compare as,
with its opposite for the comparison for difference, it holds only within a class, and equal values have equal digests,
so that hashes that are compared agree. -/
theorem equal_lawful (ha : a.IsScript) (hb : b.IsScript) :
    a.equal a = true ∧ (a.equal b = true ↔ b.equal a = true) ∧
      (a.equal b = true → b.equal c = true → a.equal c = true) ∧
      (isEqual a b = a.equal b ∧ isUnequal a b = !a.equal b) ∧ (a.typeName ≠ b.typeName → a.equal b = false) ∧
      (a.equal b = true → a.digest = b.digest) ∧ ∀ agree, a.hashesAgree b = .ok agree → agree = true := by
  refine ⟨ha.equal_self, ⟨equal_symm ha.built, equal_symm hb.built⟩, equal_trans,
    ⟨isEqual_eq_equal a b, isUnequal_eq_not_equal a b⟩, equal_eq_false_of_typeName, digest_eq_of_equal,
    fun agree => hashesAgree_eq_true⟩

/-- A map of the compiler under the bounds of exact doubles, in a legacy list that a truth value brackets. -/
def bounds : Value :=
  list .legacy
    [map .compiler [(atom (.number .legacy ⟨.int 9007199254740992, ["px"], []⟩), atom (.null .compiler))]]
    (some "comma") (.bool true)

/-- The same with a double for the integer and the number one for the truth value. -/
def roundedBounds : Value :=
  list .legacy
    [map .compiler [(atom (.number .legacy ⟨.float (.finite false 4503599627370496 1075), ["px"], []⟩),
      atom (.null .compiler))]]
    (some "comma") (.number (.int 1))

theorem equal_lawful_bounds :
    bounds.equal roundedBounds = true ∧ roundedBounds.equal bounds = true ∧
      isUnequal bounds roundedBounds = false ∧ bounds.digest = roundedBounds.digest := by
  have hbounds : bounds.IsScript := ⟨by decide +kernel, by decide +kernel, by decide +kernel⟩
  have hrounded : roundedBounds.IsScript := ⟨by decide +kernel, by decide +kernel, by decide +kernel⟩
  have hequal : bounds.equal roundedBounds = true := by decide +kernel
  obtain ⟨-, hsymm, -, ⟨-, hne⟩, -, hdigest, -⟩ := equal_lawful (c := bounds) hbounds hrounded
  exact ⟨hequal, hsymm.mp hequal, by rw [hne, hequal]; rfl, hdigest hequal⟩

end Value

end SassBridge
