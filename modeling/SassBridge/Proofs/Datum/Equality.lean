import Mathlib.Data.List.Perm.Subperm
import SassBridge.Datum.Equality
import SassBridge.Proofs.Assoc
import SassBridge.Proofs.Lists
import SassBridge.Proofs.Number.Rounding
import SassBridge.Value.Digest

/-! Equality of numbers and of option values. It is symmetric and transitive. For symmetry the keys of a dictionary
have to be distinct, as they are in every dictionary that was built; without that their count would say
nothing. -/

namespace SassBridge

namespace Numeral

theorem token_cases (a : Numeral) :
    (∃ exact, a.scaled? = some exact ∧ a.token = .number exact) ∨
    (∃ negative, a = .float (.infinite negative) ∧ a.token = .infinite negative) ∨
    ∃ object, a = .float (.nan object) ∧ a.token = .nan object := by
  cases a with
  | int value => exact Or.inl ⟨_, rfl, rfl⟩
  | float value =>
      cases value with
      | nan object => exact Or.inr (Or.inr ⟨object, rfl, rfl⟩)
      | infinite negative => exact Or.inr (Or.inl ⟨negative, rfl, rfl⟩)
      | finite negative significand exponent => cases negative <;> exact Or.inl ⟨_, rfl, rfl⟩

theorem equal_of_scaled {a b : Numeral} (h : a.scaled?.isSome ∨ b.scaled?.isSome) :
    equal a b = (match a.scaled?, b.scaled? with
      | some x, some y => x == y
      | _, _ => false) := by
  unfold equal
  split
  · rcases h with h | h <;> cases h
  · rcases h with h | h <;> cases h
  · rfl

/-- Numbers are equal if their exact values are, or if they are the same NaN. -/
theorem equal_iff {a b : Numeral} : equal a b = true ↔ a.token = b.token := by
  rcases token_cases a with ⟨x, hx, ha⟩ | ⟨s, rfl, ha⟩ | ⟨n, rfl, ha⟩
  · rw [equal_of_scaled (Or.inl (by rw [hx]; rfl)), hx, ha]
    rcases token_cases b with ⟨y, hy, hb⟩ | ⟨t, rfl, hb⟩ | ⟨m, rfl, hb⟩
    · rw [hy, hb]
      simp
    · rw [hb]
      simp [scaled?, Binary64.scaled?]
    · rw [hb]
      simp [scaled?, Binary64.scaled?]
  · rw [ha]
    rcases token_cases b with ⟨y, hy, hb⟩ | ⟨t, rfl, hb⟩ | ⟨m, rfl, hb⟩
    · rw [equal_of_scaled (Or.inr (by rw [hy]; rfl)), hb]
      simp [scaled?, Binary64.scaled?]
    · rw [hb]
      simp [equal]
    · rw [hb]
      simp [equal, scaled?, Binary64.scaled?]
  · rw [ha]
    rcases token_cases b with ⟨y, hy, hb⟩ | ⟨t, rfl, hb⟩ | ⟨m, rfl, hb⟩
    · rw [equal_of_scaled (Or.inr (by rw [hy]; rfl)), hb]
      simp [scaled?, Binary64.scaled?]
    · rw [hb]
      simp [equal, scaled?, Binary64.scaled?]
    · rw [hb]
      simp [equal]

theorem equal_symm {a b : Numeral} (h : equal a b = true) : equal b a = true :=
  equal_iff.mpr (equal_iff.mp h).symm

theorem equal_trans {a b c : Numeral} (hab : equal a b = true) (hbc : equal b c = true) : equal a c = true :=
  equal_iff.mpr ((equal_iff.mp hab).trans (equal_iff.mp hbc))

theorem equal_self (a : Numeral) : equal a a = true :=
  equal_iff.mpr rfl

theorem isZero_iff (a : Numeral) : a.isZero = true ↔ a.token = .number 0 := by
  cases a with
  | int value =>
      have hunits : (Binary64.unitsPerOne : Int) ≠ 0 := by
        rw [Binary64.unitsPerOne_eq]
        exact Int.natCast_ne_zero.mpr (Nat.two_pow_pos _).ne'
      have htoken : token (.int value) = .number (value * Binary64.unitsPerOne) := rfl
      rw [htoken, Token.number.injEq, isZero, beq_iff_eq, Int.mul_eq_zero]
      exact (or_iff_left hunits).symm
  | float value =>
      cases value with
      | nan => exact iff_of_false nofun nofun
      | infinite negative => exact iff_of_false nofun nofun
      | finite negative significand exponent =>
          have hmagnitude : (Binary64.magnitude significand exponent : Int) = 0 ↔ significand = 0 := by
            rw [Int.natCast_eq_zero, Binary64.magnitude_eq, Nat.mul_eq_zero]
            exact or_iff_left (Nat.two_pow_pos _).ne'
          have hsign : token (.float (.finite negative significand exponent)) =
              .number (if negative then -Binary64.magnitude significand exponent
                else Binary64.magnitude significand exponent) := by
            cases negative <;> rfl
          rw [hsign, Token.number.injEq, isZero, Binary64.isZero, beq_iff_eq]
          cases negative with
          | false => exact hmagnitude.symm
          | true => exact (Int.neg_eq_zero.trans hmagnitude).symm

end Numeral

namespace Datum

/-- Induction over what a value holds. -/
@[elab_as_elim]
theorem induction {motive : Datum → Prop} (null : motive null) (bool : ∀ value, motive (bool value))
    (number : ∀ value, motive (number value)) (text : ∀ value, motive (text value))
    (octets : ∀ content, motive (octets content)) (path : ∀ value, motive (path value))
    (list : ∀ items, (∀ item ∈ items, motive item) → motive (list items))
    (dict : ∀ entries, (∀ entry ∈ entries, motive entry.2) → motive (dict entries))
    (tagged : ∀ value, motive value → motive (tagged value)) (object : motive object)
    (host : ∀ object, motive (host object)) (value : Datum) : motive value := by
  refine Datum.rec (motive_1 := motive) (motive_2 := fun items => ∀ item ∈ items, motive item)
    (motive_3 := fun entries => ∀ entry ∈ entries, motive entry.2) (motive_4 := fun entry => motive entry.2)
    null bool number text octets path list dict tagged object host ?_ ?_ ?_ ?_ (fun _ _ ih => ih) value
  · simp
  · intro item items hitem hitems other hother
    rcases List.mem_cons.mp hother with rfl | htail
    · exact hitem
    · exact hitems other htail
  · simp
  · intro entry entries hentry hentries other hother
    rcases List.mem_cons.mp hother with rfl | htail
    · exact hentry
    · exact hentries other htail

mutual

/-- Whether the keys of every dictionary inside are distinct. -/
def isBuilt : Datum → Bool
  | list items => itemsBuilt items
  | dict entries => decide (entries.map Prod.fst).Nodup && entriesBuilt entries
  | tagged value => isBuilt value
  | _ => true

def itemsBuilt : List Datum → Bool
  | [] => true
  | item :: rest => isBuilt item && itemsBuilt rest

def entriesBuilt : List (String × Datum) → Bool
  | [] => true
  | (_, value) :: rest => isBuilt value && entriesBuilt rest

end

theorem itemsBuilt_iff {items : List Datum} : itemsBuilt items = true ↔ ∀ item ∈ items, item.isBuilt = true := by
  induction items with
  | nil => simp [itemsBuilt]
  | cons item items ih => simp [itemsBuilt, ih]

theorem entriesBuilt_iff {entries : List (String × Datum)} :
    entriesBuilt entries = true ↔ ∀ entry ∈ entries, entry.2.isBuilt = true := by
  induction entries with
  | nil => simp [entriesBuilt]
  | cons entry entries ih => simp [entriesBuilt, ih]

theorem equalItems_iff {as bs : List Datum} :
    equalItems as bs = true ↔ List.Forall₂ (fun a b => equal a b = true) as bs := by
  induction as generalizing bs with
  | nil => cases bs <;> simp [equalItems]
  | cons a as ih => cases bs <;> simp [equalItems, ih]

theorem entriesIn_iff {as bs : List (String × Datum)} :
    entriesIn as bs = true ↔
      ∀ entry ∈ as, ∃ b, Assoc.find? (· == ·) entry.1 bs = some b ∧ equal entry.2 b = true := by
  induction as with
  | nil => simp [entriesIn]
  | cons entry as ih =>
      rw [entriesIn, Bool.and_eq_true, ih, List.forall_mem_cons]
      refine and_congr_left fun _ => ?_
      cases Assoc.find? (· == ·) entry.1 bs <;> simp

theorem equal_dict_symm {as bs : List (String × Datum)} (hkeys : (as.map Prod.fst).Nodup)
    (hsymm : ∀ entry ∈ as, ∀ b, equal entry.2 b = true → equal b entry.2 = true)
    (hequal : equal (dict as) (dict bs) = true) : equal (dict bs) (dict as) = true := by
  rw [equal_dict, Bool.and_eq_true, beq_iff_eq, entriesIn_iff] at hequal ⊢
  obtain ⟨hlength, hin⟩ := hequal
  have hsubset : as.map Prod.fst ⊆ bs.map Prod.fst := by
    intro key hkey
    obtain ⟨entry, hentry, rfl⟩ := List.mem_map.mp hkey
    obtain ⟨b, hb, -⟩ := hin entry hentry
    exact List.mem_map.mpr ⟨_, Assoc.mem_of_find? hb, rfl⟩
  -- as many keys on both sides, so that the second dictionary has no others and none of them twice
  have hperm : (as.map Prod.fst).Perm (bs.map Prod.fst) :=
    (hkeys.subperm hsubset).perm_of_length_le (by simp [hlength])
  refine ⟨hlength.symm, fun entry hentry => ?_⟩
  have hkey : entry.1 ∈ as.map Prod.fst := hperm.mem_iff.mpr (List.mem_map.mpr ⟨_, hentry, rfl⟩)
  obtain ⟨other, hother, hsame⟩ := List.mem_map.mp hkey
  obtain ⟨b, hb, hequal⟩ := hin other hother
  rw [hsame, Assoc.find?_of_mem (hperm.nodup_iff.mp hkeys) hentry] at hb
  refine ⟨other.2, ?_, ?_⟩
  · rw [← hsame]
    exact Assoc.find?_of_mem hkeys hother
  · rw [Option.some.inj hb]
    exact hsymm other hother b hequal

/-- Truth values compare as numbers. -/
theorem equal_numeral_iff {a b : Datum} {x : Numeral} (ha : a.numeral? = some x) :
    equal a b = true ↔ ∃ y, b.numeral? = some y ∧ x.equal y = true := by
  cases a with
  | bool value => simp_all [equal, numeral?, Option.any_eq_true]
  | number value => simp_all [equal, numeral?, Option.any_eq_true]
  | _ => cases ha

theorem equal_numeral_symm {a b : Datum} {x : Numeral} (ha : a.numeral? = some x)
    (hequal : equal a b = true) : equal b a = true := by
  obtain ⟨y, hb, hxy⟩ := (equal_numeral_iff ha).mp hequal
  exact (equal_numeral_iff hb).mpr ⟨x, ha, Numeral.equal_symm hxy⟩

/-- Nothing but numbers equals a truth value. -/
theorem equal_bool_comm {truth : Bool} {value : Datum} :
    equal value (bool truth) = true ↔ equal (bool truth) value = true := by
  constructor
  · intro hequal
    obtain ⟨x, hx⟩ : ∃ x, value.numeral? = some x := by
      cases value with
      | bool _ => exact ⟨_, rfl⟩
      | number _ => exact ⟨_, rfl⟩
      | _ => simp [equal] at hequal
    exact equal_numeral_symm hx hequal
  · exact equal_numeral_symm rfl

theorem equal_numeral_trans {a b c : Datum} {x : Numeral} (ha : a.numeral? = some x)
    (hab : equal a b = true) (hbc : equal b c = true) :
    equal a c = true := by
  obtain ⟨y, hb, hxy⟩ := (equal_numeral_iff ha).mp hab
  obtain ⟨z, hc, hyz⟩ := (equal_numeral_iff hb).mp hbc
  exact (equal_numeral_iff ha).mpr ⟨z, hc, Numeral.equal_trans hxy hyz⟩

theorem isTrue_of_numeral? {a : Datum} {x : Numeral} (ha : a.numeral? = some x) : a.isTrue = !x.isZero := by
  cases a with
  | bool value =>
      obtain rfl := Option.some.inj ha
      cases value <;> rfl
  | number value =>
      obtain rfl := Option.some.inj ha
      rfl
  | _ => cases ha

/-- What is neither a number nor a collection equals only itself, if anything. -/
theorem eq_of_equal_flat {a b : Datum} (hnumeral : a.numeral? = none) (hlist : ∀ items, a ≠ list items)
    (hdict : ∀ entries, a ≠ dict entries) (hequal : equal a b = true) : b = a := by
  cases a with
  | bool value => cases hnumeral
  | number value => cases hnumeral
  | list items => exact absurd rfl (hlist items)
  | dict entries => exact absurd rfl (hdict entries)
  | _ => cases b <;> simp_all [equal]

theorem equal_symm {a b : Datum} (ha : a.isBuilt = true) (hequal : equal a b = true) :
    equal b a = true := by
  induction a using Datum.induction generalizing b with
  | list items ih =>
      cases b with
      | list others =>
          rw [isBuilt, itemsBuilt_iff] at ha
          rw [equal_list, equalItems_iff] at hequal ⊢
          exact (Lists.forall₂_imp_of_mem (fun item hitem b _ => ih item hitem (ha item hitem)) hequal).flip
      | _ => simp [equal] at hequal
  | dict entries ih =>
      cases b with
      | dict others =>
          rw [isBuilt, Bool.and_eq_true, decide_eq_true_eq, entriesBuilt_iff] at ha
          exact equal_dict_symm ha.1 (fun entry hentry b => ih entry hentry (ha.2 entry hentry)) hequal
      | _ => simp [equal] at hequal
  | bool value => exact equal_numeral_symm rfl hequal
  | number value => exact equal_numeral_symm rfl hequal
  | _ =>
      obtain rfl := eq_of_equal_flat rfl (by simp) (by simp) hequal
      exact hequal

theorem equal_trans {a b c : Datum} (hab : equal a b = true) (hbc : equal b c = true) :
    equal a c = true := by
  induction a using Datum.induction generalizing b c with
  | list items ih =>
      cases b with
      | list others =>
          cases c with
          | list more =>
              rw [equal_list, equalItems_iff] at hab hbc ⊢
              refine Lists.forall₂_comp_of_mem (fun item hitem b c hab hbc => ?_) hab hbc
              exact ih item hitem hab hbc
          | _ => simp [equal] at hbc
      | _ => simp [equal] at hab
  | dict entries ih =>
      cases b with
      | dict others =>
          cases c with
          | dict more =>
              rw [equal_dict, Bool.and_eq_true, beq_iff_eq, entriesIn_iff] at hab hbc ⊢
              refine ⟨hab.1.trans hbc.1, fun entry hentry => ?_⟩
              obtain ⟨b, hb, hentryb⟩ := hab.2 entry hentry
              obtain ⟨c, hc, hbc⟩ := hbc.2 _ (Assoc.mem_of_find? hb)
              exact ⟨c, hc, ih entry hentry hentryb hbc⟩
          | _ => simp [equal] at hbc
      | _ => simp [equal] at hab
  | bool value => exact equal_numeral_trans rfl hab hbc
  | number value => exact equal_numeral_trans rfl hab hbc
  | _ =>
      obtain rfl := eq_of_equal_flat rfl (by simp) (by simp) hab
      exact hbc

/-- Equal values count alike as true or false. -/
theorem isTrue_eq_of_equal {a b : Datum} (hequal : equal a b = true) : a.isTrue = b.isTrue := by
  cases hnumeral : a.numeral? with
  | some x =>
      obtain ⟨y, hb, hxy⟩ := (equal_numeral_iff hnumeral).mp hequal
      rw [isTrue_of_numeral? hnumeral, isTrue_of_numeral? hb, Bool.eq_iff_iff, Bool.not_eq_true', Bool.not_eq_true',
        ← Bool.not_eq_true, ← Bool.not_eq_true, Numeral.isZero_iff, Numeral.isZero_iff, Numeral.equal_iff.mp hxy]
  | none =>
      cases a with
      | list items =>
          cases b with
          | list others =>
              rw [equal_list, equalItems_iff] at hequal
              cases hequal <;> rfl
          | _ => simp [equal] at hequal
      | dict entries =>
          cases b with
          | dict others =>
              rw [equal_dict, Bool.and_eq_true, beq_iff_eq] at hequal
              rw [isTrue, isTrue, Bool.eq_iff_iff, Bool.not_eq_true', Bool.not_eq_true', List.isEmpty_eq_false_iff,
                List.isEmpty_eq_false_iff, ← List.length_pos_iff, ← List.length_pos_iff, hequal.1]
          | _ => simp [equal] at hequal
      | _ => rw [eq_of_equal_flat hnumeral (by simp) (by simp) hequal]

theorem token_of_numeral? {a : Datum} {x : Numeral} (ha : a.numeral? = some x) : a.token = .ok x.token := by
  cases a with
  | bool value =>
      obtain rfl := Option.some.inj ha
      rfl
  | number value =>
      obtain rfl := Option.some.inj ha
      rfl
  | _ => cases ha

/-- Equal values have equal tokens, or none. -/
theorem token_eq_of_equal {a b : Datum} (hequal : equal a b = true) : a.token = b.token := by
  cases hnumeral : a.numeral? with
  | some x =>
      obtain ⟨y, hb, hxy⟩ := (equal_numeral_iff hnumeral).mp hequal
      rw [token_of_numeral? hnumeral, token_of_numeral? hb, Numeral.equal_iff.mp hxy]
  | none =>
      cases a with
      | list items => cases b <;> simp_all [equal, token]
      | dict entries => cases b <;> simp_all [equal, token]
      | _ => rw [eq_of_equal_flat hnumeral (by simp) (by simp) hequal]

mutual

/-- Whether a value is data all through: it holds no object of which only the identity would be known. -/
def isData : Datum → Bool
  | list items => itemsAreData items
  | dict entries => entriesAreData entries
  | tagged _ | object => false
  | _ => true

def itemsAreData : List Datum → Bool
  | [] => true
  | item :: rest => isData item && itemsAreData rest

def entriesAreData : List (String × Datum) → Bool
  | [] => true
  | (_, value) :: rest => isData value && entriesAreData rest

end

theorem itemsAreData_iff {items : List Datum} : itemsAreData items = true ↔ ∀ item ∈ items, item.isData = true := by
  induction items with
  | nil => simp [itemsAreData]
  | cons item items ih => simp [itemsAreData, ih]

theorem entriesAreData_iff {entries : List (String × Datum)} :
    entriesAreData entries = true ↔ ∀ entry ∈ entries, entry.2.isData = true := by
  induction entries with
  | nil => simp [entriesAreData]
  | cons entry entries ih => simp [entriesAreData, ih]

/-- Data that were built equal themselves. -/
theorem equal_self {a : Datum} (hbuilt : a.isBuilt = true) (hdata : a.isData = true) :
    equal a a = true := by
  induction a using Datum.induction with
  | bool value => exact (equal_numeral_iff rfl).mpr ⟨_, rfl, Numeral.equal_self _⟩
  | number value => exact (equal_numeral_iff rfl).mpr ⟨_, rfl, Numeral.equal_self _⟩
  | list items ih =>
      rw [isBuilt, itemsBuilt_iff] at hbuilt
      rw [isData, itemsAreData_iff] at hdata
      rw [equal_list, equalItems_iff, List.forall₂_same]
      exact fun item hitem => ih item hitem (hbuilt item hitem) (hdata item hitem)
  | dict entries ih =>
      rw [isBuilt, Bool.and_eq_true, decide_eq_true_eq, entriesBuilt_iff] at hbuilt
      rw [isData, entriesAreData_iff] at hdata
      rw [equal_dict, Bool.and_eq_true, beq_iff_eq, entriesIn_iff]
      refine ⟨rfl, fun entry hentry => ⟨entry.2, Assoc.find?_of_mem hbuilt.1 hentry, ?_⟩⟩
      exact ih entry hentry (hbuilt.2 entry hentry) (hdata entry hentry)
  | tagged value ih => cases hdata
  | object => cases hdata
  | null => rfl
  | _ => simp [equal]

end Datum

end SassBridge
