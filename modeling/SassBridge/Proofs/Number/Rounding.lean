import Mathlib.Algebra.Order.Group.Nat
import SassBridge.Number.Decimal

/-! Rounding of quotients to doubles. What is rounded depends on the quotient alone, the result is a number of the
format in its only form, and each such number is the result of rounding it. The shortest decimal of a number
therefore reads back as the number. -/

namespace SassBridge.Binary64

variable {negative : Bool} {numerator denominator significand exponent : Nat}

section Quotients

theorem le_roundQuotient (numerator denominator : Nat) :
    numerator / denominator ≤ roundQuotient numerator denominator := by
  unfold roundQuotient
  dsimp only
  split
  · exact le_rfl
  · split <;> omega

theorem roundQuotient_le (numerator denominator : Nat) :
    roundQuotient numerator denominator ≤ numerator / denominator + 1 := by
  unfold roundQuotient
  dsimp only
  split
  · exact Nat.le_succ _
  · split <;> omega

theorem roundQuotient_mul {factor : Nat} (hfactor : 0 < factor) (numerator denominator : Nat) :
    roundQuotient (numerator * factor) (denominator * factor) = roundQuotient numerator denominator := by
  have hquotient := Nat.mul_div_mul_right numerator denominator hfactor
  have hrest : 2 * (numerator * factor % (denominator * factor)) = 2 * (numerator % denominator) * factor := by
    rw [Nat.mul_mod_mul_right, Nat.mul_assoc]
  simp only [roundQuotient, hquotient, hrest, Nat.mul_lt_mul_right hfactor]

theorem roundQuotient_exact (hdenominator : 0 < denominator) (numerator : Nat) :
    roundQuotient (numerator * denominator) denominator = numerator := by
  have hquotient := Nat.mul_div_cancel numerator hdenominator
  simp [roundQuotient, hquotient, hdenominator]

theorem roundQuotient_of_small (hsmall : 2 * numerator < denominator) :
    roundQuotient numerator denominator = 0 := by
  have hquotient : numerator / denominator = 0 := Nat.div_eq_of_lt (by omega)
  have hrest : numerator % denominator = numerator := Nat.mod_eq_of_lt (by omega)
  simp [roundQuotient, hquotient, hrest, hsmall]

end Quotients

section Assembly

theorem saturate_of_le (hexponent : exponent ≤ maxExponent) :
    saturate negative significand exponent = .finite negative significand exponent := by
  rw [saturate, if_neg (Nat.not_lt.mpr hexponent)]

theorem saturate_of_lt (hexponent : maxExponent < exponent) :
    saturate negative significand exponent = .infinite negative := by
  rw [saturate, if_pos hexponent]

theorem significandBound_eq : significandBound = 2 ^ 53 := rfl

theorem unitsPerOne_eq : unitsPerOne = 2 ^ scale := by
  unfold unitsPerOne
  generalize scale = power
  rfl

theorem magnitude_eq (significand exponent : Nat) : magnitude significand exponent = significand * 2 ^ exponent := by
  rw [magnitude, Nat.pow_eq]

theorem unitExponent_eq (numerator denominator : Nat) :
    unitExponent numerator denominator = Nat.log2 (numerator * 2 ^ scale / denominator) - 52 := by
  rw [unitExponent, unitsPerOne_eq]

theorem carry_of_lt (hsignificand : significand < significandBound) (hexponent : exponent ≤ maxExponent) :
    carry negative significand exponent = .finite negative significand exponent := by
  rw [carry, if_pos hsignificand, saturate_of_le hexponent]

theorem carry_of_gt (hexponent : maxExponent < exponent) (significand : Nat) :
    carry negative significand exponent = .infinite negative := by
  rw [carry, saturate_of_lt hexponent, saturate_of_lt (hexponent.trans (Nat.lt_succ_self _)), ite_self]

theorem ofQuotient_eq (negative : Bool) (numerator denominator : Nat) :
    ofQuotient negative numerator denominator =
      carry negative (roundQuotient (numerator * 2 ^ scale) (denominator * 2 ^ unitExponent numerator denominator))
        (unitExponent numerator denominator) := by
  simp only [ofQuotient, unitsPerOne_eq, Nat.pow_eq]

/-- Whether a number is in the one form that numbers of the format have: a full significand, unless the exponent is
the least. A NaN is the one that texts are read as. -/
def IsCanonical : Binary64 → Prop
  | finite _ significand exponent =>
    significand < significandBound ∧ exponent ≤ maxExponent ∧ (exponent = 0 ∨ 2 ^ 52 ≤ significand)
  | infinite _ => True
  | nan object => nan object = readNaN

theorem isCanonical_saturate (hsignificand : significand < significandBound)
    (hfull : exponent = 0 ∨ 2 ^ 52 ≤ significand) : (saturate negative significand exponent).IsCanonical := by
  by_cases hexponent : exponent ≤ maxExponent
  · rw [saturate_of_le hexponent]
    exact ⟨hsignificand, hexponent, hfull⟩
  · rw [saturate_of_lt (Nat.lt_of_not_le hexponent)]
    trivial

theorem isCanonical_carry (hbound : significand ≤ significandBound) (hfull : exponent = 0 ∨ 2 ^ 52 ≤ significand) :
    (carry negative significand exponent).IsCanonical := by
  by_cases hsignificand : significand < significandBound
  · rw [carry, if_pos hsignificand]
    exact isCanonical_saturate hsignificand hfull
  · have hgreatest : significand = significandBound := Nat.le_antisymm hbound (Nat.le_of_not_lt hsignificand)
    have hhalf : significand / 2 = 2 ^ 52 := by
      rw [hgreatest]
      rfl
    rw [carry, if_neg hsignificand, hhalf]
    exact isCanonical_saturate (by decide) (Or.inr le_rfl)

end Assembly

/-- A quotient counted in its unit has no more digits than a significand, and as many unless the unit is the least. -/
theorem quotient_bounds (value : Nat) :
    value / 2 ^ (Nat.log2 value - 52) < significandBound ∧
      (Nat.log2 value - 52 = 0 ∨ 2 ^ 52 ≤ value / 2 ^ (Nat.log2 value - 52)) := by
  constructor
  · rw [Nat.div_lt_iff_lt_mul (Nat.two_pow_pos _), significandBound_eq, ← Nat.pow_add]
    calc value < 2 ^ (Nat.log2 value + 1) := Nat.lt_log2_self
      _ ≤ 2 ^ (53 + (Nat.log2 value - 52)) := Nat.pow_le_pow_right (by decide) (by omega)
  · by_cases hsmall : Nat.log2 value - 52 = 0
    · exact Or.inl hsmall
    · right
      have hvalue : value ≠ 0 := by
        rintro rfl
        exact hsmall rfl
      rw [Nat.le_div_iff_mul_le (Nat.two_pow_pos _), ← Nat.pow_add]
      calc 2 ^ (52 + (Nat.log2 value - 52)) = 2 ^ Nat.log2 value := by rw [Nat.add_sub_cancel' (by omega)]
        _ ≤ value := Nat.log2_self_le hvalue

theorem isCanonical_ofQuotient (negative : Bool) (numerator denominator : Nat) :
    (ofQuotient negative numerator denominator).IsCanonical := by
  have hquotient : numerator * 2 ^ scale / (denominator * 2 ^ unitExponent numerator denominator) =
      numerator * 2 ^ scale / denominator / 2 ^ unitExponent numerator denominator :=
    (Nat.div_div_eq_div_mul _ _ _).symm
  have hlow := le_roundQuotient (numerator * 2 ^ scale) (denominator * 2 ^ unitExponent numerator denominator)
  have hhigh := roundQuotient_le (numerator * 2 ^ scale) (denominator * 2 ^ unitExponent numerator denominator)
  obtain ⟨hbound, hfull⟩ := quotient_bounds (numerator * 2 ^ scale / denominator)
  rw [hquotient] at hlow hhigh
  rw [← unitExponent_eq] at hbound hfull
  rw [ofQuotient_eq]
  apply isCanonical_carry
  · exact hhigh.trans hbound
  · exact hfull.imp_right fun hfull => hfull.trans hlow

/-- Only the quotient matters. -/
theorem ofQuotient_mul {factor : Nat} (hfactor : 0 < factor) (negative : Bool) (numerator denominator : Nat) :
    ofQuotient negative (numerator * factor) (denominator * factor) = ofQuotient negative numerator denominator := by
  have hscaled : numerator * factor * 2 ^ scale = numerator * 2 ^ scale * factor := Nat.mul_right_comm _ _ _
  have hunit : unitExponent (numerator * factor) (denominator * factor) = unitExponent numerator denominator := by
    rw [unitExponent_eq, hscaled, Nat.mul_div_mul_right _ _ hfactor, ← unitExponent_eq]
  rw [ofQuotient_eq, hunit, hscaled, Nat.mul_right_comm denominator, roundQuotient_mul hfactor, ← ofQuotient_eq]

theorem ofQuotient_congr {other divisor : Nat} (hdenominator : 0 < denominator) (hdivisor : 0 < divisor)
    (hequal : numerator * divisor = other * denominator) (negative : Bool) :
    ofQuotient negative numerator denominator = ofQuotient negative other divisor := by
  calc ofQuotient negative numerator denominator
      = ofQuotient negative (numerator * divisor) (denominator * divisor) :=
        (ofQuotient_mul hdivisor negative _ _).symm
    _ = ofQuotient negative (other * denominator) (divisor * denominator) := by
        rw [hequal, Nat.mul_comm denominator]
    _ = ofQuotient negative other divisor := ofQuotient_mul hdenominator negative _ _

/-- Each number of the format is what its own value is rounded to. -/
theorem ofQuotient_magnitude (hcanonical : (finite negative significand exponent).IsCanonical) :
    ofQuotient negative (magnitude significand exponent) (2 ^ scale) = .finite negative significand exponent := by
  obtain ⟨hbound, hexponent, hfull⟩ := hcanonical
  have hunit : unitExponent (magnitude significand exponent) (2 ^ scale) = exponent := by
    rw [unitExponent_eq, Nat.mul_div_cancel _ (Nat.two_pow_pos _), magnitude_eq]
    rcases hfull with rfl | hfull
    · rw [Nat.pow_zero, Nat.mul_one]
      by_cases hzero : significand = 0
      · rw [hzero]
        rfl
      · have hlog := (Nat.log2_lt hzero).mpr hbound
        omega
    · have hpositive : significand * 2 ^ exponent ≠ 0 :=
        Nat.mul_ne_zero (by omega) (Nat.two_pow_pos exponent).ne'
      have hlog : Nat.log2 (significand * 2 ^ exponent) = 52 + exponent := by
        rw [Nat.log2_eq_iff hpositive, Nat.pow_add, show 52 + exponent + 1 = 53 + exponent by omega,
          Nat.pow_add]
        exact ⟨Nat.mul_le_mul_right _ hfull, Nat.mul_lt_mul_of_pos_right hbound (Nat.two_pow_pos _)⟩
      omega
  have hround :
      roundQuotient (magnitude significand exponent * 2 ^ scale) (2 ^ scale * 2 ^ exponent) = significand := by
    rw [magnitude_eq, Nat.mul_assoc, Nat.mul_comm (2 ^ exponent)]
    exact roundQuotient_exact (Nat.mul_pos (Nat.two_pow_pos _) (Nat.two_pow_pos _)) significand
  rw [ofQuotient_eq, hunit, hround, carry_of_lt hbound hexponent]

theorem ofQuotient_of_huge (hdenominator : 0 < denominator) {power : Nat} (hpower : 1024 ≤ power)
    (hhuge : denominator * 2 ^ power ≤ numerator) :
    ofQuotient negative numerator denominator = .infinite negative := by
  have hquotient : 2 ^ (power + scale) ≤ numerator * 2 ^ scale / denominator := by
    rw [Nat.le_div_iff_mul_le hdenominator, Nat.pow_add, Nat.mul_right_comm, Nat.mul_comm (2 ^ power)]
    exact Nat.mul_le_mul_right _ hhuge
  have hpositive : numerator * 2 ^ scale / denominator ≠ 0 :=
    (Nat.lt_of_lt_of_le (Nat.two_pow_pos _) hquotient).ne'
  have hlog := (Nat.le_log2 hpositive).mpr hquotient
  rw [ofQuotient_eq]
  apply carry_of_gt
  have hscale : scale = 1074 := rfl
  have hmax : maxExponent = 2045 := rfl
  rw [unitExponent_eq]
  omega

theorem ofQuotient_of_tiny (htiny : 2 * (numerator * 2 ^ scale) < denominator) :
    ofQuotient negative numerator denominator = .finite negative 0 0 := by
  have hquotient : numerator * 2 ^ scale / denominator = 0 := Nat.div_eq_of_lt (by omega)
  have hunit : unitExponent numerator denominator = 0 := by
    rw [unitExponent_eq, hquotient]
    rfl
  rw [ofQuotient_eq, hunit, Nat.pow_zero, Nat.mul_one, roundQuotient_of_small htiny]
  exact carry_of_lt (by decide) (by decide)

section Signs

/-- A number with a sign in the place of its own. -/
def withSign (negative : Bool) : Binary64 → Binary64
  | finite _ significand exponent => finite negative significand exponent
  | infinite _ => infinite negative
  | nan object => nan object

/-- The sign has no part in rounding. -/
theorem ofQuotient_eq_withSign (negative : Bool) (numerator denominator : Nat) :
    ofQuotient negative numerator denominator = (ofQuotient false numerator denominator).withSign negative := by
  have hsaturate : ∀ significand exponent,
      saturate negative significand exponent = (saturate false significand exponent).withSign negative := by
    intro significand exponent
    by_cases hexponent : exponent ≤ maxExponent
    · rw [saturate_of_le hexponent, saturate_of_le hexponent, withSign]
    · rw [saturate_of_lt (Nat.lt_of_not_le hexponent), saturate_of_lt (Nat.lt_of_not_le hexponent), withSign]
  rw [ofQuotient_eq, ofQuotient_eq, carry, carry]
  split
  · exact hsaturate _ _
  · exact hsaturate _ _

end Signs

section Decimals

variable {digits : Nat} {power : Int}

theorem two_pow_le_ten_pow (power : Nat) : 2 ^ (3 * power) ≤ 10 ^ power := by
  rw [Nat.pow_mul]
  exact Nat.pow_le_pow_left (by decide) power

/-- A decimal is rounded as the quotient that it is. The powers that are not computed would lead to the same. -/
theorem ofDecimal_eq (hdigits : digits ≠ 0) (negative : Bool) (power : Int) :
    ofDecimal negative digits power = ofQuotient negative (digits * 10 ^ power.toNat) (10 ^ (-power).toNat) := by
  rw [ofDecimal, if_neg hdigits, Nat.pow_eq, Nat.pow_eq]
  dsimp only
  by_cases hhuge : 400 < power
  · have hden : (-power).toNat = 0 := by omega
    rw [if_pos hhuge, hden, Nat.pow_zero]
    have hpower : 1024 ≤ 3 * power.toNat := by omega
    refine (ofQuotient_of_huge Nat.one_pos hpower ?_).symm
    calc 1 * 2 ^ (3 * power.toNat) ≤ 1 * 10 ^ power.toNat := Nat.mul_le_mul_left _ (two_pow_le_ten_pow _)
      _ ≤ digits * 10 ^ power.toNat := Nat.mul_le_mul_right _ (Nat.pos_of_ne_zero hdigits)
  rw [if_neg hhuge]
  by_cases htiny : power < -(400 + (Nat.log2 digits : Int))
  · have hnum : power.toNat = 0 := by omega
    have hscale : scale = 1074 := rfl
    have hpower : Nat.log2 digits + 1 + scale + 1 ≤ 3 * (-power).toNat := by omega
    rw [if_pos htiny, hnum, Nat.pow_zero, Nat.mul_one]
    refine (ofQuotient_of_tiny ?_).symm
    calc 2 * (digits * 2 ^ scale) < 2 * (2 ^ (Nat.log2 digits + 1) * 2 ^ scale) :=
          Nat.mul_lt_mul_of_pos_left (Nat.mul_lt_mul_of_pos_right Nat.lt_log2_self (Nat.two_pow_pos _)) Nat.two_pos
      _ = 2 ^ (Nat.log2 digits + 1 + scale + 1) := by rw [← Nat.pow_add, Nat.pow_succ', Nat.add_assoc]
      _ ≤ 2 ^ (3 * (-power).toNat) := Nat.pow_le_pow_right Nat.two_pos hpower
      _ ≤ 10 ^ (-power).toNat := two_pow_le_ten_pow _
  rw [if_neg htiny]
  by_cases hsign : 0 ≤ power
  · have hden : (-power).toNat = 0 := by omega
    rw [if_pos hsign, hden, Nat.pow_zero]
  · have hnum : power.toNat = 0 := by omega
    rw [if_neg hsign, hnum, Nat.pow_zero, Nat.mul_one]

theorem ofDecimal_zero (negative : Bool) (power : Int) : ofDecimal negative 0 power = .finite negative 0 0 := by
  rw [ofDecimal, if_pos rfl]

theorem isCanonical_ofDecimal (negative : Bool) (digits : Nat) (power : Int) :
    (ofDecimal negative digits power).IsCanonical := by
  by_cases hdigits : digits = 0
  · rw [hdigits, ofDecimal_zero]
    exact ⟨by decide, by decide, Or.inl rfl⟩
  · rw [ofDecimal_eq hdigits]
    exact isCanonical_ofQuotient _ _ _

theorem ofDecimal_eq_withSign (negative : Bool) (digits : Nat) (power : Int) :
    ofDecimal negative digits power = (ofDecimal false digits power).withSign negative := by
  by_cases hdigits : digits = 0
  · rw [hdigits, ofDecimal_zero, ofDecimal_zero, withSign]
  · rw [ofDecimal_eq hdigits, ofDecimal_eq hdigits, ← ofQuotient_eq_withSign]

/-- Zeros at the end of the digits are as good as a greater power. -/
theorem ofDecimal_mul_pow (negative : Bool) (digits zeros : Nat) (power : Int) :
    ofDecimal negative (digits * 10 ^ zeros) power = ofDecimal negative digits (power + zeros) := by
  by_cases hdigits : digits = 0
  · rw [hdigits, Nat.zero_mul, ofDecimal_zero, ofDecimal_zero]
  · have hproduct : digits * 10 ^ zeros ≠ 0 := Nat.mul_ne_zero hdigits (Nat.pow_pos (by decide)).ne'
    have hexponents : zeros + power.toNat + (-(power + zeros)).toNat = (power + zeros).toNat + (-power).toNat := by
      omega
    rw [ofDecimal_eq hproduct, ofDecimal_eq hdigits]
    apply ofQuotient_congr (Nat.pow_pos (by decide)) (Nat.pow_pos (by decide))
    rw [Nat.mul_assoc, Nat.mul_assoc, Nat.mul_assoc, ← Nat.pow_add, ← Nat.pow_add, ← Nat.pow_add,
      ← Nat.add_assoc, hexponents]

theorem ofDecimal_exactDecimal (hcanonical : (finite negative significand exponent).IsCanonical)
    (hsignificand : significand ≠ 0) :
    ofDecimal negative (exactDecimal significand exponent).digits (exactDecimal significand exponent).power =
      .finite negative significand exponent := by
  have hdigits : magnitude significand exponent * 5 ^ scale ≠ 0 :=
    Nat.mul_ne_zero (Nat.mul_ne_zero hsignificand (Nat.two_pow_pos _).ne') (Nat.pow_pos (by decide)).ne'
  have hnum : (-(scale : Int)).toNat = 0 := by omega
  have hden : (- -(scale : Int)).toNat = scale := by omega
  rw [exactDecimal, Nat.pow_eq, ofDecimal_eq hdigits, hnum, hden, Nat.pow_zero, Nat.mul_one,
    ← ofQuotient_magnitude hcanonical]
  apply ofQuotient_congr (Nat.pow_pos (by decide)) (Nat.two_pow_pos _)
  rw [Nat.mul_assoc, ← Nat.mul_pow]

/-- The shortest decimal of a number reads back as the number. -/
theorem ofDecimal_shortest (hcanonical : (finite negative significand exponent).IsCanonical)
    (hsignificand : significand ≠ 0) :
    ofDecimal negative (shortest significand exponent).digits (shortest significand exponent).power =
      .finite negative significand exponent := by
  rw [shortest]
  cases hfound : (List.range 17).findSome? fun count =>
      (neighbours (exactDecimal significand exponent) (count + 1)).find? (readsAs significand exponent) with
  | none => exact ofDecimal_exactDecimal hcanonical hsignificand
  | some decimal =>
      obtain ⟨count, -, hdecimal⟩ := List.exists_of_findSome?_eq_some hfound
      have hreads : readsAs significand exponent decimal = true := List.find?_some hdecimal
      rw [readsAs, beq_iff_eq] at hreads
      rw [Option.getD_some, ofDecimal_eq_withSign, hreads, withSign]

end Decimals

end SassBridge.Binary64
