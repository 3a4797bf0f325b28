import SassBridge.Proofs.Number.Rounding

/-! Decimal text of doubles. However it is laid out, it has a whole part, perhaps a fraction and perhaps an exponent,
which together are the number that was written, and each of them is read up to where it ends. -/

namespace SassBridge.Binary64

section Digits

theorem isDigit_naturalDigits (n : Nat) : ∀ c ∈ naturalDigits n, c.isDigit = true :=
  fun _ hc => Nat.isDigit_of_mem_toDigits (by decide) (by decide) hc

theorem isDigit_zero : ∀ c ∈ ['0'], c.isDigit = true :=
  List.forall_mem_singleton.mpr rfl

theorem isDigit_zeros (count : Nat) : ∀ c ∈ List.replicate count '0', c.isDigit = true := by
  intro c hc
  rw [List.eq_of_mem_replicate hc]
  rfl

theorem naturalDigits_ne_nil (n : Nat) : naturalDigits n ≠ [] :=
  Nat.toDigits_ne_nil

theorem ofDigits_eq (digits : List Char) : ofDigits digits = Nat.ofDigitChars 10 digits 0 :=
  Nat.ofDigitChars_eq_foldl.symm

theorem ofDigits_naturalDigits (n : Nat) : ofDigits (naturalDigits n) = n := by
  rw [ofDigits_eq, naturalDigits, Nat.ofDigitChars_ten_toDigits]

theorem ofDigits_zero_cons (digits : List Char) : ofDigits ('0' :: digits) = ofDigits digits := rfl

theorem ofDigits_zeros (zeros : Nat) (digits : List Char) :
    ofDigits (List.replicate zeros '0' ++ digits) = ofDigits digits := by
  induction zeros with
  | zero => rfl
  | succ zeros ih => rw [List.replicate_succ, List.cons_append, ofDigits_zero_cons, ih]

theorem ofDigits_append_zeros (digits : List Char) (zeros : Nat) :
    ofDigits (digits ++ List.replicate zeros '0') = ofDigits digits * 10 ^ zeros := by
  induction zeros with
  | zero => simp
  | succ zeros ih =>
      rw [List.replicate_succ', ← List.append_assoc, ofDigits, List.foldl_append, ← ofDigits, ih, Nat.pow_succ]
      simp only [List.foldl_cons, List.foldl_nil]
      rw [Nat.mul_comm 10, Nat.mul_assoc]
      rfl

/-- The digits of a positive number do not start with a zero. -/
theorem head_naturalDigits {n : Nat} (hn : 0 < n) : (naturalDigits n).head? ≠ some '0' := by
  induction n using Nat.strong_induction_on with
  | _ n ih =>
      rw [naturalDigits, Nat.toDigits_eq_if (by decide)]
      split
      · next hsmall =>
          have hall : ∀ m < 10, 0 < m → [Nat.digitChar m].head? ≠ some '0' := by decide
          exact hall n hsmall hn
      · next hlarge =>
          have hfront := ih (n / 10) (by omega) (by omega)
          rw [naturalDigits] at hfront
          rw [List.head?_append]
          cases hhead : (Nat.toDigits 10 (n / 10)).head? with
          | none => exact absurd (List.head?_eq_none_iff.mp hhead) Nat.toDigits_ne_nil
          | some c => rwa [hhead] at hfront

end Digits

section Reading

variable {digits rest : List Char}

theorem spanDigits_append (hdigits : ∀ c ∈ digits, c.isDigit = true) (hrest : ∀ c ∈ rest.head?, c.isDigit = false) :
    spanDigits (digits ++ rest) = (digits, rest) := by
  rw [spanDigits, List.takeWhile_append_of_pos hdigits, List.dropWhile_append_of_pos hdigits]
  cases rest with
  | nil => simp
  | cons c rest =>
      have hc := hrest c rfl
      simp [hc]

theorem readFraction_append (hne : digits ≠ []) (hdigits : ∀ c ∈ digits, c.isDigit = true)
    (hrest : ∀ c ∈ rest.head?, c.isDigit = false) : readFraction ('.' :: digits ++ rest) = (digits, rest) := by
  rw [List.cons_append, readFraction, spanDigits_append hdigits hrest]
  cases digits with
  | nil => exact absurd rfl hne
  | cons c digits => rfl

theorem readFraction_none (hrest : rest.head? ≠ some '.') : readFraction rest = ([], rest) := by
  unfold readFraction
  split
  · exact absurd rfl hrest
  · rfl

/-- The digits of an exponent, at least two. -/
def exponentDigits (exponent : Int) : List Char :=
  let digits := naturalDigits exponent.natAbs
  if digits.length < 2 then '0' :: digits else digits

theorem isDigit_exponentDigits (exponent : Int) : ∀ c ∈ exponentDigits exponent, c.isDigit = true := by
  rw [exponentDigits]
  split
  · rw [List.forall_mem_cons]
    exact ⟨by decide, isDigit_naturalDigits _⟩
  · exact isDigit_naturalDigits _

theorem ofDigits_exponentDigits (exponent : Int) : ofDigits (exponentDigits exponent) = exponent.natAbs := by
  rw [exponentDigits]
  split
  · rw [ofDigits_zero_cons, ofDigits_naturalDigits]
  · exact ofDigits_naturalDigits _

theorem readExponent_append (exponent : Int) (hrest : ∀ c ∈ rest.head?, c.isDigit = false) :
    readExponent (exponentText exponent ++ rest) = (some exponent, rest) := by
  have htext : exponentText exponent ++ rest =
      'e' :: (if exponent < 0 then '-' else '+') :: (exponentDigits exponent ++ rest) := rfl
  have hspan := spanDigits_append (isDigit_exponentDigits exponent) hrest
  obtain ⟨first, others, hdigits⟩ : ∃ first others, exponentDigits exponent = first :: others := by
    apply List.exists_cons_of_ne_nil
    rw [exponentDigits]
    split
    · exact List.cons_ne_nil _ _
    · exact naturalDigits_ne_nil _
  have hvalue := ofDigits_exponentDigits exponent
  rw [hdigits] at hspan hvalue
  rw [htext, hdigits]
  by_cases hsign : exponent < 0
  · have hnegative : -(exponent.natAbs : Int) = exponent := by omega
    rw [if_pos hsign]
    simp only [readExponent, true_or, if_true, hspan, hvalue, hnegative]
  · have hpositive : (exponent.natAbs : Int) = exponent := by omega
    rw [if_neg hsign]
    simp only [readExponent, true_or, if_true, hspan, hvalue, Bool.false_eq_true, if_false, hpositive]

theorem readExponent_none (hrest : ∀ c ∈ rest.head?, c ≠ 'e' ∧ c ≠ 'E') : readExponent rest = (none, rest) := by
  cases rest with
  | nil => rfl
  | cons c rest =>
      obtain ⟨hsmall, hcapital⟩ := hrest c rfl
      simp [readExponent, hsmall, hcapital]

end Reading

section Writing

/-- The zeros at the end of the digits of a decimal are left out, and the others start with none. -/
theorem normalDigits_spec {decimal : Decimal} (hdigits : decimal.digits ≠ 0) :
    ∃ zeros, naturalDigits decimal.digits = (normalDigits decimal).1 ++ List.replicate zeros '0' ∧
      (normalDigits decimal).1 ≠ [] ∧ (normalDigits decimal).1.head? ≠ some '0' := by
  have hhead := head_naturalDigits (Nat.pos_of_ne_zero hdigits)
  have hsplit : naturalDigits decimal.digits = (normalDigits decimal).1 ++
      ((naturalDigits decimal.digits).reverse.takeWhile (· = '0')).reverse := by
    rw [normalDigits, ← List.reverse_append, List.takeWhile_append_dropWhile, List.reverse_reverse]
  have hzeros : ∀ c ∈ ((naturalDigits decimal.digits).reverse.takeWhile (· = '0')).reverse, c = '0' := by
    intro c hc
    have hall := List.all_eq_true.mp List.all_takeWhile c (List.mem_reverse.mp hc)
    exact of_decide_eq_true hall
  rw [List.eq_replicate_of_mem hzeros] at hsplit
  have hne : (normalDigits decimal).1 ≠ [] := by
    intro hnil
    rw [hnil, List.nil_append] at hsplit
    cases hcount : ((naturalDigits decimal.digits).reverse.takeWhile (· = '0')).reverse.length with
    | zero =>
        rw [hcount] at hsplit
        exact naturalDigits_ne_nil _ hsplit
    | succ count =>
        rw [hsplit, hcount] at hhead
        exact hhead rfl
  refine ⟨_, hsplit, hne, fun hzero => hhead ?_⟩
  rw [hsplit, List.head?_append, hzero]
  rfl

theorem ofDecimal_normalDigits {decimal : Decimal} (hdigits : decimal.digits ≠ 0) (negative : Bool) :
    ofDecimal negative (ofDigits (normalDigits decimal).1)
        ((normalDigits decimal).2 - (normalDigits decimal).1.length) =
      ofDecimal negative decimal.digits decimal.power := by
  obtain ⟨zeros, hsplit, -, -⟩ := normalDigits_spec hdigits
  have hvalue : decimal.digits = ofDigits (normalDigits decimal).1 * 10 ^ zeros := by
    rw [← ofDigits_append_zeros, ← hsplit, ofDigits_naturalDigits]
  have hlength := congrArg List.length hsplit
  rw [List.length_append, List.length_replicate] at hlength
  have hpower : (normalDigits decimal).2 - (normalDigits decimal).1.length = decimal.power + zeros := by
    have hpoint : (normalDigits decimal).2 = decimal.power + (naturalDigits decimal.digits).length := rfl
    omega
  rw [hpower, ← ofDecimal_mul_pow, ← hvalue]

/-- The text of a number without its sign: a whole part, perhaps a fraction and perhaps an exponent. -/
def partsText (whole fraction : List Char) (exponent : Option Int) : List Char :=
  whole ++ ((if fraction.isEmpty then [] else '.' :: fraction) ++ (exponent.map exponentText).getD [])

/-- Whether the parts can be told apart when they are read, and are not taken for an integer. -/
structure AreParts (whole fraction : List Char) (exponent : Option Int) : Prop where
  isDigit_whole : ∀ c ∈ whole, c.isDigit = true
  start : whole = ['0'] ∨ whole ≠ [] ∧ whole.head? ≠ some '0'
  isDigit_fraction : ∀ c ∈ fraction, c.isDigit = true
  float : fraction ≠ [] ∨ exponent.isSome

theorem AreParts.whole_ne_nil {whole fraction : List Char} {exponent : Option Int}
    (hparts : AreParts whole fraction exponent) : whole ≠ [] := by
  rcases hparts.start with rfl | ⟨hne, -⟩
  · simp
  · exact hne

/-- Whether a text does not go on with a number. -/
def EndsNumber (rest : List Char) : Prop :=
  ∀ c ∈ rest.head?, c.isDigit = false ∧ c ≠ '.' ∧ c ≠ 'e' ∧ c ≠ 'E'

section Parts

variable {whole fraction rest : List Char} {exponent : Option Int}

/-- What follows the digits of a number. -/
theorem head_tail_parts (hrest : EndsNumber rest) :
    ∀ c ∈ ((exponent.map exponentText).getD [] ++ rest).head?, c.isDigit = false ∧ c ≠ '.' := by
  cases exponent with
  | none =>
      intro c hc
      obtain ⟨hdigit, hpoint, -⟩ := hrest c hc
      exact ⟨hdigit, hpoint⟩
  | some exponent =>
      intro c hc
      obtain rfl := Option.some.inj (hc : some 'e' = some c)
      decide

theorem readFraction_parts (hfraction : ∀ c ∈ fraction, c.isDigit = true) {tail : List Char}
    (htail : ∀ c ∈ tail.head?, c.isDigit = false ∧ c ≠ '.') :
    readFraction ((if fraction.isEmpty then [] else '.' :: fraction) ++ tail) = (fraction, tail) := by
  cases fraction with
  | nil =>
      apply readFraction_none
      intro hpoint
      exact (htail '.' hpoint).2 rfl
  | cons c fraction => exact readFraction_append (by simp) hfraction fun c hc => (htail c hc).1

theorem readExponent_parts (hrest : EndsNumber rest) :
    readExponent ((exponent.map exponentText).getD [] ++ rest) = (exponent, rest) := by
  cases exponent with
  | none => exact readExponent_none fun c hc => (hrest c hc).2.2
  | some exponent => exact readExponent_append exponent fun c hc => (hrest c hc).1

end Parts

/-- Whether a text has parts that denote what digits around a point do. -/
structure Writes (text digits : List Char) (point : Int) (whole fraction : List Char) (exponent : Option Int) :
    Prop where
  text_eq : text = partsText whole fraction exponent
  parts : AreParts whole fraction exponent
  value : ∀ negative,
    ofParts negative whole fraction exponent = ofDecimal negative (ofDigits digits) (point - digits.length)

variable {digits : List Char} {point : Int} (hdigits : ∀ c ∈ digits, c.isDigit = true) (hne : digits ≠ [])
  (hstart : digits.head? ≠ some '0')

include hdigits in
/-- Digits behind the point, with zeros before them. -/
theorem layout_small (hlow : -4 < point) (hhigh : point ≤ 0) (hne : digits ≠ []) :
    Writes (layout digits point) digits point ['0'] (List.replicate (-point).toNat '0' ++ digits) none := by
  have hfraction : List.replicate (-point).toNat '0' ++ digits ≠ [] := by simp [hne]
  refine ⟨?_, ⟨isDigit_zero, Or.inl rfl, List.forall_mem_append.mpr ⟨isDigit_zeros _, hdigits⟩, Or.inl hfraction⟩, ?_⟩
  · rw [layout, if_pos ⟨hlow, by omega⟩, if_pos hhigh, partsText, List.isEmpty_eq_false_iff.mpr hfraction]
    simp
  · intro negative
    have hpower : (none : Option Int).getD 0 - (List.replicate (-point).toNat '0' ++ digits).length =
        point - digits.length := by
      rw [List.length_append, List.length_replicate, Option.getD_none]
      omega
    rw [ofParts, hpower, List.singleton_append, ofDigits_zero_cons, ofDigits_zeros]

theorem layout_of_pos (hlow : 0 < point) (hhigh : point ≤ 16) :
    layout digits point =
      (digits.take point.toNat ++ List.replicate (point.toNat - (digits.take point.toNat).length) '0') ++ '.' ::
        (if (digits.drop point.toNat).isEmpty then ['0'] else digits.drop point.toNat) := by
  rw [layout, if_pos ⟨by omega, hhigh⟩, if_neg (by omega)]

include hdigits hne hstart in
/-- Digits on both sides of the point. -/
theorem layout_around (hlow : 0 < point) (hhigh : point ≤ 16) (hlong : point.toNat < digits.length) :
    Writes (layout digits point) digits point (digits.take point.toNat) (digits.drop point.toNat) none := by
  have htake : (digits.take point.toNat).length = point.toNat := List.length_take_of_le (by omega)
  have hrest : digits.drop point.toNat ≠ [] := by
    rw [Ne, List.drop_eq_nil_iff]
    omega
  refine ⟨?_, ⟨?_, Or.inr ⟨?_, ?_⟩, ?_, Or.inl hrest⟩, ?_⟩
  · rw [layout_of_pos hlow hhigh, htake, Nat.sub_self, List.replicate_zero, List.append_nil,
      List.isEmpty_eq_false_iff.mpr hrest, partsText, List.isEmpty_eq_false_iff.mpr hrest]
    simp
  · exact fun c hc => hdigits c (List.mem_of_mem_take hc)
  · rw [Ne, List.take_eq_nil_iff]
    simp only [hne, or_false]
    omega
  · rwa [List.head?_take, if_neg (by omega)]
  · exact fun c hc => hdigits c (List.mem_of_mem_drop hc)
  · intro negative
    have hpower : (none : Option Int).getD 0 - (digits.drop point.toNat).length = point - digits.length := by
      rw [List.length_drop, Option.getD_none]
      omega
    rw [ofParts, hpower, List.take_append_drop]

include hdigits hne hstart in
/-- Digits and zeros up to the point, and a zero behind it. -/
theorem layout_before (hlow : 0 < point) (hhigh : point ≤ 16) (hshort : digits.length ≤ point.toNat) :
    Writes (layout digits point) digits point (digits ++ List.replicate (point.toNat - digits.length) '0') ['0']
      none := by
  refine ⟨?_, ⟨List.forall_mem_append.mpr ⟨hdigits, isDigit_zeros _⟩, Or.inr ⟨by simp [hne], ?_⟩, isDigit_zero,
    Or.inl (by decide)⟩, ?_⟩
  · rw [layout_of_pos hlow hhigh, List.take_of_length_le hshort, List.drop_eq_nil_iff.mpr hshort, partsText]
    simp
  · obtain ⟨first, others, rfl⟩ := List.exists_cons_of_ne_nil hne
    exact hstart
  · intro negative
    have hzeros : digits ++ List.replicate (point.toNat - digits.length) '0' ++ ['0'] =
        digits ++ List.replicate (point.toNat - digits.length + 1) '0' := by
      rw [List.replicate_succ', List.append_assoc]
    have hpower : (none : Option Int).getD 0 - (['0'] : List Char).length + (point.toNat - digits.length + 1 : Nat) =
        point - digits.length := by
      rw [Option.getD_none, List.length_singleton]
      omega
    rw [ofParts, hzeros, ofDigits_append_zeros, ofDecimal_mul_pow, hpower]

include hdigits hne hstart in
/-- One digit before the point, and an exponent. -/
theorem layout_large (hrange : ¬(-4 < point ∧ point ≤ 16)) :
    Writes (layout digits point) digits point (digits.take 1) (digits.drop 1) (some (point - 1)) := by
  refine ⟨?_, ⟨?_, Or.inr ⟨by simp [hne], ?_⟩, ?_, Or.inr rfl⟩, ?_⟩
  · rw [layout, if_neg hrange, partsText]
    simp
  · exact fun c hc => hdigits c (List.mem_of_mem_take hc)
  · rwa [List.head?_take, if_neg (by decide)]
  · exact fun c hc => hdigits c (List.mem_of_mem_drop hc)
  · intro negative
    have hlength : 0 < digits.length := List.length_pos_iff.mpr hne
    have hpower : (some (point - 1)).getD 0 - (digits.drop 1).length = point - digits.length := by
      rw [List.length_drop, Option.getD_some]
      omega
    rw [ofParts, hpower, List.take_append_drop]

include hdigits hne hstart in
theorem layout_eq (point : Int) :
    ∃ whole fraction exponent, Writes (layout digits point) digits point whole fraction exponent := by
  by_cases hrange : -4 < point ∧ point ≤ 16
  · by_cases hsmall : point ≤ 0
    · exact ⟨_, _, _, layout_small hdigits hrange.1 hsmall hne⟩
    · by_cases hlong : point.toNat < digits.length
      · exact ⟨_, _, _, layout_around hdigits hne hstart (Int.lt_of_not_ge hsmall) hrange.2 hlong⟩
      · exact ⟨_, _, _, layout_before hdigits hne hstart (Int.lt_of_not_ge hsmall) hrange.2 (Nat.le_of_not_lt hlong)⟩
  · exact ⟨_, _, _, layout_large hdigits hne hstart hrange⟩

end Writing

/-- A number of the format is written in parts that are the number. -/
theorem magnitudeText_eq {significand exponent : Nat} {negative : Bool}
    (hcanonical : (finite negative significand exponent).IsCanonical) :
    ∃ whole fraction power, magnitudeText significand exponent = partsText whole fraction power ∧
      AreParts whole fraction power ∧
      ofParts negative whole fraction power = .finite negative significand exponent := by
  by_cases hzero : significand = 0
  · subst hzero
    obtain rfl : exponent = 0 := by
      obtain ⟨-, -, hleast | hfull⟩ := hcanonical
      · exact hleast
      · exact absurd hfull (by decide)
    exact ⟨['0'], ['0'], none, rfl, ⟨isDigit_zero, Or.inl rfl, isDigit_zero, Or.inl (by decide)⟩, ofDecimal_zero _ _⟩
  · have hshortest := ofDecimal_shortest hcanonical hzero
    have hdigits : (shortest significand exponent).digits ≠ 0 := by
      intro hnone
      rw [hnone, ofDecimal_zero] at hshortest
      injection hshortest with _ hsignificand
      exact hzero hsignificand.symm
    obtain ⟨zeros, hsplit, hne, hstart⟩ := normalDigits_spec hdigits
    have hall : ∀ c ∈ (normalDigits (shortest significand exponent)).1, c.isDigit = true := by
      intro c hc
      apply isDigit_naturalDigits (shortest significand exponent).digits
      rw [hsplit]
      exact List.mem_append_left _ hc
    obtain ⟨whole, fraction, power, hwrites⟩ :=
      layout_eq hall hne hstart (normalDigits (shortest significand exponent)).2
    refine ⟨whole, fraction, power, ?_, hwrites.parts, ?_⟩
    · rw [magnitudeText, if_neg hzero]
      exact hwrites.text_eq
    · rw [hwrites.value, ofDecimal_normalDigits hdigits, hshortest]

end SassBridge.Binary64
