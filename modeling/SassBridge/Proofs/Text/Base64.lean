import SassBridge.Text.Base64

/-! Base64 reads back what it writes. A group of three octets is a number below `2 ^ 24`, which its four digits give
again; a last group of one or two octets is padded, and no digit is the padding. -/

namespace SassBridge.Base64

theorem digitValue?_digit {n : Nat} (hn : n < 64) : digitValue? (digit n) = some n := by
  have hall : ∀ n < 64, digitValue? (digit n) = some n := by decide
  exact hall n hn

theorem digit_ne_padding {n : Nat} (hn : n < 64) : digit n ≠ '=' := by
  have hall : ∀ n < 64, digit n ≠ '=' := by decide
  exact hall n hn

/-- A group of two octets. -/
theorem decode?_two {a b c : Char} (hc : c ≠ '=') :
    decode? [a, b, c, '='] = (do
      let n := ((← digitValue? a) * 64 + (← digitValue? b)) * 64 + (← digitValue? c)
      return [.ofNat (n / 1024), .ofNat (n / 4 % 256)]) := by
  rw [decode?]
  exact fun hpadding => hc hpadding

/-- A group that does not end in padding is read by itself. -/
theorem decode?_three {a b c d : Char} (hd : d ≠ '=') (rest : List Char) :
    decode? (a :: b :: c :: d :: rest) = (do
      let n := (((← digitValue? a) * 64 + (← digitValue? b)) * 64 + (← digitValue? c)) * 64 + (← digitValue? d)
      return .ofNat (n / 65536) :: .ofNat (n / 256 % 256) :: .ofNat (n % 256) :: (← decode? rest)) := by
  rw [decode?]
  · exact fun _ hpadding _ => hd hpadding
  · exact fun hpadding _ => hd hpadding

theorem ofNat_octet (octet : UInt8) {n : Nat} (hn : n = octet.toNat) : UInt8.ofNat n = octet := by
  rw [hn, UInt8.ofNat_toNat]

theorem decode?_encode (octets : List UInt8) : decode? (encode octets) = some octets := by
  fun_induction encode octets with
  | case1 => rfl
  | case2 a n =>
      have ha := a.toNat_lt
      have hfirst : (n / 64 * 64 + n % 64) / 16 = a.toNat := by omega
      simp only [decode?, digitValue?_digit (show n / 64 < 64 by omega), digitValue?_digit (show n % 64 < 64 by omega),
        Option.bind_eq_bind, Option.bind_some, ofNat_octet a hfirst]
      rfl
  | case3 a b n =>
      have ha := a.toNat_lt
      have hb := b.toNat_lt
      have hdigits : (n / 4096 * 64 + n / 64 % 64) * 64 + n % 64 = n := by omega
      rw [decode?_two (digit_ne_padding (show n % 64 < 64 by omega)), digitValue?_digit (show n / 4096 < 64 by omega),
        digitValue?_digit (show n / 64 % 64 < 64 by omega), digitValue?_digit (show n % 64 < 64 by omega)]
      simp only [Option.bind_eq_bind, Option.bind_some, hdigits, ofNat_octet a (show n / 1024 = a.toNat by omega),
        ofNat_octet b (show n / 4 % 256 = b.toNat by omega)]
      rfl
  | case4 a b c rest n ih =>
      have ha := a.toNat_lt
      have hb := b.toNat_lt
      have hc := c.toNat_lt
      have hdigits : ((n / 262144 * 64 + n / 4096 % 64) * 64 + n / 64 % 64) * 64 + n % 64 = n := by omega
      rw [decode?_three (digit_ne_padding (show n % 64 < 64 by omega)), ih,
        digitValue?_digit (show n / 262144 < 64 by omega), digitValue?_digit (show n / 4096 % 64 < 64 by omega),
        digitValue?_digit (show n / 64 % 64 < 64 by omega), digitValue?_digit (show n % 64 < 64 by omega)]
      simp only [Option.bind_eq_bind, Option.bind_some, hdigits, ofNat_octet a (show n / 65536 = a.toNat by omega),
        ofNat_octet b (show n / 256 % 256 = b.toNat by omega), ofNat_octet c (show n % 256 = c.toNat by omega)]
      rfl

/-- What is written are digits and padding. -/
theorem mem_encode {octets : List UInt8} {c : Char} (hc : c ∈ encode octets) :
    c = '=' ∨ ∃ n < 64, c = digit n := by
  fun_induction encode octets with
  | case1 => cases hc
  | case2 a n =>
      have ha := a.toNat_lt
      simp only [List.mem_cons, List.not_mem_nil, or_false] at hc
      rcases hc with rfl | rfl | rfl | rfl
      · exact Or.inr ⟨n / 64, by omega, rfl⟩
      · exact Or.inr ⟨n % 64, by omega, rfl⟩
      · exact Or.inl rfl
      · exact Or.inl rfl
  | case3 a b n =>
      have ha := a.toNat_lt
      have hb := b.toNat_lt
      simp only [List.mem_cons, List.not_mem_nil, or_false] at hc
      rcases hc with rfl | rfl | rfl | rfl
      · exact Or.inr ⟨n / 4096, by omega, rfl⟩
      · exact Or.inr ⟨n / 64 % 64, by omega, rfl⟩
      · exact Or.inr ⟨n % 64, by omega, rfl⟩
      · exact Or.inl rfl
  | case4 a b c rest n ih =>
      have ha := a.toNat_lt
      have hb := b.toNat_lt
      have hc' := c.toNat_lt
      simp only [List.mem_cons] at hc
      rcases hc with rfl | rfl | rfl | rfl | hrest
      · exact Or.inr ⟨n / 262144, by omega, rfl⟩
      · exact Or.inr ⟨n / 4096 % 64, by omega, rfl⟩
      · exact Or.inr ⟨n / 64 % 64, by omega, rfl⟩
      · exact Or.inr ⟨n % 64, by omega, rfl⟩
      · exact ih hrest

end SassBridge.Base64
