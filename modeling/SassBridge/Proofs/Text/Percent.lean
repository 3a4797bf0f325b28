import SassBridge.Proofs.Text.Occurrence
import SassBridge.Proofs.Text.Utf8
import SassBridge.Text.Percent

/-! Escapes are undone by unescaping, whichever ASCII characters are left alone, as long as the percent sign is
not one of them. What is written has only such characters, the percent sign and digits. -/

namespace SassBridge

theorem Hex.digitValue_upperDigit {n : Nat} (hn : n < 16) : digitValue? (upperDigit n) = some n := by
  have hall : ∀ n < 16, digitValue? (upperDigit n) = some n := by decide
  exact hall n hn

namespace Percent

theorem alwaysSafe_upperDigit {n : Nat} (hn : n < 16) : alwaysSafe (Hex.upperDigit n) = true := by
  have hall : ∀ n < 16, alwaysSafe (Hex.upperDigit n) = true := by decide
  exact hall n hn

/-- What a set of characters that are left alone has to be for escapes to be read back. -/
structure IsSafeSet (safe : Char → Bool) : Prop where
  ascii : ∀ c, safe c = true → c.toNat < 0x80
  percent : safe '%' = false
  always : ∀ c, alwaysSafe c = true → safe c = true

theorem unescapeFrom_escapeOctet (state : Utf8.State) (octet : UInt8) (rest : List Char) :
    unescapeFrom state (escapeOctet octet ++ rest) =
      (Utf8.feed state octet).1 ++ unescapeFrom (Utf8.feed state octet).2 rest := by
  have hoctet := octet.toNat_lt
  have hvalue : 16 * (octet.toNat / 16) + octet.toNat % 16 = octet.toNat := by omega
  simp only [escapeOctet, List.cons_append, List.nil_append]
  rw [unescapeFrom, if_pos (by decide)]
  simp only [Hex.digitValue_upperDigit (show octet.toNat / 16 < 16 by omega),
    Hex.digitValue_upperDigit (show octet.toNat % 16 < 16 by omega), hvalue, UInt8.ofNat_toNat]

theorem unescapeFrom_escapeOctets (state : Utf8.State) (octets : List UInt8) (rest : List Char) :
    unescapeFrom state (octets.flatMap escapeOctet ++ rest) =
      (Utf8.feedAll state octets).1 ++ unescapeFrom (Utf8.feedAll state octets).2 rest := by
  induction octets generalizing state with
  | nil => rfl
  | cons octet octets ih =>
      rw [List.flatMap_cons, List.append_assoc, unescapeFrom_escapeOctet, ih, Utf8.feedAll_cons,
        List.append_assoc]

theorem unescapeFrom_ascii {c : Char} (hc : c.toNat < 0x80) (hpercent : c ≠ '%') (rest : List Char) :
    unescapeFrom .ready (c :: rest) = c :: unescapeFrom .ready rest := by
  rw [unescapeFrom, if_pos hc]
  · simp only [Utf8.feed_ready_one hc, Char.ofNat_toNat, List.cons_append, List.nil_append]
  · exact fun _ _ _ heq _ => hpercent heq

theorem unescapeFrom_escapeChar {safe : Char → Bool} (hsafe : IsSafeSet safe) (c : Char) (rest : List Char) :
    unescapeFrom .ready (escapeChar safe c ++ rest) = c :: unescapeFrom .ready rest := by
  rw [escapeChar]
  split
  · next hc =>
    have hpercent : c ≠ '%' := by
      rintro rfl
      rw [hsafe.percent] at hc
      cases hc
    exact unescapeFrom_ascii (hsafe.ascii c hc) hpercent rest
  · rw [unescapeFrom_escapeOctets, Utf8.feedAll_encodeChar, List.singleton_append]

/-- Unescaping undoes escaping. -/
theorem unescape_escape {safe : Char → Bool} (hsafe : IsSafeSet safe) (text : List Char) :
    unescape (escape safe text) = text := by
  induction text with
  | nil => rfl
  | cons c text ih =>
      rw [unescape, escape, List.flatMap_cons, unescapeFrom_escapeChar hsafe]
      exact congrArg (c :: ·) ih

/-- Escapes of octets consist of the percent sign and digits. -/
theorem mem_escapeOctets {octets : List UInt8} {c : Char} (hc : c ∈ octets.flatMap escapeOctet) :
    c = '%' ∨ alwaysSafe c = true := by
  obtain ⟨octet, -, hoctet⟩ := List.mem_flatMap.mp hc
  have hlt := octet.toNat_lt
  simp only [escapeOctet, List.mem_cons, List.not_mem_nil, or_false] at hoctet
  rcases hoctet with rfl | rfl | rfl
  · exact Or.inl rfl
  · exact Or.inr (alwaysSafe_upperDigit (by omega))
  · exact Or.inr (alwaysSafe_upperDigit (by omega))

theorem mem_escape {safe : Char → Bool} (hsafe : IsSafeSet safe) {text : List Char} {c : Char}
    (hc : c ∈ escape safe text) : safe c = true ∨ c = '%' := by
  obtain ⟨d, -, hd⟩ := List.mem_flatMap.mp hc
  rw [escapeChar] at hd
  split at hd
  · next hsafed =>
    rw [List.mem_singleton.mp hd]
    exact Or.inl hsafed
  · exact (mem_escapeOctets hd).symm.imp_left (hsafe.always c)

section Kept

/-! A character that is left alone, and that no escape contains, stands in the escaped text exactly where it stood. -/

variable {safe : Char → Bool} {first second : Char}

/-- Whether a character is left alone without being one of those that escapes are made of. -/
def IsKept (safe : Char → Bool) (c : Char) : Prop :=
  safe c = true ∧ c ≠ '%' ∧ alwaysSafe c = false

theorem IsKept.not_mem_escapeOctets (hfirst : IsKept safe first) (octets : List UInt8) :
    first ∉ octets.flatMap escapeOctet := by
  intro hmem
  rcases mem_escapeOctets hmem with hpercent | halways
  · exact hfirst.2.1 hpercent
  · rw [hfirst.2.2] at halways
    cases halways

theorem IsKept.mem_escapeChar_iff (hfirst : IsKept safe first) (c : Char) : first ∈ escapeChar safe c ↔ c = first := by
  rw [escapeChar]
  split
  · rw [List.mem_singleton, eq_comm]
  · next hc =>
    refine iff_of_false (hfirst.not_mem_escapeOctets _) ?_
    rintro rfl
    exact hc hfirst.1

theorem escapeChar_ne_nil (safe : Char → Bool) (c : Char) : escapeChar safe c ≠ [] := by
  rw [escapeChar]
  split
  · exact List.cons_ne_nil c []
  · rw [Utf8.encodeChar]
    split_ifs <;> exact List.cons_ne_nil _ _

theorem IsKept.getLast?_escapeChar (hfirst : IsKept safe first) (c : Char) :
    (escapeChar safe c).getLast? = some first ↔ c = first := by
  constructor
  · exact fun hlast => (hfirst.mem_escapeChar_iff c).mp (List.mem_of_getLast? hlast)
  · rintro rfl
    rw [escapeChar, if_pos hfirst.1]
    rfl

theorem IsKept.head?_escape (hsecond : IsKept safe second) (text : List Char) :
    (escape safe text).head? = some second ↔ text.head? = some second := by
  cases text with
  | nil => rfl
  | cons c text =>
      rw [escape, List.flatMap_cons, List.head?_append_of_ne_nil _ (escapeChar_ne_nil safe c), List.head?_cons,
        Option.some.injEq]
      constructor
      · exact fun hhead => (hsecond.mem_escapeChar_iff c).mp (List.mem_of_head? hhead)
      · rintro rfl
        rw [escapeChar, if_pos hsecond.1]
        rfl

theorem IsKept.parted_escapeChar (hfirst : IsKept safe first) (c : Char) :
    Text.Parted first second (escapeChar safe c) := by
  rw [escapeChar]
  split
  · exact List.IsChain.singleton c
  · exact Text.parted_of_not_mem (hfirst.not_mem_escapeOctets _)

/-- Two such characters follow one another in the escaped text only where they did before. -/
theorem parted_escape_iff (hfirst : IsKept safe first) (hsecond : IsKept safe second) (text : List Char) :
    Text.Parted first second (escape safe text) ↔ Text.Parted first second text := by
  induction text with
  | nil => rfl
  | cons c text ih =>
      have hone : Text.Parted first second [c] := List.IsChain.singleton c
      have hsplit : Text.Parted first second ([c] ++ text) ↔ _ := Text.parted_append_iff
      rw [escape, List.flatMap_cons, ← escape, Text.parted_append_iff, hfirst.getLast?_escapeChar,
        hsecond.head?_escape, ih, and_iff_right (hfirst.parted_escapeChar c), ← List.singleton_append, hsplit,
        and_iff_right hone]
      simp only [List.getLast?_singleton, Option.some.injEq]

end Kept

theorem toNat_lt_of_safeInUri {c : Char} (hc : safeInUri c = true) : c.toNat < 0x80 := by
  have hmarks : ['_', '.', '-', '~'].all (fun d => decide (d.toNat < 0x80)) = true := by decide
  have hreserved : reserved.all (fun d => decide (d.toNat < 0x80)) = true := by decide
  simp only [safeInUri, alwaysSafe, Bool.or_eq_true, decide_eq_true_eq, Bool.decide_and, Bool.and_eq_true] at hc
  rcases hc with (((hlower | hupper) | hdigit) | hmark) | hkept
  · exact Nat.lt_of_le_of_lt hlower.2 (by decide)
  · exact Nat.lt_of_le_of_lt hupper.2 (by decide)
  · exact Nat.lt_of_le_of_lt hdigit.2 (by decide)
  · exact of_decide_eq_true (List.all_eq_true.mp hmarks c hmark)
  · exact of_decide_eq_true (List.all_eq_true.mp hreserved c hkept)

theorem isSafeSet_safeInUri : IsSafeSet safeInUri where
  ascii _ hc := toNat_lt_of_safeInUri hc
  percent := by decide
  always c hc := by rw [safeInUri, hc, Bool.true_or]

theorem isSafeSet_safeInPath : IsSafeSet safeInPath where
  ascii c hc := toNat_lt_of_safeInUri (Bool.and_eq_true_iff.mp hc).1
  percent := by decide
  always c hc := by
    have hquestion : c ≠ '?' := by
      rintro rfl
      exact absurd hc (by decide)
    rw [safeInPath, safeInUri, hc, decide_eq_true hquestion]
    rfl

/-- The characters of an escaped path are printable, and none of them cuts a URL or needs quoting. -/
theorem char_of_mem_escape {text : List Char} {c : Char} (hc : c ∈ escape safeInPath text) :
    0x20 < c.toNat ∧ c.toNat < 0x7F ∧ c ∉ ['"', '\\', '#', '?'] := by
  rcases mem_escape isSafeSet_safeInPath hc with hsafe | rfl
  · rw [safeInPath, Bool.and_eq_true, decide_eq_true_eq] at hsafe
    have hall : ∀ n < 0x80, safeInUri (Char.ofNat n) = true → Char.ofNat n ≠ '?' →
        0x20 < (Char.ofNat n).toNat ∧ (Char.ofNat n).toNat < 0x7F ∧
          Char.ofNat n ∉ ['"', '\\', '#', '?'] := by
      decide
    have hn := hall c.toNat (toNat_lt_of_safeInUri hsafe.1)
    rw [Char.ofNat_toNat] at hn
    exact hn hsafe.1 hsafe.2
  · decide

end Percent

end SassBridge
