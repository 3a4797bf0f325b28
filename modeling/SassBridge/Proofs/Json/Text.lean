import SassBridge.Json.Parser
import SassBridge.Json.Printer
import SassBridge.Proofs.Number.Decimal
import SassBridge.Proofs.Text.Wide

/-! Strings and numbers of JSON documents. Each is written so that it is read back, up to where it ends. -/

namespace SassBridge.Json

section Strings

theorem digitValue_lowerDigit : ∀ n < 16, Hex.digitValue? (Hex.lowerDigit n) = some n := by decide

theorem unit?_lower {unit : Nat} (hunit : unit < 0x10000) :
    ∃ a b c d : CodePoint, Wide.ofChars (Hex.lower 4 unit) = [a, b, c, d] ∧ unit? a b c d = some unit := by
  refine ⟨_, _, _, _, rfl, ?_⟩
  have hvalue : ((unit / 16 / 16 / 16 % 16 * 16 + unit / 16 / 16 % 16) * 16 + unit / 16 % 16) * 16 + unit % 16 =
      unit := by omega
  simp only [unit?, digit?, CodePoint.char?, digitValue_lowerDigit _ (Nat.mod_lt _ (by decide)), Option.bind_eq_bind,
    Option.bind_some]
  exact congrArg some hvalue

/-- The pieces of a reading, with some more before them. -/
def withPieces (pieces : List Piece) (reading : Option (List Piece × Wide)) : Option (List Piece × Wide) :=
  reading.map fun (others, rest) => (pieces ++ others, rest)

theorem withPieces_append (first second : List Piece) (reading : Option (List Piece × Wide)) :
    withPieces (first ++ second) reading = withPieces first (withPieces second reading) := by
  cases reading <;> simp [withPieces]

/-- Whether a part of a string is read by itself, as one code point. -/
def ReadsAs (written : Wide) (code : CodePoint) : Prop :=
  ∃ pieces, (∀ rest, readPieces (written ++ rest) = withPieces pieces (readPieces rest)) ∧
    ∀ others, joinPieces (pieces ++ others) = code :: joinPieces others

theorem readPieces_escapeUnit {unit : Nat} (hunit : unit < 0x10000) (rest : Wide) :
    readPieces (.ofChars (escapeUnit unit) ++ rest) = withPieces [.escaped unit] (readPieces rest) := by
  obtain ⟨a, b, c, d, hdigits, hvalue⟩ := unit?_lower hunit
  have htext : Wide.ofChars (escapeUnit unit) = .char '\\' :: .char 'u' :: Wide.ofChars (Hex.lower 4 unit) := rfl
  rw [htext, hdigits]
  simp only [List.cons_append, List.nil_append, readPieces, hvalue, Option.bind_eq_bind, Option.bind_some]
  cases readPieces rest <;> rfl

theorem readsAs_plainEscape {c escaped : Char} (hescape : plainEscape? c = some escaped) (hc : c ≠ 'u') :
    ReadsAs [.char '\\', .char c] escaped := by
  refine ⟨[.plain escaped], fun rest => ?_, fun others => by simp [joinPieces]⟩
  rw [List.cons_append, List.singleton_append, readPieces]
  · rw [hescape, Option.bind_eq_bind, Option.bind_some]
    cases readPieces rest <;> rfl
  · exact fun _ _ _ _ _ _ heq => absurd heq hc

theorem readsAs_plain {code : CodePoint} (hquote : code ≠ .char '"') (hslash : code ≠ .char '\\')
    (hcontrol : isControl code = false) : ReadsAs [code] code := by
  refine ⟨[.plain code], fun rest => ?_, fun others => by simp [joinPieces]⟩
  rw [List.singleton_append, readPieces]
  · rw [if_neg (by simp [hslash, hcontrol])]
    cases readPieces rest <;> rfl
  · exact hquote
  · exact fun _ _ _ _ _ heq => absurd heq hslash
  · exact fun _ _ heq => absurd heq hslash

theorem toNat_valid (c : Char) : c.toNat < 0xD800 ∨ (0xDFFF < c.toNat ∧ c.toNat < 0x110000) :=
  c.valid

theorem ofNat_toNat (c : Char) : CodePoint.ofNat c.toNat = .char c := by
  have hvalid := toNat_valid c
  rw [CodePoint.ofNat, if_neg (by omega), Char.ofNat_toNat]

/-- A character that is escaped as itself is not joined to what comes after it. -/
theorem joinPieces_escaped (c : Char) (others : List Piece) :
    joinPieces (.escaped c.toNat :: others) = .char c :: joinPieces others := by
  have hvalid := toNat_valid c
  have hhigh : isHighSurrogate c.toNat = false := by
    simp only [isHighSurrogate, Bool.and_eq_false_imp, decide_eq_true_eq, decide_eq_false_iff_not]
    omega
  match others with
  | [] => simp [joinPieces, ofNat_toNat]
  | .plain code :: others => simp [joinPieces, ofNat_toNat]
  | .escaped low :: others => simp [joinPieces, ofNat_toNat, hhigh]

theorem readsAs_escapeCode (c : Char) : ReadsAs (.ofChars (escapeCode c.toNat)) c := by
  have hvalid := toNat_valid c
  rw [escapeCode]
  split
  · next hbasic => exact ⟨[.escaped c.toNat], readPieces_escapeUnit hbasic, joinPieces_escaped c⟩
  · next hbeyond =>
      refine ⟨[.escaped (0xD800 + (c.toNat - 0x10000) / 0x400), .escaped (0xDC00 + (c.toNat - 0x10000) % 0x400)],
        fun rest => ?_, fun others => ?_⟩
      · rw [Wide.ofChars_append, List.append_assoc, readPieces_escapeUnit (by omega), readPieces_escapeUnit (by omega),
          ← withPieces_append]
        rfl
      · have hhigh : isHighSurrogate (0xD800 + (c.toNat - 0x10000) / 0x400) = true := by
          simp only [isHighSurrogate, Bool.and_eq_true, decide_eq_true_eq]
          omega
        have hlow : isLowSurrogate (0xDC00 + (c.toNat - 0x10000) % 0x400) = true := by
          simp only [isLowSurrogate, Bool.and_eq_true, decide_eq_true_eq]
          omega
        have hcode : 0x10000 + (0xD800 + (c.toNat - 0x10000) / 0x400 - 0xD800) * 0x400 +
            (0xDC00 + (c.toNat - 0x10000) % 0x400 - 0xDC00) = c.toNat := by omega
        rw [List.cons_append, List.singleton_append, joinPieces, hhigh, hlow, hcode, Char.ofNat_toNat]
        rfl

/-- Each character is read back by itself. -/
theorem readsAs_charText (ascii : Bool) (c : Char) : ReadsAs (.ofChars (charText ascii c)) c := by
  unfold charText
  split
  · next hquoted => rcases hquoted with rfl | rfl <;> exact readsAs_plainEscape (by decide) (by decide)
  next hquoted =>
  rw [not_or] at hquoted
  split
  · next hc => exact hc ▸ readsAs_plainEscape (c := 'n') (by decide) (by decide)
  split
  · next hc => exact hc ▸ readsAs_plainEscape (c := 'r') (by decide) (by decide)
  split
  · next hc => exact hc ▸ readsAs_plainEscape (c := 't') (by decide) (by decide)
  split
  · next hc => exact hc ▸ readsAs_plainEscape (c := 'b') (by decide) (by decide)
  split
  · next hc => exact hc ▸ readsAs_plainEscape (c := 'f') (by decide) (by decide)
  split
  · exact readsAs_escapeCode c
  · next hshown =>
      rw [not_or] at hshown
      exact readsAs_plain (by simpa using hquoted.1) (by simpa using hquoted.2) (decide_eq_false hshown.1)

/-- Whether a text can be written in ASCII, or need not be. An escaped surrogate could be taken for the half of a
character. -/
def IsWritable (ascii : Bool) (text : Wide) : Prop :=
  ascii = true → text.toChars?.isSome = true

theorem isWritable_ofString (ascii : Bool) (text : String) : IsWritable ascii (.ofString text) := by
  intro _
  rw [Wide.ofString, Wide.toChars?_ofChars]
  rfl

/-- Each code point of a text that can be written is read back by itself. -/
theorem readsAs_codeText {ascii : Bool} {text : Wide} (hwritable : IsWritable ascii text) {code : CodePoint}
    (hcode : code ∈ text) : ReadsAs (codeText ascii code) code := by
  cases code with
  | char c => exact readsAs_charText ascii c
  | surrogate place =>
      cases ascii with
      | false => exact readsAs_plain nofun nofun rfl
      | true =>
          obtain ⟨chars, hchars⟩ := Option.isSome_iff_exists.mp (hwritable rfl)
          rw [Wide.eq_of_toChars? hchars, Wide.ofChars, List.mem_map] at hcode
          obtain ⟨c, -, heq⟩ := hcode
          cases heq

/-- Each string is read back, up to the quote at its end. -/
theorem readString_stringText {ascii : Bool} {text : Wide} (hwritable : IsWritable ascii text) (rest : Wide) :
    ∃ quoted, stringText ascii text ++ rest = .char '"' :: quoted ∧ readString quoted = some (text, rest) := by
  refine ⟨text.flatMap (codeText ascii) ++ .char '"' :: rest, by simp [stringText], ?_⟩
  have hpieces : ∀ codes : Wide, (∀ code ∈ codes, ReadsAs (codeText ascii code) code) →
      ∃ pieces, readPieces (codes.flatMap (codeText ascii) ++ .char '"' :: rest) = some (pieces, rest) ∧
        joinPieces pieces = codes := by
    intro codes hcodes
    induction codes with
    | nil => exact ⟨[], rfl, rfl⟩
    | cons code codes ih =>
        rw [List.forall_mem_cons] at hcodes
        obtain ⟨pieces, hread, hjoin⟩ := hcodes.1
        obtain ⟨others, hothers, hcodes⟩ := ih hcodes.2
        refine ⟨pieces ++ others, ?_, by rw [hjoin, hcodes]⟩
        rw [List.flatMap_cons, List.append_assoc, hread, hothers]
        rfl
  obtain ⟨pieces, hread, hjoin⟩ := hpieces text fun code hcode => readsAs_codeText hwritable hcode
  rw [readString, hread, Option.map_some]
  simp only [hjoin]

end Strings

section Numbers

open Binary64

variable {whole fraction rest : List Char} {exponent : Option Int}

theorem readWhole_append (hwhole : ∀ c ∈ whole, c.isDigit = true)
    (hstart : whole = ['0'] ∨ whole ≠ [] ∧ whole.head? ≠ some '0') (hrest : ∀ c ∈ rest.head?, c.isDigit = false) :
    readWhole (whole ++ rest) = some (whole, rest) := by
  rcases hstart with rfl | ⟨hne, hstart⟩
  · rfl
  · obtain ⟨first, others, rfl⟩ := List.exists_cons_of_ne_nil hne
    have hfirst : first ≠ '0' := fun heq => hstart (congrArg some heq)
    have hspan := spanDigits_append hwhole hrest
    unfold readWhole
    split
    · next heq => exact absurd (List.cons.inj heq).1 hfirst
    · rw [hspan]

/-- The sign that a number is written with. -/
def signText (negative : Bool) : List Char :=
  if negative then ['-'] else []

/-- The parts of a number are read one after another. -/
theorem readNumber_eq {body afterWhole afterFraction : List Char} (hsign : body.head? ≠ some '-')
    (hwhole : readWhole body = some (whole, afterWhole))
    (hfraction : readFraction afterWhole = (fraction, afterFraction))
    (hexponent : readExponent afterFraction = (exponent, rest)) (negative : Bool) :
    readNumber (signText negative ++ body) =
      some (if fraction.isEmpty ∧ exponent.isNone then
          .int (if negative then -(ofDigits whole : Int) else ofDigits whole)
        else .float (ofParts negative whole fraction exponent), rest) := by
  have hunsigned : ∀ tail, body = '-' :: tail → False := fun tail heq => hsign (by rw [heq]; rfl)
  unfold readNumber
  cases negative with
  | true =>
      simp only [signText, if_true, List.singleton_append, hwhole, Option.bind_eq_bind, Option.bind_some, hfraction,
        hexponent]
      split <;> rw [Option.pure_def]
  | false =>
      simp only [signText, Bool.false_eq_true, if_false, List.nil_append, hwhole, Option.bind_eq_bind, Option.bind_some,
        hfraction, hexponent]
      split <;> rw [Option.pure_def]

theorem head_ne_of_isDigit {digits : List Char} (hdigits : ∀ c ∈ digits, c.isDigit = true) (hne : digits ≠ [])
    {mark : Char} (hmark : mark.isDigit = false) (rest : List Char) : (digits ++ rest).head? ≠ some mark := by
  obtain ⟨first, others, rfl⟩ := List.exists_cons_of_ne_nil hne
  intro heq
  have hfirst := hdigits first List.mem_cons_self
  rw [Option.some.inj heq, hmark] at hfirst
  cases hfirst

theorem readNumber_partsText (hparts : AreParts whole fraction exponent) (hrest : EndsNumber rest) (negative : Bool) :
    readNumber (signText negative ++ (partsText whole fraction exponent ++ rest)) =
      some (.float (ofParts negative whole fraction exponent), rest) := by
  have htail : ∀ c ∈ ((exponent.map exponentText).getD [] ++ rest).head?, c.isDigit = false ∧ c ≠ '.' :=
    head_tail_parts hrest
  have hbody : partsText whole fraction exponent ++ rest = whole ++
      ((if fraction.isEmpty then [] else '.' :: fraction) ++ ((exponent.map exponentText).getD [] ++ rest)) := by
    rw [partsText, List.append_assoc, List.append_assoc]
  have hafter : ∀ c ∈ ((if fraction.isEmpty then [] else '.' :: fraction) ++
      ((exponent.map exponentText).getD [] ++ rest)).head?, c.isDigit = false := by
    intro c hc
    by_cases hfraction : fraction.isEmpty = true
    · rw [if_pos hfraction] at hc
      exact (htail c hc).1
    · rw [if_neg hfraction] at hc
      rw [← Option.some.inj (hc : some '.' = some c)]
      rfl
  have hfloat : ¬(fraction.isEmpty = true ∧ exponent.isNone = true) := by
    rintro ⟨hfraction, hexponent⟩
    rcases hparts.float with hsome | hsome
    · exact hsome (List.isEmpty_iff.mp hfraction)
    · rw [Option.isNone_iff_eq_none.mp hexponent] at hsome
      cases hsome
  have hread := readNumber_eq (head_ne_of_isDigit hparts.isDigit_whole hparts.whole_ne_nil (by decide) _)
    (readWhole_append hparts.isDigit_whole hparts.start hafter) (readFraction_parts hparts.isDigit_fraction htail)
    (readExponent_parts hrest) negative
  rw [hbody, hread, if_neg hfloat]

theorem readNumber_naturalDigits (n : Nat) (hrest : EndsNumber rest) (negative : Bool) :
    readNumber (signText negative ++ (naturalDigits n ++ rest)) =
      some (.int (if negative then -(n : Int) else n), rest) := by
  have hstart : naturalDigits n = ['0'] ∨ naturalDigits n ≠ [] ∧ (naturalDigits n).head? ≠ some '0' := by
    by_cases hzero : n = 0
    · left
      rw [hzero]
      rfl
    · exact Or.inr ⟨naturalDigits_ne_nil n, head_naturalDigits (Nat.pos_of_ne_zero hzero)⟩
  have hread := readNumber_eq (head_ne_of_isDigit (isDigit_naturalDigits n) (naturalDigits_ne_nil n) (by decide) rest)
    (readWhole_append (isDigit_naturalDigits n) hstart fun c hc => (hrest c hc).1)
    (readFraction_none fun hpoint => (hrest '.' hpoint).2.1 rfl)
    (readExponent_none fun c hc => (hrest c hc).2.2) negative
  rw [hread, ofDigits_naturalDigits]
  rfl

end Numbers

end SassBridge.Json
