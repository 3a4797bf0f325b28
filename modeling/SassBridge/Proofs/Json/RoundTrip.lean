import SassBridge.Proofs.Assoc
import SassBridge.Proofs.Json.Text

/-! JSON documents written and read back. A document that was read has distinct keys in its objects and numbers in the
form of their format. Each such document is what its text is read as, so that reading what was written gives back what
was read. -/

namespace SassBridge

/-- Whether a number is in the one form of its format. -/
def Numeral.IsCanonical : Numeral → Prop
  | int _ => True
  | float value => value.IsCanonical

namespace Json

/-- What can be read, and can be written in ASCII or need not be: objects have distinct keys, and numbers are in the
form of their format. -/
inductive IsBuilt (ascii : Bool) : Json → Prop where
  | null : IsBuilt ascii null
  | bool (value : Bool) : IsBuilt ascii (bool value)
  | number {value : Numeral} (hvalue : value.IsCanonical) : IsBuilt ascii (number value)
  | string {value : Wide} (hvalue : IsWritable ascii value) : IsBuilt ascii (string value)
  | array {items : List Json} (hitems : ∀ item ∈ items, IsBuilt ascii item) : IsBuilt ascii (array items)
  | object {entries : List (Wide × Json)} (hapart : Assoc.Apart (· == ·) entries)
      (hkeys : ∀ entry ∈ entries, IsWritable ascii entry.1) (hentries : ∀ entry ∈ entries, IsBuilt ascii entry.2) :
      IsBuilt ascii (object entries)

section Blanks

theorem skipBlank_of_not_blank {code : CodePoint} (hcode : isBlank code = false) (text : Wide) :
    skipBlank (code :: text) = code :: text := by
  rw [skipBlank, List.dropWhile_cons_of_neg (by simp [hcode])]

theorem skipBlank_append {blanks : Wide} (hblanks : ∀ code ∈ blanks, isBlank code = true) (text : Wide) :
    skipBlank (blanks ++ text) = skipBlank text := by
  rw [skipBlank, List.dropWhile_append_of_pos hblanks, ← skipBlank]

/-- Whether the marks of a form are followed by nothing but blanks. -/
structure Form.IsReadable (form : Form) : Prop where
  comma : ∃ blanks, form.comma = .char ',' :: blanks ∧ ∀ code ∈ blanks, isBlank code = true
  colon : ∃ blanks, form.colon = .char ':' :: blanks ∧ ∀ code ∈ blanks, isBlank code = true

theorem Form.isReadable_compact : Form.compact.IsReadable :=
  ⟨⟨[], rfl, nofun⟩, ⟨[], rfl, nofun⟩⟩

theorem Form.isReadable_spaced : Form.spaced.IsReadable :=
  ⟨⟨[.char ' '], rfl, List.forall_mem_singleton.mpr rfl⟩, ⟨[.char ' '], rfl, List.forall_mem_singleton.mpr rfl⟩⟩

end Blanks

section Keywords

theorem keywords_eq : keywords =
    [(.ofChars ['n', 'u', 'l', 'l'], null), (.ofChars ['t', 'r', 'u', 'e'], bool true),
      (.ofChars ['f', 'a', 'l', 's', 'e'], bool false), (.ofChars ['N', 'a', 'N'], number (.float .readNaN)),
      (.ofChars ['I', 'n', 'f', 'i', 'n', 'i', 't', 'y'], number (.float (.infinite false))),
      (.ofChars ['-', 'I', 'n', 'f', 'i', 'n', 'i', 't', 'y'], number (.float (.infinite true)))] := rfl

theorem ne_of_isDigit {digit mark : Char} (hdigit : digit.isDigit = true) (hmark : mark.isDigit = false) :
    digit ≠ mark := by
  rintro rfl
  rw [hmark] at hdigit
  cases hdigit

theorem readKeyword_signText {digit : Char} (hdigit : digit.isDigit = true) (negative : Bool) (more : Wide) :
    readKeyword (.ofChars (signText negative) ++ .char digit :: more) = none := by
  have hne : ∀ mark : Char, mark.isDigit = false → mark ≠ digit := fun _ hmark => (ne_of_isDigit hdigit hmark).symm
  have hn := hne 'n' (by decide)
  have ht := hne 't' (by decide)
  have hf := hne 'f' (by decide)
  have hN := hne 'N' (by decide)
  have hI := hne 'I' (by decide)
  have hminus := hne '-' (by decide)
  cases negative <;>
    simp [readKeyword, keywords_eq, signText, Wide.ofChars, List.isPrefixOf?, hn, ht, hf, hN, hI, hminus]

/-- What starts neither a string nor a list nor an object is a word or a number. -/
theorem readValue_plain {text : Wide} (hstart : ∀ code ∈ text.head?, code ∉ [.char '"', .char '[', .char '\x7b'])
    (fuel : Nat) : readValue (fuel + 1) text = (readKeyword text).or (readNumeral text) := by
  unfold readValue
  split
  · exact absurd List.mem_cons_self (hstart _ rfl)
  · exact absurd (List.mem_cons_of_mem _ List.mem_cons_self) (hstart _ rfl)
  · exact absurd (List.mem_cons_of_mem _ (List.mem_cons_of_mem _ List.mem_cons_self)) (hstart _ rfl)
  · rfl

end Keywords

/-- Whether the text of a document starts like one and is read back as the document, up to where it ends. A reading
takes at most two steps for each code point. -/
structure ReadsBack (form : Form) (document : Json) : Prop where
  start : ∃ code text, print form document = code :: text ∧ isBlank code = false ∧ code ≠ .char ']'
  read : ∀ {fuel rest}, 2 * (print form document).length ≤ fuel → Binary64.EndsNumber (Wide.leading rest) →
    readValue fuel (print form document ++ rest) = some (document, rest)

section Plain

open Binary64

variable {form : Form} {document : Json}

/-- A word is read back. -/
theorem readsBack_of_keyword {first : CodePoint} {word : Wide} (hprint : print form document = first :: word)
    (hfirst : first ∉ [.char '"', .char '[', .char '\x7b']) (hblank : isBlank first = false)
    (hbracket : first ≠ .char ']')
    (hkeyword : ∀ rest, readKeyword (first :: word ++ rest) = some (document, rest)) : ReadsBack form document where
  start := ⟨first, word, hprint, hblank, hbracket⟩
  read {fuel rest} hfuel hrest := by
    rw [hprint] at hfuel ⊢
    cases fuel with
    | zero => cases hfuel
    | succ fuel =>
        have hhead : ∀ code ∈ (first :: word ++ rest).head?, code ∉ [.char '"', .char '[', .char '\x7b'] := by
          intro code hcode
          rwa [← Option.some.inj (hcode : some first = some code)]
        rw [readValue_plain hhead, hkeyword, Option.some_or]

theorem head_signText {digit : Char} (hdigit : digit.isDigit = true) (negative : Bool) (more : Wide) :
    ∃ first others, Wide.ofChars (signText negative) ++ .char digit :: more = first :: others ∧
      first ∉ [.char '"', .char '[', .char '\x7b'] ∧ isBlank first = false ∧ first ≠ .char ']' := by
  cases negative with
  | true => exact ⟨.char '-', .char digit :: more, rfl, by decide, by decide, by decide⟩
  | false =>
      have hne : ∀ mark : Char, mark.isDigit = false → digit ≠ mark := fun _ => ne_of_isDigit hdigit
      refine ⟨.char digit, more, rfl, ?_, ?_, by simp [hne ']' (by decide)]⟩
      · simp [hne '"' (by decide), hne '[' (by decide), hne '\x7b' (by decide)]
      · simp [isBlank, hne ' ' (by decide), hne '\t' (by decide), hne '\n' (by decide), hne '\r' (by decide)]

/-- A text with a sign and digits is read back if it is read as a number. -/
theorem readsBack_of_number {value : Numeral} {negative : Bool} {digit : Char} {more : List Char}
    (hchars : numberChars value = signText negative ++ digit :: more) (hdigit : digit.isDigit = true)
    (hread : ∀ rest, EndsNumber rest →
      readNumber (signText negative ++ (digit :: more ++ rest)) = some (value, rest)) :
    ReadsBack form (number value) := by
  have htext : ∀ rest, print form (number value) ++ rest =
      Wide.ofChars (signText negative) ++ .char digit :: (Wide.ofChars more ++ rest) := by
    intro rest
    rw [print, hchars, Wide.ofChars_append, List.append_assoc]
    rfl
  constructor
  case start =>
    obtain ⟨first, others, hhead, -, hblank, hbracket⟩ := head_signText hdigit negative (Wide.ofChars more ++ [])
    exact ⟨first, others, by rw [← hhead, ← htext, List.append_nil], hblank, hbracket⟩
  case read =>
    intro fuel rest hfuel hrest
    obtain ⟨first, others, hhead, hfirst, -⟩ := head_signText hdigit negative (Wide.ofChars more ++ rest)
    cases fuel with
    | zero =>
        rw [print, hchars, Wide.ofChars_append] at hfuel
        simp [Wide.ofChars] at hfuel
    | succ fuel =>
        have hplain : ∀ code ∈ (print form (number value) ++ rest).head?,
            code ∉ [.char '"', .char '[', .char '\x7b'] := by
          intro code hcode
          rw [htext, hhead] at hcode
          rwa [← Option.some.inj (hcode : some first = some code)]
        have hnumber : readNumber (Wide.leading (print form (number value) ++ rest)) =
            some (value, Wide.leading rest) := by
          rw [print, Wide.leading_append, hchars, List.append_assoc]
          exact hread _ hrest
        rw [readValue_plain hplain, htext, readKeyword_signText hdigit, Option.none_or, ← htext, readNumeral, hnumber,
          print, Wide.afterLeading_append, Option.map_some]
        simp only [Wide.leading_append_afterLeading]

theorem readsBack_int (value : Int) : ReadsBack form (number (.int value)) := by
  obtain ⟨digit, more, hdigits⟩ := List.exists_cons_of_ne_nil (naturalDigits_ne_nil value.natAbs)
  have hchars : numberChars (.int value) = signText (decide (value < 0)) ++ digit :: more := by
    have htext : numberChars (.int value) =
        (if value < 0 then ['-'] else []) ++ naturalDigits value.natAbs := rfl
    rw [htext, hdigits]
    by_cases hsign : value < 0 <;> simp [signText, hsign]
  have hdigit : digit.isDigit = true := by
    apply isDigit_naturalDigits value.natAbs
    rw [hdigits]
    exact List.mem_cons_self
  refine readsBack_of_number hchars hdigit fun rest hrest => ?_
  have hread := readNumber_naturalDigits value.natAbs hrest (decide (value < 0))
  rw [hdigits] at hread
  rw [hread]
  by_cases hsign : value < 0
  · rw [if_pos (decide_eq_true hsign), Int.ofNat_natAbs_of_nonpos (by omega), Int.neg_neg]
  · rw [if_neg (by simpa using hsign), Int.natAbs_of_nonneg (by omega)]

theorem readsBack_finite {negative : Bool} {significand exponent : Nat}
    (hvalue : (finite negative significand exponent).IsCanonical) :
    ReadsBack form (number (.float (.finite negative significand exponent))) := by
  obtain ⟨whole, fraction, power, htext, hparts, hvalue⟩ := magnitudeText_eq hvalue
  obtain ⟨digit, more, rfl⟩ := List.exists_cons_of_ne_nil hparts.whole_ne_nil
  obtain ⟨tail, htail⟩ : ∃ tail, partsText (digit :: more) fraction power = digit :: tail := ⟨_, rfl⟩
  have hchars : numberChars (.float (.finite negative significand exponent)) = signText negative ++ digit :: tail := by
    rw [← htail, ← htext]
    cases negative <;> rfl
  refine readsBack_of_number hchars (hparts.isDigit_whole digit List.mem_cons_self) fun rest hrest => ?_
  have hread := readNumber_partsText hparts hrest negative
  rw [htail, hvalue] at hread
  exact hread

theorem readsBack_number {value : Numeral} (hvalue : value.IsCanonical) : ReadsBack form (number value) := by
  match value with
  | .int value => exact readsBack_int value
  | .float (.nan identity) =>
      obtain rfl : identity = 0 := Binary64.nan.inj hvalue
      exact readsBack_of_keyword (by rfl) (by decide) (by decide) (by decide) fun rest => rfl
  | .float (.infinite false) => exact readsBack_of_keyword (by rfl) (by decide) (by decide) (by decide) fun rest => rfl
  | .float (.infinite true) => exact readsBack_of_keyword (by rfl) (by decide) (by decide) (by decide) fun rest => rfl
  | .float (.finite negative significand exponent) => exact readsBack_finite hvalue

theorem readsBack_string {value : Wide} (hvalue : IsWritable form.ascii value) : ReadsBack form (string value) where
  start := ⟨.char '"', value.flatMap (codeText form.ascii) ++ [.char '"'], by rw [print, stringText]; rfl, by decide,
    by decide⟩
  read {fuel rest} hfuel hrest := by
    obtain ⟨quoted, htext, hread⟩ := readString_stringText hvalue rest
    rw [print] at hfuel ⊢
    rw [htext]
    cases fuel with
    | zero =>
        rw [stringText] at hfuel
        simp at hfuel
    | succ fuel =>
        rw [readValue]
        simp only [hread, Option.map_some]

end Plain

section Nested

open Binary64

variable {form : Form} {items : List Json} {entries : List (Wide × Json)} {fuel : Nat}

theorem length_comma_pos (hform : form.IsReadable) : 0 < form.comma.length := by
  obtain ⟨blanks, hcomma, -⟩ := hform.comma
  rw [hcomma]
  exact Nat.succ_pos _

theorem endsNumber_comma (hform : form.IsReadable) (rest : Wide) : EndsNumber (form.comma ++ rest).leading := by
  obtain ⟨blanks, hcomma, -⟩ := hform.comma
  intro c hc
  rw [hcomma] at hc
  rw [← Option.some.inj (hc : some ',' = some c)]
  decide

theorem endsNumber_closing {closing : Char} (hclosing : closing ∈ [']', '\x7d']) (rest : Wide) :
    EndsNumber (Wide.leading (.char closing :: rest)) := by
  intro c hc
  rw [← Option.some.inj (hc : some closing = some c)]
  simp only [List.mem_cons, List.not_mem_nil, or_false] at hclosing
  rcases hclosing with rfl | rfl <;> decide

/-- What is found after a mark and the blanks that follow it. -/
theorem skipBlank_mark {mark : CodePoint} (hmark : isBlank mark = false) {blanks : Wide}
    (hblanks : ∀ c ∈ blanks, isBlank c = true) {c : CodePoint} (hc : isBlank c = false) (text : Wide) :
    skipBlank (mark :: blanks ++ c :: text) = mark :: (blanks ++ c :: text) ∧
      skipBlank (blanks ++ c :: text) = c :: text := by
  rw [skipBlank_append hblanks, skipBlank_of_not_blank hc]
  exact ⟨skipBlank_of_not_blank hmark _, rfl⟩

theorem readItems_last {text rest : Wide} {item : Json}
    (hread : readValue fuel text = some (item, .char ']' :: rest)) :
    readItems (fuel + 1) text = some ([item], rest) := by
  have hclosing : skipBlank (.char ']' :: rest) = .char ']' :: rest := skipBlank_of_not_blank (by decide) rest
  rw [readItems, hread, Option.bind_eq_bind, Option.bind_some]
  simp only [hclosing]
  rfl

theorem readItems_next (hform : form.IsReadable) {text rest : Wide} {item : Json} {c : CodePoint}
    (hc : isBlank c = false) (hread : readValue fuel text = some (item, form.comma ++ c :: rest)) :
    readItems (fuel + 1) text = (readItems fuel (c :: rest)).map fun (items, rest) => (item :: items, rest) := by
  obtain ⟨blanks, hcomma, hblanks⟩ := hform.comma
  obtain ⟨hmark, hnext⟩ := skipBlank_mark (by decide : isBlank (.char ',') = false) hblanks hc rest
  rw [readItems, hread, hcomma, Option.bind_eq_bind, Option.bind_some]
  simp only [hmark, hnext]
  cases readItems fuel (c :: rest) <;> rfl

/-- The texts of items start with that of the first. -/
theorem start_items (hitems : ∀ item ∈ items, ReadsBack form item) (hne : items ≠ []) :
    ∃ c text, form.comma.intercalate (itemTexts form items) = c :: text ∧ isBlank c = false ∧ c ≠ .char ']' := by
  cases items with
  | nil => exact absurd rfl hne
  | cons item others =>
      obtain ⟨c, text, hprint, hblank, hbracket⟩ := (hitems item List.mem_cons_self).start
      cases others with
      | nil => exact ⟨c, text, by simp [itemTexts, hprint], hblank, hbracket⟩
      | cons next others =>
          refine ⟨c, text ++ form.comma ++ form.comma.intercalate (itemTexts form (next :: others)), ?_, hblank,
            hbracket⟩
          rw [itemTexts, itemTexts, List.intercalate_cons_cons, hprint]
          rfl

/-- The items of an array are read back one after another. -/
theorem readItems_print (hform : form.IsReadable) (hitems : ∀ item ∈ items, ReadsBack form item) (hne : items ≠ [])
    (hfuel : 2 * (form.comma.intercalate (itemTexts form items)).length + 1 ≤ fuel) (rest : Wide) :
    readItems fuel (form.comma.intercalate (itemTexts form items) ++ .char ']' :: rest) = some (items, rest) := by
  induction items generalizing fuel with
  | nil => exact absurd rfl hne
  | cons item others ih =>
      rw [List.forall_mem_cons] at hitems
      obtain ⟨hitem, hothers⟩ := hitems
      obtain ⟨fuel, rfl⟩ : ∃ before, fuel = before + 1 := ⟨fuel - 1, by omega⟩
      cases others with
      | nil =>
          have htext : form.comma.intercalate (itemTexts form [item]) = print form item := by simp [itemTexts]
          rw [htext] at hfuel ⊢
          exact readItems_last (hitem.read (by omega) (endsNumber_closing (by decide) rest))
      | cons next others =>
          have htext : form.comma.intercalate (itemTexts form (item :: next :: others)) =
              print form item ++ (form.comma ++ form.comma.intercalate (itemTexts form (next :: others))) := by
            rw [itemTexts, itemTexts, List.intercalate_cons_cons, List.append_assoc]
          have hcomma := length_comma_pos hform
          rw [htext, List.length_append, List.length_append] at hfuel
          obtain ⟨c, text, hprint, hblank, -⟩ := start_items hothers (by simp)
          have hafter : readItems fuel (c :: (text ++ .char ']' :: rest)) = some (next :: others, rest) := by
            have hread := ih hothers (by simp) (by omega : _ ≤ fuel)
            rwa [hprint, List.cons_append] at hread
          have hread : readValue fuel (print form item ++ (form.comma ++ c :: (text ++ .char ']' :: rest))) =
              some (item, form.comma ++ c :: (text ++ .char ']' :: rest)) :=
            hitem.read (by omega) (endsNumber_comma hform _)
          rw [htext, hprint, List.append_assoc, List.append_assoc, List.cons_append, readItems_next hform hblank hread,
            hafter]
          rfl

theorem readsBack_array (hform : form.IsReadable) (hitems : ∀ item ∈ items, ReadsBack form item) :
    ReadsBack form (array items) where
  start := ⟨.char '[', _, by rw [print, List.cons_append], by decide, by decide⟩
  read {fuel rest} hfuel hrest := by
    have htext : print form (array items) =
        .char '[' :: (form.comma.intercalate (itemTexts form items) ++ [.char ']']) := by
      rw [print, List.cons_append]
    rw [htext, List.length_cons, List.length_append, List.length_singleton] at hfuel
    obtain ⟨fuel, rfl⟩ : ∃ before, fuel = before + 1 := ⟨fuel - 1, by omega⟩
    rw [htext, List.cons_append, List.append_assoc, List.singleton_append, readValue]
    by_cases hempty : items = []
    · rw [hempty]
      rfl
    · obtain ⟨c, text, hprint, hblank, hbracket⟩ := start_items hitems hempty
      have hread := readItems_print hform hitems hempty (by omega : _ ≤ fuel) rest
      rw [hprint, List.cons_append] at hread ⊢
      rw [skipBlank_of_not_blank hblank]
      split
      · next heq => exact absurd (List.cons.inj heq).1 hbracket
      · rw [hread, Option.map_some]

/-- A key and its value are read back, as the last of the entries or with others after a comma. -/
theorem readEntries_entry (hform : form.IsReadable) {key : Wide} (hkey : IsWritable form.ascii key) {value : Json}
    (hvalue : ReadsBack form value) (hfuel : 2 * (print form value).length ≤ fuel) {after : Wide}
    (hafter : EndsNumber (Wide.leading after)) {mark : CodePoint} {rest : Wide}
    (hmark : skipBlank after = mark :: rest) (hclosing : mark = .char '\x7d' ∨ mark = .char ',') :
    readEntries (fuel + 1) (stringText form.ascii key ++ form.colon ++ print form value ++ after) =
      if mark = .char '\x7d' then some ([(key, value)], rest)
      else (readEntries fuel (skipBlank rest)).map fun (entries, rest) => ((key, value) :: entries, rest) := by
  obtain ⟨blanks, hcolon, hblanks⟩ := hform.colon
  obtain ⟨c, text, hprint, hblank, -⟩ := hvalue.start
  obtain ⟨quoted, hquoted, hkey⟩ :=
    readString_stringText hkey (.char ':' :: blanks ++ c :: (text ++ after))
  obtain ⟨hfound, hnext⟩ := skipBlank_mark (by decide : isBlank (.char ':') = false) hblanks hblank (text ++ after)
  have hread : readValue fuel (c :: (text ++ after)) = some (value, after) := by
    have hread := hvalue.read hfuel hafter
    rwa [hprint, List.cons_append] at hread
  have htext : stringText form.ascii key ++ form.colon ++ print form value ++ after = .char '"' :: quoted := by
    rw [← hquoted, hcolon, hprint, List.append_assoc, List.append_assoc, List.cons_append]
    rfl
  rw [htext, readEntries, hkey, Option.bind_eq_bind, Option.bind_some]
  simp only [hfound, hnext, hread, hmark, Option.bind_eq_bind, Option.bind_some]
  rcases hclosing with rfl | rfl
  · rfl
  · cases hothers : readEntries fuel (skipBlank rest) <;> simp only [hothers] <;> rfl

theorem start_entries (form : Form) (hne : entries ≠ []) :
    ∃ text, form.comma.intercalate (entryTexts form entries) = .char '"' :: text := by
  match entries with
  | [] => exact absurd rfl hne
  | [(key, value)] => exact ⟨_, by simp [entryTexts, stringText]; rfl⟩
  | (key, value) :: next :: others => exact ⟨_, by simp [entryTexts, stringText, List.intercalate_cons_cons]; rfl⟩

/-- The entries of an object are read back one after another. -/
theorem readEntries_print (hform : form.IsReadable)
    (hentries : ∀ entry ∈ entries, IsWritable form.ascii entry.1 ∧ ReadsBack form entry.2)
    (hne : entries ≠ []) (hfuel : 2 * (form.comma.intercalate (entryTexts form entries)).length + 1 ≤ fuel)
    (rest : Wide) :
    readEntries fuel (form.comma.intercalate (entryTexts form entries) ++ .char '\x7d' :: rest) =
      some (entries, rest) := by
  induction entries generalizing fuel with
  | nil => exact absurd rfl hne
  | cons entry others ih =>
      obtain ⟨key, value⟩ := entry
      rw [List.forall_mem_cons] at hentries
      obtain ⟨⟨hkey, hvalue⟩, hothers⟩ : (IsWritable form.ascii key ∧ ReadsBack form value) ∧
          ∀ entry ∈ others, IsWritable form.ascii entry.1 ∧ ReadsBack form entry.2 := hentries
      obtain ⟨fuel, rfl⟩ : ∃ before, fuel = before + 1 := ⟨fuel - 1, by omega⟩
      have hentry : (print form value).length ≤
          (stringText form.ascii key ++ form.colon ++ print form value).length := by
        rw [List.length_append]
        omega
      cases others with
      | nil =>
          have htext : form.comma.intercalate (entryTexts form [(key, value)]) =
              stringText form.ascii key ++ form.colon ++ print form value := by simp [entryTexts]
          rw [htext] at hfuel ⊢
          rw [readEntries_entry hform hkey hvalue (by omega) (endsNumber_closing (by decide) rest)
            (skipBlank_of_not_blank (by decide) rest) (Or.inl rfl)]
          rfl
      | cons next others =>
          have htext : form.comma.intercalate (entryTexts form ((key, value) :: next :: others)) =
              stringText form.ascii key ++ form.colon ++ print form value ++
                (form.comma ++ form.comma.intercalate (entryTexts form (next :: others))) := by
            rw [entryTexts, entryTexts, List.intercalate_cons_cons, List.append_assoc]
          obtain ⟨blanks, hcomma, hblanks⟩ := hform.comma
          obtain ⟨text, hstart⟩ := start_entries form (by simp : next :: others ≠ [])
          have hpositive := length_comma_pos hform
          have hlength := congrArg List.length htext
          rw [List.length_append, @List.length_append _ form.comma] at hlength
          have hafter :
              readEntries fuel (.char '"' :: (text ++ .char '\x7d' :: rest)) = some (next :: others, rest) := by
            have hread := ih hothers (by simp) (by omega : _ ≤ fuel)
            rwa [hstart, List.cons_append] at hread
          obtain ⟨hmark, hnext⟩ := skipBlank_mark (by decide : isBlank (.char ',') = false) hblanks
            (by decide : isBlank (.char '"') = false) (text ++ .char '\x7d' :: rest)
          rw [← hcomma] at hmark
          rw [htext, hstart, List.append_assoc _ (form.comma ++ _), List.append_assoc form.comma, List.cons_append,
            readEntries_entry hform hkey hvalue (by omega) (endsNumber_comma hform _) hmark (Or.inr rfl), hnext, hafter]
          rfl

theorem readsBack_object (hform : form.IsReadable) (hapart : Assoc.Apart (· == ·) entries)
    (hentries : ∀ entry ∈ entries, IsWritable form.ascii entry.1 ∧ ReadsBack form entry.2) :
    ReadsBack form (object entries) where
  start := ⟨.char '\x7b', _, by rw [print, List.cons_append], by decide, by decide⟩
  read {fuel rest} hfuel hrest := by
    have htext : print form (object entries) =
        .char '\x7b' :: (form.comma.intercalate (entryTexts form entries) ++ [.char '\x7d']) := by
      rw [print, List.cons_append]
    rw [htext, List.length_cons, List.length_append, List.length_singleton] at hfuel
    obtain ⟨fuel, rfl⟩ : ∃ before, fuel = before + 1 := ⟨fuel - 1, by omega⟩
    rw [htext, List.cons_append, List.append_assoc, List.singleton_append, readValue]
    by_cases hempty : entries = []
    · rw [hempty]
      rfl
    · obtain ⟨text, hstart⟩ := start_entries form hempty
      have hread := readEntries_print hform hentries hempty (by omega : _ ≤ fuel) rest
      rw [hstart, List.cons_append] at hread ⊢
      rw [skipBlank_of_not_blank (by decide)]
      -- no entry replaces an earlier one
      have hkeys : Assoc.insertAll (· == ·) [] entries = entries :=
        Assoc.insertAll_of_apart (by rwa [List.nil_append])
      split
      · next heq => exact absurd (List.cons.inj heq).1 (by decide)
      · rw [hread, Option.map_some]
        exact congrArg (fun entries => some (object entries, rest)) hkeys

end Nested

section Written

variable {form : Form} {document : Json}

theorem readsBack_of_isBuilt (hform : form.IsReadable) (hbuilt : document.IsBuilt form.ascii) :
    ReadsBack form document := by
  induction hbuilt with
  | null => exact readsBack_of_keyword (by rfl) (by decide) (by decide) (by decide) fun rest => rfl
  | bool value =>
      cases value with
      | true => exact readsBack_of_keyword (by rfl) (by decide) (by decide) (by decide) fun rest => rfl
      | false => exact readsBack_of_keyword (by rfl) (by decide) (by decide) (by decide) fun rest => rfl
  | number hvalue => exact readsBack_number hvalue
  | string hvalue => exact readsBack_string hvalue
  | array _ ih => exact readsBack_array hform ih
  | object hapart hkeys _ ih =>
      exact readsBack_object hform hapart fun entry hentry => ⟨hkeys entry hentry, ih entry hentry⟩

/-- What can be read is read back from the text that is written for it. -/
theorem parse?_print (hform : form.IsReadable) (hbuilt : document.IsBuilt form.ascii) :
    parse? (print form document) = some document := by
  have hback := readsBack_of_isBuilt hform hbuilt
  obtain ⟨code, text, hprint, hblank, -⟩ := hback.start
  have hread : readValue (2 * (print form document).length + 2) (print form document) = some (document, []) := by
    have hread : readValue (2 * (print form document).length + 2) (print form document ++ []) =
        some (document, []) :=
      hback.read (by omega) fun c hc => by cases hc
    rwa [List.append_nil] at hread
  have hskip : skipBlank (print form document) = print form document := by
    rw [hprint, skipBlank_of_not_blank hblank]
  rw [parse?, hskip, hread]
  rfl

end Written

section Reading

variable {text rest : Wide} {document : Json} {fuel : Nat}

theorem isCanonical_of_readNumber {text rest : List Char} {value : Numeral}
    (hread : readNumber text = some (value, rest)) : value.IsCanonical := by
  unfold readNumber at hread
  simp only [Option.bind_eq_bind, Option.bind_eq_some_iff] at hread
  obtain ⟨⟨whole, afterWhole⟩, -, hread⟩ := hread
  split at hread
  · obtain ⟨rfl, -⟩ := Prod.mk.inj (Option.some.inj hread)
    trivial
  · obtain ⟨rfl, -⟩ := Prod.mk.inj (Option.some.inj hread)
    exact Binary64.isCanonical_ofDecimal _ _ _

/-- Without a form in ASCII every text can be written. -/
theorem isWritable_false (text : Wide) : IsWritable false text :=
  nofun

theorem isBuilt_of_readNumeral (hread : readNumeral text = some (document, rest)) : document.IsBuilt false := by
  obtain ⟨⟨value, after⟩, hvalue, heq⟩ := Option.map_eq_some_iff.mp hread
  obtain ⟨rfl, -⟩ := Prod.mk.inj heq
  exact .number (isCanonical_of_readNumber hvalue)

theorem isBuilt_of_readKeyword (hread : readKeyword text = some (document, rest)) : document.IsBuilt false := by
  obtain ⟨⟨word, value⟩, hmem, hword⟩ := List.exists_of_findSome?_eq_some hread
  obtain ⟨rest, -, heq⟩ := Option.map_eq_some_iff.mp hword
  obtain ⟨rfl, -⟩ := Prod.mk.inj heq
  have hbuilt : ∀ pair ∈ keywords, pair.2.IsBuilt false := by
    simp only [keywords_eq, List.forall_mem_cons]
    exact ⟨.null, .bool true, .bool false, .number rfl, .number trivial, .number trivial, nofun⟩
  exact hbuilt _ hmem

/-- Whether all that is read within some steps can be read. -/
structure ReadsBuilt (fuel : Nat) : Prop where
  value : ∀ {text document rest}, readValue fuel text = some (document, rest) → document.IsBuilt false
  items : ∀ {text items rest}, readItems fuel text = some (items, rest) → ∀ item ∈ items, item.IsBuilt false
  entries : ∀ {text entries rest}, readEntries fuel text = some (entries, rest) →
    ∀ entry ∈ entries, entry.2.IsBuilt false

theorem ReadsBuilt.value_succ (hfuel : ReadsBuilt fuel) (hread : readValue (fuel + 1) text = some (document, rest)) :
    document.IsBuilt false := by
  unfold readValue at hread
  split at hread
  · obtain ⟨⟨value, rest⟩, -, heq⟩ := Option.map_eq_some_iff.mp hread
    obtain ⟨rfl, -⟩ := Prod.mk.inj heq
    exact .string (isWritable_false value)
  · split at hread
    · obtain ⟨rfl, -⟩ := Prod.mk.inj (Option.some.inj hread)
      exact .array nofun
    · obtain ⟨⟨items, rest⟩, hitems, heq⟩ := Option.map_eq_some_iff.mp hread
      obtain ⟨rfl, -⟩ := Prod.mk.inj heq
      exact .array (hfuel.items hitems)
  · split at hread
    · obtain ⟨rfl, -⟩ := Prod.mk.inj (Option.some.inj hread)
      exact .object .nil nofun nofun
    · obtain ⟨⟨entries, rest⟩, hentries, heq⟩ := Option.map_eq_some_iff.mp hread
      have hbuilt := hfuel.entries hentries
      obtain ⟨rfl, -⟩ := Prod.mk.inj heq
      refine .object (Assoc.apart_insertAll .nil entries) (fun entry _ => isWritable_false entry.1)
        fun entry hentry => ?_
      have hall : ∀ entry ∈ Assoc.insertAll (· == ·) [] entries, True ∧ entry.2.IsBuilt false :=
        Assoc.forall_mem_insertAll (P := fun _ => True) nofun fun entry hentry => ⟨trivial, hbuilt entry hentry⟩
      exact (hall entry hentry).2
  · rcases Option.or_eq_some_iff.mp hread with hkeyword | ⟨-, hnumber⟩
    · exact isBuilt_of_readKeyword hkeyword
    · exact isBuilt_of_readNumeral hnumber

theorem ReadsBuilt.items_succ (hfuel : ReadsBuilt fuel) {items : List Json}
    (hread : readItems (fuel + 1) text = some (items, rest)) : ∀ item ∈ items, item.IsBuilt false := by
  rw [readItems] at hread
  obtain ⟨⟨item, after⟩, hitem, hread⟩ := Option.bind_eq_some_iff.mp hread
  have hbuilt := hfuel.value hitem
  dsimp only at hread
  split at hread
  · obtain ⟨rfl, -⟩ := Prod.mk.inj (Option.some.inj hread)
    exact List.forall_mem_singleton.mpr hbuilt
  · obtain ⟨⟨others, last⟩, hothers, heq⟩ := Option.bind_eq_some_iff.mp hread
    obtain ⟨rfl, -⟩ := Prod.mk.inj (Option.some.inj heq)
    exact List.forall_mem_cons.mpr ⟨hbuilt, hfuel.items hothers⟩
  · cases hread

theorem ReadsBuilt.entries_succ (hfuel : ReadsBuilt fuel) {entries : List (Wide × Json)}
    (hread : readEntries (fuel + 1) text = some (entries, rest)) : ∀ entry ∈ entries, entry.2.IsBuilt false := by
  unfold readEntries at hread
  split at hread
  swap
  · cases hread
  obtain ⟨⟨key, afterKey⟩, -, hread⟩ := Option.bind_eq_some_iff.mp hread
  dsimp only at hread
  split at hread
  swap
  · cases hread
  obtain ⟨⟨value, after⟩, hvalue, hread⟩ := Option.bind_eq_some_iff.mp hread
  have hbuilt := hfuel.value hvalue
  dsimp only at hread
  split at hread
  · obtain ⟨rfl, -⟩ := Prod.mk.inj (Option.some.inj hread)
    exact List.forall_mem_singleton.mpr hbuilt
  · obtain ⟨⟨others, last⟩, hothers, heq⟩ := Option.bind_eq_some_iff.mp hread
    obtain ⟨rfl, -⟩ := Prod.mk.inj (Option.some.inj heq)
    exact List.forall_mem_cons.mpr ⟨hbuilt, hfuel.entries hothers⟩
  · cases hread

theorem readsBuilt (fuel : Nat) : ReadsBuilt fuel := by
  induction fuel with
  | zero => exact ⟨nofun, nofun, nofun⟩
  | succ fuel ih => exact ⟨ih.value_succ, ih.items_succ, ih.entries_succ⟩

theorem isBuilt_of_parse? (hparse : parse? text = some document) : document.IsBuilt false := by
  rw [parse?] at hparse
  split at hparse
  · next found rest hread =>
    split at hparse
    · rw [← Option.some.inj hparse]
      exact (readsBuilt _).value hread
    · cases hparse
  · cases hparse

end Reading

/-- Writing what was read and reading it again changes nothing. -/
theorem parse?_print_of_parse? {text : Wide} {document : Json} (hparse : parse? text = some document) :
    parse? (print .compact document) = some document :=
  parse?_print Form.isReadable_compact (isBuilt_of_parse? hparse)

end Json

end SassBridge
