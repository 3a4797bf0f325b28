import SassBridge.Proofs.Engine.LastResult
import SassBridge.Proofs.Text.Base64
import SassBridge.Proofs.Text.Percent
import SassBridge.Proofs.Text.Wide

/-! References to source maps. What is written can be read again: the last line of the CSS is the reference, the URL in
it gives back the source map that it holds or the name of the file that it stands for, and the text before it is what
was compiled, with its end. Escaping leaves the end of a comment as it is, so that a file can be named such that its
reference ends early; nothing else can end it. -/

namespace SassBridge

namespace Css

/-- What the line of a reference starts with. -/
def referenceStart : List Char := "/*# sourceMappingURL=".toList

/-- What the line of a reference ends in. -/
def referenceEnd : List Char := " */".toList

/-- What the URL of a source map starts with that is held by it. -/
def embeddedStart : List Char := "data:application/json;base64,".toList

theorem toList_comment (url : String) :
    (comment url).toList = '\n' :: (referenceStart ++ (url.toList ++ referenceEnd)) := by
  have hstart : "\n/*# sourceMappingURL=".toList = '\n' :: referenceStart := rfl
  have hend : " */".toList = referenceEnd := rfl
  calc (comment url).toList
      = "\n/*# sourceMappingURL=".toList ++ url.toList ++ " */".toList :=
        String.toList_append.trans (congrArg (· ++ " */".toList) String.toList_append)
    _ = ('\n' :: referenceStart) ++ url.toList ++ referenceEnd :=
        congrArg₂ (fun start rest => start ++ url.toList ++ rest) hstart hend
    _ = '\n' :: (referenceStart ++ (url.toList ++ referenceEnd)) := by
        rw [List.append_assoc, List.cons_append]

theorem toList_close (css : String) :
    (close css).toList = css.toList ++ if css.toList.getLast? = some '\x7d' then ['\n'] else [] := by
  rw [close]
  split
  · exact String.toList_append
  · exact (List.append_nil _).symm

theorem toList_embedded (octets : List UInt8) :
    (embedded octets).toList = embeddedStart ++ Base64.encode octets := by
  have hstart : "data:application/json;base64,".toList = embeddedStart := rfl
  exact String.toList_append.trans (congrArg₂ (· ++ ·) hstart String.toList_ofList)

theorem toList_escapeUri (name : String) :
    (Percent.escapeUri name).toList = Percent.escape Percent.safeInUri name.toList :=
  String.toList_ofList

/-- Neither a line break nor an asterisk stands in a URL that holds a source map. -/
theorem not_mem_embedded {octets : List UInt8} {c : Char} (hc : c = '\n' ∨ c = '*') :
    c ∉ (embedded octets).toList := by
  have hstart : '\n' ∉ embeddedStart ∧ '*' ∉ embeddedStart := by decide
  have hdigit : ∀ n < 64, Base64.digit n ≠ '\n' ∧ Base64.digit n ≠ '*' := by decide
  rw [toList_embedded, List.mem_append, not_or]
  constructor
  · rcases hc with rfl | rfl
    · exact hstart.1
    · exact hstart.2
  · intro hmem
    rcases Base64.mem_encode hmem with rfl | ⟨n, hn, rfl⟩
    · exact hc.elim (by decide) (by decide)
    · exact hc.elim (hdigit n hn).1 (hdigit n hn).2

theorem newline_not_mem_escapeUri (name : String) : '\n' ∉ (Percent.escapeUri name).toList := by
  intro hmem
  rw [toList_escapeUri] at hmem
  rcases Percent.mem_escape Percent.isSafeSet_safeInUri hmem with hsafe | hpercent
  · exact absurd hsafe (by decide)
  · exact absurd hpercent (by decide)

section OneLine

/-! A URL without a line break leaves the comment on one line, which is the last one. -/

variable {url : String} (hurl : '\n' ∉ url.toList)

include hurl

theorem newline_not_mem_line : '\n' ∉ url.toList ++ referenceEnd := by
  rw [List.mem_append, not_or]
  exact ⟨hurl, by decide⟩

theorem split_comment (css : List Char) :
    (Text.split '\n' (css ++ (comment url).toList)).getLast? =
      some (referenceStart ++ (url.toList ++ referenceEnd)) := by
  have hline : '\n' ∉ referenceStart ++ (url.toList ++ referenceEnd) := by
    rw [List.mem_append, not_or]
    exact ⟨by decide, newline_not_mem_line hurl⟩
  rw [toList_comment, Text.split_append, Text.split_of_not_mem _ _ hline, List.getLast?_concat]

theorem cutLast?_comment (css : List Char) :
    Text.cutLast? ('\n' :: referenceStart) (css ++ (comment url).toList) =
      some (css, url.toList ++ referenceEnd) := by
  rw [toList_comment]
  exact Text.cutLast?_append (by decide) (newline_not_mem_line hurl) css

end OneLine

/-- Whether the end of a comment occurs in a text as its last two characters only. -/
def IsClosedOnlyAtEnd (text : List Char) : Prop :=
  ∀ before after, text = before ++ ['*', '/'] ++ after → after = []

theorem isClosedOnlyAtEnd_concat_iff (body : List Char) (last : Char) :
    IsClosedOnlyAtEnd (body ++ [last]) ↔ Text.Parted '*' '/' body := by
  rw [Text.parted_iff]
  constructor
  · rintro hclosed ⟨before, after, rfl⟩
    have hnil := hclosed before (after ++ [last]) (List.append_assoc _ _ _)
    simp at hnil
  · intro hparted before after htext
    rcases List.eq_nil_or_concat after with hnil | ⟨init, final, rfl⟩
    · exact hnil
    · rw [List.concat_eq_append, ← List.append_assoc] at htext
      exact absurd ⟨before, init, (List.append_inj' htext rfl).1.symm⟩ hparted

theorem closed_comment (url : String) : ['*', '/'] <:+ (comment url).toList := by
  have hend : ['*', '/'] <:+ referenceEnd := by decide
  rw [toList_comment, ← List.cons_append, ← List.append_assoc]
  exact hend.trans (List.suffix_append _ _)

/-- Only the URL can end the comment before its end. -/
theorem isClosedOnlyAtEnd_comment_iff (url : String) :
    IsClosedOnlyAtEnd (comment url).toList ↔ Text.Parted '*' '/' url.toList := by
  have hstart : Text.Parted '*' '/' ('\n' :: referenceStart) := Text.parted_iff.mpr (by decide)
  have hrest : Text.Parted '*' '/' [' ', '*'] := Text.parted_iff.mpr (by decide)
  have hlast : ('\n' :: referenceStart).getLast? ≠ some '*' := by decide
  have hbody : (comment url).toList = ('\n' :: referenceStart ++ (url.toList ++ [' ', '*'])) ++ ['/'] := by
    rw [toList_comment, List.append_assoc, List.append_assoc]
    rfl
  rw [hbody, isClosedOnlyAtEnd_concat_iff, Text.parted_append_iff, Text.parted_append_iff]
  simp [hstart, hrest, hlast]

theorem parted_embedded (octets : List UInt8) : Text.Parted '*' '/' (embedded octets).toList :=
  Text.parted_of_not_mem (not_mem_embedded (Or.inr rfl))

/-- Escaping keeps the end of a comment. -/
theorem parted_escapeUri_iff (name : String) :
    Text.Parted '*' '/' (Percent.escapeUri name).toList ↔ Text.Parted '*' '/' name.toList := by
  rw [toList_escapeUri]
  have hasterisk : Percent.IsKept Percent.safeInUri '*' := ⟨by decide, by decide, by decide⟩
  have hslash : Percent.IsKept Percent.safeInUri '/' := ⟨by decide, by decide, by decide⟩
  exact Percent.parted_escape_iff hasterisk hslash name.toList

end Css

namespace Engine

variable {κ ι : Type} {engine : Engine κ ι} {sourceMap : Wide}

theorem finishCss_embedded (hmap : engine.sourceMap? = some sourceMap)
    (hshown : engine.options.omitSourceMapUrl = false) (hembed : engine.options.sourceMapEmbed = true)
    {text : List Char} (htext : sourceMap.toChars? = some text) (css : String) :
    engine.finishCss css = .ok (Css.close css ++ Css.comment (Css.embedded (Utf8.encode text))) := by
  rw [finishCss, reference, hmap, hshown, hembed]
  simp only [Bool.false_eq_true, if_false, if_true, Css.finish, Css.octets, htext]
  rfl

/-- A source map that was embedded has no surrogates. -/
theorem toChars?_of_finishCss (hmap : engine.sourceMap? = some sourceMap)
    (hshown : engine.options.omitSourceMapUrl = false) (hembed : engine.options.sourceMapEmbed = true)
    {css finished : String} (hfinished : engine.finishCss css = .ok finished) :
    ∃ text, sourceMap.toChars? = some text := by
  cases hchars : sourceMap.toChars? with
  | some text => exact ⟨text, rfl⟩
  | none =>
      have hreference : engine.reference = .embedded := by simp [reference, hshown, hembed]
      have hfails : engine.finishCss css = .error .unencodable :=
        Css.finish_eq_error_iff.mpr ⟨rfl, hreference, sourceMap, hmap, hchars⟩
      rw [hfails] at hfinished
      cases hfinished

theorem finishCss_file (hmap : engine.sourceMap? = some sourceMap)
    (hshown : engine.options.omitSourceMapUrl = false) (hembed : engine.options.sourceMapEmbed = false)
    (css : String) :
    engine.finishCss css =
      .ok (Css.close css ++ Css.comment (Percent.escapeUri (engine.options.sourceMapFile.getD ""))) := by
  rw [finishCss, reference, hmap, hshown, hembed]
  rfl

/-- CSS that refers to a source map can be taken apart again, and is given back unless it is to hold a source map with
surrogates. The reference is its last line, and the text before the last line break that such a line follows is the CSS
that was compiled, with a line break more if it ends in a brace. The URL of a source map that is held by it gives back
the source map, and any other URL gives back the name of the file. -/
theorem reference_read_back (hmap : engine.sourceMap? = some sourceMap)
    (hshown : engine.options.omitSourceMapUrl = false)
    (htext : engine.options.sourceMapEmbed = true → sourceMap.toChars?.isSome) (css : String) :
    ∃ finished url, engine.finishCss css = .ok finished ∧
      (Text.split '\n' finished.toList).getLast? = some (Css.referenceStart ++ (url ++ Css.referenceEnd)) ∧
      Text.cutLast? ('\n' :: Css.referenceStart) finished.toList =
        some (css.toList ++ (if css.toList.getLast? = some '\x7d' then ['\n'] else []), url ++ Css.referenceEnd) ∧
      (engine.options.sourceMapEmbed = true → ∃ payload text, url = Css.embeddedStart ++ payload ∧
        Base64.decode? payload = some (Utf8.encode text) ∧ Utf8.decode (Utf8.encode text) = text ∧
        sourceMap = Wide.ofChars text) ∧
      (engine.options.sourceMapEmbed = false →
        Percent.unescape url = (engine.options.sourceMapFile.getD "").toList) := by
  rw [← Css.toList_close]
  cases hembed : engine.options.sourceMapEmbed with
  | true =>
      obtain ⟨text, hchars⟩ := Option.isSome_iff_exists.mp (htext hembed)
      have hurl : '\n' ∉ (Css.embedded (Utf8.encode text)).toList := Css.not_mem_embedded (Or.inl rfl)
      refine ⟨_, (Css.embedded (Utf8.encode text)).toList, finishCss_embedded hmap hshown hembed hchars css, ?_⟩
      rw [String.toList_append]
      refine ⟨Css.split_comment hurl _, Css.cutLast?_comment hurl _, fun _ => ?_, nofun⟩
      exact ⟨_, text, Css.toList_embedded _, Base64.decode?_encode _, Utf8.decode_encode _, Wide.eq_of_toChars? hchars⟩
  | false =>
      have hurl := Css.newline_not_mem_escapeUri (engine.options.sourceMapFile.getD "")
      refine ⟨_, (Percent.escapeUri (engine.options.sourceMapFile.getD "")).toList,
        finishCss_file hmap hshown hembed css, ?_⟩
      rw [String.toList_append]
      refine ⟨Css.split_comment hurl _, Css.cutLast?_comment hurl _, nofun, fun _ => ?_⟩
      rw [Css.toList_escapeUri]
      exact Percent.unescape_escape Percent.isSafeSet_safeInUri _

/-- The CSS is read back from before its own reference where it has another one in it, and the name of the file from its
escapes. -/
theorem reference_read_back_earlier :
    let engine := { plain with
      options := { plain.options with sourceMapFile := some "css/ж a.map" }
      sourceMap? := some (.ofString "\x7b\x7d") }
    let css := "a\n/*# sourceMappingURL=old.map */\nb \x7b\x7d"
    engine.sourceMap? = some (.ofString "\x7b\x7d") ∧ engine.options.omitSourceMapUrl = false ∧
      (engine.options.sourceMapEmbed = true → (Wide.ofString "\x7b\x7d").toChars?.isSome) ∧
      ∃ finished url, engine.finishCss css = .ok finished ∧
        Text.cutLast? ('\n' :: Css.referenceStart) finished.toList =
          some (css.toList ++ ['\n'], url ++ Css.referenceEnd) ∧
        Percent.unescape url = "css/ж a.map".toList := by
  intro engine css
  have hmap : engine.sourceMap? = some (.ofString "\x7b\x7d") := rfl
  obtain ⟨finished, url, hfinished, -, hcut, -, hfile⟩ := reference_read_back hmap rfl nofun css
  have hbrace : css.toList.getLast? = some '\x7d' := by decide +kernel
  rw [if_pos hbrace] at hcut
  exact ⟨rfl, rfl, nofun, finished, url, hfinished, hcut, hfile rfl⟩

/-- What is put after CSS that is given back. -/
theorem closed_of_finishCss {css finished : String} (hfinished : engine.finishCss css = .ok finished) :
    ∃ added, finished.toList = (Css.close css).toList ++ added ∧
      (added ≠ [] → ['*', '/'] <:+ added) ∧
      (Css.IsClosedOnlyAtEnd added ↔
        engine.sourceMap? = none ∨ engine.options.omitSourceMapUrl = true ∨ engine.options.sourceMapEmbed = true ∨
          Text.occurs ['*', '/'] (engine.options.sourceMapFile.getD "").toList = false) := by
  have hnothing : Css.IsClosedOnlyAtEnd [] := by
    intro before after hnil
    simp at hnil
  cases hmap : engine.sourceMap? with
  | none =>
      rw [finishCss, hmap, Css.finish] at hfinished
      obtain rfl := Except.ok.inj hfinished
      exact ⟨[], (List.append_nil _).symm, fun hne => absurd rfl hne, iff_of_true hnothing (Or.inl rfl)⟩
  | some sourceMap =>
      cases hshown : engine.options.omitSourceMapUrl with
      | true =>
          rw [finishCss, reference, hmap, hshown] at hfinished
          obtain rfl : Css.close css = finished := Except.ok.inj hfinished
          exact ⟨[], (List.append_nil _).symm, fun hne => absurd rfl hne,
            iff_of_true hnothing (Or.inr (Or.inl rfl))⟩
      | false =>
          cases hembed : engine.options.sourceMapEmbed with
          | true =>
              obtain ⟨text, hchars⟩ := toChars?_of_finishCss hmap hshown hembed hfinished
              rw [finishCss_embedded hmap hshown hembed hchars] at hfinished
              obtain rfl := Except.ok.inj hfinished
              refine ⟨_, String.toList_append, fun _ => Css.closed_comment _, ?_⟩
              rw [Css.isClosedOnlyAtEnd_comment_iff]
              exact iff_of_true (Css.parted_embedded _) (Or.inr (Or.inr (Or.inl rfl)))
          | false =>
              rw [finishCss_file hmap hshown hembed] at hfinished
              obtain rfl := Except.ok.inj hfinished
              refine ⟨_, String.toList_append, fun _ => Css.closed_comment _, ?_⟩
              rw [Css.isClosedOnlyAtEnd_comment_iff, Css.parted_escapeUri_iff, Text.parted_iff, ← Text.occurs_iff,
                Bool.not_eq_true]
              simp

/-- What is put after CSS ends in the end of a comment, and contains it nowhere else, unless it names a file whose name
contains it. No CSS is given back only where a source map with surrogates is to be embedded. -/
theorem reference_closed_iff (engine : Engine κ ι) (css : String) :
    (engine.finishCss css = .error .unencodable ∧ engine.reference = .embedded ∧
      ∃ sourceMap, engine.sourceMap? = some sourceMap ∧ sourceMap.toChars? = none) ∨
    ∃ finished added, engine.finishCss css = .ok finished ∧ finished.toList = (Css.close css).toList ++ added ∧
      (added ≠ [] → ['*', '/'] <:+ added) ∧
      (Css.IsClosedOnlyAtEnd added ↔
        engine.sourceMap? = none ∨ engine.options.omitSourceMapUrl = true ∨ engine.options.sourceMapEmbed = true ∨
          Text.occurs ['*', '/'] (engine.options.sourceMapFile.getD "").toList = false) := by
  cases hfinished : engine.finishCss css with
  | error failure =>
      obtain ⟨rfl, hreference, hmap⟩ := Css.finish_eq_error_iff.mp hfinished
      exact Or.inl ⟨rfl, hreference, hmap⟩
  | ok finished =>
      obtain ⟨added, hclosed⟩ := closed_of_finishCss hfinished
      exact Or.inr ⟨finished, added, rfl, hclosed⟩

/-- An engine with a file for the source map whose name contains the end of a comment. -/
def starred : Engine Unit Unit :=
  { plain with
    bag := [("source_map_file", .text "a*/b.map")]
    options := { plain.options with sourceMapFile := some "a*/b.map" } }

/-- A render for such a file returns CSS in which text follows the comment that refers to it. -/
theorem reference_ends_early :
    ofOptions (.text "a \x7b b: c \x7d") [("source_map_file", .text "a*/b.map")] [] (some ()) ⟨(), .shared⟩ =
        .ok starred ∧
      ∃ added, (starred.renderOn (compilingTo (.ok acceptedResult))).1 =
          .ok (some (Css.close acceptedResult.css ++ added)) ∧
        ¬ Css.IsClosedOnlyAtEnd added.toList := by
  have hcss : (starred.renderOn (compilingTo (.ok acceptedResult))).1.toOption =
      some (some "a\n/*# sourceMappingURL=a*/b.map */") := by decide +kernel
  refine ⟨rfl, "\n/*# sourceMappingURL=a*/b.map */", ?_, fun hclosed => ?_⟩
  · cases hrendered : (starred.renderOn (compilingTo (.ok acceptedResult))).1 with
    | error failure =>
        rw [hrendered] at hcss
        cases hcss
    | ok css =>
        rw [hrendered] at hcss
        exact congrArg Except.ok (Option.some.inj hcss)
  · have hnil := hclosed "\n/*# sourceMappingURL=a".toList "b.map */".toList (by decide)
    exact absurd hnil (by decide)

end Engine

end SassBridge
