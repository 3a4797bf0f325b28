import SassBridge.Proofs.Engine.LastResult
import SassBridge.Proofs.Json.RoundTrip
import SassBridge.Proofs.Lists
import SassBridge.Proofs.Path.Relative
import SassBridge.Proofs.Path.Spelling
import SassBridge.Proofs.Url.RoundTrip

/-! Source maps made relative. Of a document whose sources are texts only the URLs of paths change, each into a way
from the working directory to its path; what is written is read back as that. -/

namespace SassBridge

namespace SourceMap

/-- What becomes of a source: the URL of a path becomes a way from the working directory to the path, and what is no
file URL stays as it is. -/
inductive Rewrites (cwd : String) : Wide → Wide → Prop where
  | kept {source : Wide} (hother : isFileSource source = false) : Rewrites cwd source source
  | shortened {path way : String} (hhead : way.toList.head? ≠ some '/')
      (hback : Path.normalize (Path.join cwd way) = Path.absolute cwd path) :
      Rewrites cwd (.ofString (Url.ofPath .posix cwd path)) (.ofString way)

/-- What becomes of an entry: the sources are rewritten one by one, and every other value stays. -/
inductive EntryRewrites (cwd : String) : Wide × Json → Wide × Json → Prop where
  | kept {entry : Wide × Json} (hkey : entry.1 ≠ sourcesKey) : EntryRewrites cwd entry entry
  | sources {sources ways : List Wide} (hsources : List.Forall₂ (Rewrites cwd) sources ways) :
      EntryRewrites cwd (sourcesKey, .array (sources.map .string)) (sourcesKey, .array (ways.map .string))

/-- Whether a value is a list of texts in which each file URL is that of a path below the one root. -/
def AreSources (cwd : String) (given : Json) : Prop :=
  ∃ sources : List Wide, given = .array (sources.map .string) ∧ ∀ source ∈ sources, isFileSource source = true →
    ∃ path, source = .ofString (Url.ofPath .posix cwd path) ∧ Path.root (Path.absolute cwd path).toList = ['/']

theorem sourcePath_ofString (url : String) :
    sourcePath (.ofString url) = ((Url.toPath .posix url).map Wide.ofString).mapError .badHost := by
  rw [sourcePath, Wide.toString?_ofString]

/-- A URL without surrogates is made relative like the URL of any other file. -/
theorem relativeSource_ofString (cwd url : String) :
    relativeSource cwd (.ofString url) = (relativePath cwd url).map Wide.ofString := by
  rw [relativeSource, sourcePath_ofString, relativePath]
  cases Url.toPath .posix url with
  | error fault => rfl
  | ok path =>
      by_cases hpath : path = ""
      · rw [hpath]
        rfl
      · have hne : (Wide.ofString path).isEmpty = false := by
          simp [Wide.ofString, Wide.ofChars, hpath]
        have hway : Path.relative? cwd cwd path =
            some (.ofList (Path.relativeChars cwd.toList cwd.toList path.toList)) := if_neg hpath
        have hspelled : Wide.ofEscaped (Path.relativeChars (Wide.ofString cwd).escaped (Wide.ofString cwd).escaped
            (Wide.ofString path).escaped) =
              .ofString (.ofList (Path.relativeChars cwd.toList cwd.toList path.toList)) := by
          rw [Wide.ofString, Wide.ofString, Path.isSpelling_escaped.relativeChars_spell, Wide.ofEscaped_escaped,
            Wide.ofString, String.toList_ofList]
        simp only [hway, Except.map]
        rw [← hspelled]
        change (if (Wide.ofString path).isEmpty then _ else _) = _
        rw [hne]
        rfl

section Sources

variable {cwd : String} (hcwd : Path.root cwd.toList = ['/'])

include hcwd in
theorem relativizeSource_ok {source : Wide}
    (hsource : isFileSource source = true →
      ∃ path, source = .ofString (Url.ofPath .posix cwd path) ∧ Path.root (Path.absolute cwd path).toList = ['/']) :
    ∃ way, relativizeSource cwd (.string source) = .ok (.string way) ∧ Rewrites cwd source way := by
  by_cases hfile : isFileSource source = true
  · obtain ⟨path, rfl, hpath⟩ := hsource hfile
    obtain ⟨way, hway, hhead, hback⟩ := Path.relative?_absolute hcwd hpath
    have habsolute : Path.IsAbsolute cwd := by simp [Path.IsAbsolute, hcwd]
    have hrelative : relativePath cwd (Url.ofPath .posix cwd path) = .ok way := by
      rw [relativePath, Url.toPath_ofPath habsolute]
      simp only [hway]
    refine ⟨.ofString way, ?_, .shortened hhead hback⟩
    rw [relativizeSource, if_pos hfile, relativeSource_ofString, hrelative]
    rfl
  · exact ⟨source, if_neg hfile, .kept (by simpa using hfile)⟩

include hcwd in
/-- All sources can be rewritten. -/
theorem mapM_relativizeSource {given : Json} (hgiven : AreSources cwd given) :
    ∃ sources ways : List Wide, given = .array (sources.map .string) ∧
      (sources.map Json.string).mapM (relativizeSource cwd) = .ok (ways.map .string) ∧
      List.Forall₂ (Rewrites cwd) sources ways := by
  obtain ⟨sources, rfl, hsources⟩ := hgiven
  obtain ⟨ways, hways⟩ := Lists.exists_forall₂_iff.mpr fun source hsource =>
    relativizeSource_ok hcwd (hsources source hsource)
  refine ⟨sources, ways, rfl, ?_, hways.imp fun _ _ h => h.2⟩
  rw [Lists.mapM_ok_iff, List.forall₂_map_left_iff, List.forall₂_map_right_iff]
  exact hways.imp fun _ _ h => h.1

end Sources

section Documents

variable {cwd : String} {entries : List (Wide × Json)} {ascii : Bool}

theorem isBuilt_texts {texts : List Wide} (htexts : ∀ text ∈ texts, Json.IsWritable ascii text) :
    (Json.array (texts.map .string)).IsBuilt ascii := by
  refine .array fun item hitem => ?_
  obtain ⟨text, htext, rfl⟩ := List.mem_map.mp hitem
  exact .string (htexts text htext)

/-- With other sources a document that was read can still be read. -/
theorem isBuilt_setField (hbuilt : (Json.object entries).IsBuilt false) (key : Wide) (ways : List Wide) :
    (Json.object (Json.setField entries key (.array (ways.map .string)))).IsBuilt false := by
  obtain ⟨hapart, hentries⟩ : Assoc.Apart (· == ·) entries ∧ ∀ entry ∈ entries, entry.2.IsBuilt false := by
    cases hbuilt with
    | object hapart _ hentries => exact ⟨hapart, hentries⟩
  have hall : ∀ entry ∈ Json.setField entries key (.array (ways.map .string)), True ∧ entry.2.IsBuilt false :=
    Assoc.forall_mem_insert (P := fun _ => True) (fun entry hentry => ⟨trivial, hentries entry hentry⟩) trivial
      (isBuilt_texts fun way _ => Json.isWritable_false way)
  exact .object (Assoc.apart_insert hapart _) (fun entry _ => Json.isWritable_false entry.1) fun entry hentry =>
    (hall entry hentry).2

theorem relativize_ok (hcwd : Path.root cwd.toList = ['/']) (hbuilt : (Json.object entries).IsBuilt false)
    (hsources : ∀ given, Json.field? entries sourcesKey = some given → AreSources cwd given) :
    ∃ rewritten, relativize cwd (.object entries) = .ok (.object rewritten) ∧ (Json.object rewritten).IsBuilt false ∧
      List.Forall₂ (EntryRewrites cwd) entries rewritten := by
  have hnodup : (entries.map Prod.fst).Nodup := by
    cases hbuilt with
    | object hapart _ _ => exact Assoc.apart_iff_nodup.mp hapart
  cases hfield : Json.field? entries sourcesKey with
  | none =>
      refine ⟨entries, ?_, hbuilt, List.forall₂_same.mpr fun entry hentry => .kept ?_⟩
      · simp only [relativize, hfield]
      · intro hkey
        have hfound := Assoc.find?_of_mem hnodup (by rwa [← hkey] : (sourcesKey, entry.2) ∈ entries)
        rw [Json.field?, hfound] at hfield
        cases hfield
  | some given =>
      obtain ⟨sources, ways, rfl, hmap, hways⟩ := mapM_relativizeSource hcwd (hsources given hfield)
      refine ⟨Json.setField entries sourcesKey (.array (ways.map .string)), ?_, isBuilt_setField hbuilt _ ways, ?_⟩
      · simp only [relativize, hfield, SourceMap.sources]
        exact Lists.return_ok_iff.mpr ⟨_, hmap, rfl⟩
      · refine (Assoc.forall₂_insert_of_find? hnodup hfield _).imp ?_
        rintro entry kept (⟨rfl, rfl⟩ | ⟨hkey, rfl⟩)
        · exact .sources hways
        · exact .kept hkey

/-- The text of a rewritten document is read as the document. -/
theorem relativizeText_ok (hcwd : Path.root cwd.toList = ['/']) {text : Wide}
    (hparse : Json.parse? text = some (.object entries))
    (hsources : ∀ given, Json.field? entries sourcesKey = some given → AreSources cwd given) :
    ∃ result rewritten, relativizeText cwd text = .ok result ∧ Json.parse? result = some (.object rewritten) ∧
      List.Forall₂ (EntryRewrites cwd) entries rewritten := by
  obtain ⟨rewritten, hrelative, hbuilt, hentries⟩ := relativize_ok hcwd (Json.isBuilt_of_parse? hparse) hsources
  refine ⟨_, rewritten, ?_, Json.parse?_print Json.Form.isReadable_compact hbuilt, hentries⟩
  rw [relativizeText, hparse]
  exact Lists.return_ok_iff.mpr ⟨_, hrelative, rfl⟩

end Documents

end SourceMap

namespace World

open SourceMap

/-- Rewriting a source map succeeds and changes only what it should. It is read back with the keys it had, in their
order, and with the values it had, the sources apart; and of those each file URL has become a way from the working
directory to its path. -/
theorem relativizeSourceMap_rewrites {κ ι : Type} (world : World κ ι) {text : String}
    {entries : List (Wide × Json)} (hcwd : Path.root world.surroundings.cwd.toList = ['/'])
    (hparse : Json.parse? (.ofString text) = some (.object entries))
    (hsources : ∀ given, Json.field? entries sourcesKey = some given → AreSources world.surroundings.cwd given) :
    ∃ result rewritten, (relativizeSourceMap (.text text)).run world = (.ok (some result), world) ∧
      Json.parse? result = some (.object rewritten) ∧
      List.Forall₂ (EntryRewrites world.surroundings.cwd) entries rewritten := by
  obtain ⟨result, rewritten, hrelative, hread, hentries⟩ := relativizeText_ok hcwd hparse hsources
  refine ⟨result, rewritten, ?_, hread, hentries⟩
  rw [relativizeSourceMap_text, hrelative]
  rfl

/-- Sources below the working directory, that directory itself, the root, a path beside it, and no files. -/
def givenSources : List Wide :=
  ["file:///work/project/src/app%20%23.scss", "file:///work/project", "file:///", "file:///work/other/a.scss",
    "data:;charset=utf-8,a", "sass:math"]

/-- A source map with these sources. -/
def givenText : String :=
  "\x7b\"version\": 3, \"sources\": [\"file:///work/project/src/app%20%23.scss\", \"file:///work/project\", " ++
    "\"file:///\", \"file:///work/other/a.scss\", \"data:;charset=utf-8,a\", \"sass:math\"], \"names\": []\x7d"

theorem relativizeSourceMap_rewrites_given :
    let world : World Unit Unit := ⟨.start "/work/project" [] ⟨none, []⟩, Engine.plain⟩
    let entries : List (Wide × Json) :=
      [("version", .number (.int 3)), ("sources", .array (givenSources.map .string)), ("names", .array [])]
    Path.root world.surroundings.cwd.toList = ['/'] ∧ Json.parse? (.ofString givenText) = some (.object entries) ∧
      AreSources world.surroundings.cwd (.array (givenSources.map .string)) ∧
      ∃ result rewritten, (relativizeSourceMap (.text givenText)).run world = (.ok (some result), world) ∧
        Json.parse? result = some (.object rewritten) ∧
        List.Forall₂ (EntryRewrites world.surroundings.cwd) entries rewritten := by
  intro world entries
  have hcwd : Path.root world.surroundings.cwd.toList = ['/'] := by decide
  have htext : .ofString givenText = Json.print .spaced (.object entries) := by decide +kernel
  have hbuilt : (Json.object entries).IsBuilt true := by
    have hwritable : ∀ text ∈ givenSources, Json.IsWritable true text := by
      simp [givenSources, Json.isWritable_ofString]
    refine .object (by decide) (by simp [entries, Json.isWritable_ofString]) ?_
    simp only [entries, List.forall_mem_cons]
    exact ⟨.number trivial, isBuilt_texts hwritable, .array nofun, nofun⟩
  have hparse : Json.parse? (.ofString givenText) = some (.object entries) := by
    rw [htext]
    exact Json.parse?_print Json.Form.isReadable_spaced hbuilt
  have hgiven : AreSources world.surroundings.cwd (.array (givenSources.map .string)) := by
    refine ⟨givenSources, rfl, ?_⟩
    simp only [givenSources, List.forall_mem_cons]
    refine ⟨fun _ => ⟨"src/app #.scss", by decide⟩, fun _ => ⟨"", by decide⟩, fun _ => ⟨"/", by decide⟩,
      fun _ => ⟨"../other/a.scss", by decide⟩, fun hfile => absurd hfile (by decide),
      fun hfile => absurd hfile (by decide), nofun⟩
  refine ⟨hcwd, hparse, hgiven, relativizeSourceMap_rewrites world hcwd hparse fun given hfield => ?_⟩
  rwa [← Option.some.inj (hfield : some (Json.array (givenSources.map .string)) = some given)]

end World

end SassBridge
