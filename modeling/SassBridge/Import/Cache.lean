import SassBridge.Import.CanonicalUrl
import SassBridge.Import.Language
import SassBridge.Import.LegacyImporter
import SassBridge.Json.Printer
import SassBridge.Url.File

/-!
What is known of canonical URLs in one render, and how the answer of an importer is entered: each stylesheet
it names under its own URL, and the list of all of them as a synthetic stylesheet under the request's.
-/

namespace SassBridge

structure Stylesheet where
  contents : String
  language : Language
  sourceMapUrl : Option String
  deriving DecidableEq, Repr

/-- What a canonical URL stands for: a stylesheet, or nothing that could be given. -/
inductive Resolution where
  | stylesheet (sheet : Stylesheet)
  | declined
  deriving DecidableEq, Repr

def Resolution.stylesheet? : Resolution → Option Stylesheet
  | stylesheet sheet => some sheet
  | declined => none

abbrev Cache := List (CanonicalUrl × Resolution)

namespace Cache

def find? (cache : Cache) (url : CanonicalUrl) : Option Resolution :=
  Assoc.find? (· == ·) url cache

def insert (cache : Cache) (url : CanonicalUrl) (resolution : Resolution) : Cache :=
  Assoc.insert (· == ·) url resolution cache

/-- The stylesheet for a URL that a compiler gives back. -/
def load (cache : Cache) (url : String) : Option Stylesheet :=
  (cache.find? (.ofWire url)).bind Resolution.stylesheet?

end Cache

namespace ImportEntry

/-- The URL of an entry. -/
def url (cwd : String) (entry : ImportEntry) : String :=
  Url.ofPath .posix cwd entry.path

/-- The URL of an entry's source map, which is named relative to the requested path. -/
def sourceMapUrl (cwd requested : String) (entry : ImportEntry) : Option String :=
  match entry.sourceMapPath with
  | none | some "" => none
  | some path => some (Url.ofPath .posix cwd (Path.join requested path))

/-- What an entry stands for. A source has to be in a known language. -/
def resolution (cwd requested : String) (entry : ImportEntry) : Except Failure Resolution :=
  match entry.source with
  | none => .ok .declined
  | some source => do
    let language ← Language.ofPath entry.path
    return .stylesheet ⟨source, language, entry.sourceMapUrl cwd requested⟩

/-- The statement that imports an entry. -/
def statement (cwd : String) (entry : ImportEntry) : String :=
  "@import " ++ Json.quoteAscii (entry.url cwd) ++ ";"

end ImportEntry

namespace Cache

/-- Enters one element of a sequence. -/
def register (cache : Cache) (cwd requested : String) : Option ImportEntry → Except Failure Cache
  | none => .error .noAttribute
  | some entry => do
    let resolution ← entry.resolution cwd requested
    return cache.insert (.real (entry.url cwd)) resolution

/-- Enters the elements of a sequence one after another. Those before a failure stay entered. -/
def registerAll (cwd requested : String) :
    List (Option ImportEntry) → Cache → Except Failure Unit × Cache
  | [], cache => (.ok (), cache)
  | entry :: rest, cache =>
    match cache.register cwd requested entry with
    | .ok cache => registerAll cwd requested rest cache
    | .error failure => (.error failure, cache)

end Cache

/-- The stylesheet that imports entries in order, one on each line. -/
def Stylesheet.importing (cwd : String) (entries : List (Option ImportEntry)) : Stylesheet :=
  ⟨"\n".intercalate ((entries.filterMap id).map (·.statement cwd)), .scss, none⟩

end SassBridge
