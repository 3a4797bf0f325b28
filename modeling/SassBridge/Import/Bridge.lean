import SassBridge.Event
import SassBridge.Import.Cache

/-!
A legacy importer as a compiler sees it: a request is first resolved to a canonical URL, which is then loaded.
Answers of the importer are kept for the render, declined requests included, so it is asked about a file at
most once.
-/

namespace SassBridge

/-- The answer to a request, what is known afterwards, the importer after it, the question that it was asked
if it was asked, and what was reported. -/
structure Canonicalization (ι : Type) where
  answer : Except Failure (Option String)
  cache : Cache
  receiver : Receiver ι
  asked : Option ImportRequest
  event : Option Event

namespace LegacyImporter

variable {ι : Type}

/-- Enters the entries for a requested path and answers with their synthetic stylesheet. -/
def synthesize (cwd requested fileUrl : String) (entries : List (Option ImportEntry)) (cache : Cache)
    (receiver : Receiver ι) (request : ImportRequest) : Canonicalization ι :=
  match Cache.registerAll cwd requested entries cache with
  | (.error failure, cache) => ⟨.error failure, cache, receiver, some request, none⟩
  | (.ok (), cache) =>
    let synthetic := CanonicalUrl.synthetic fileUrl
    let sheet := Resolution.stylesheet (.importing cwd entries)
    ⟨.ok (some synthetic.wire), cache.insert synthetic sheet, receiver, some request,
      some (.importResolved requested synthetic.wire entries.length)⟩

/-- Asks the importer. A single entry with the requested path itself declines the request. -/
def ask (importer : LegacyImporter ι) (cwd path fileUrl : String) (cache : Cache) (receiver : Receiver ι) :
    Canonicalization ι :=
  match receiver.options with
  | none => ⟨.error .noAttribute, cache, receiver, none, none⟩
  | some options =>
    let request : ImportRequest := ⟨path, (options.get? "filename").getD .null⟩
    match importer.imports request receiver with
    | (.error failure, receiver) => ⟨.error failure, cache, receiver, some request, none⟩
    | (.ok .other, receiver) => ⟨.error .noAttribute, cache, receiver, some request, none⟩
    | (.ok (.many entries), receiver) => synthesize cwd path fileUrl entries cache receiver request
    | (.ok (.one entry), receiver) =>
      if entry.path = path then
        ⟨.ok none, cache.insert (.real fileUrl) .declined, receiver, some request,
          some (.importDeclined path)⟩
      else synthesize cwd path fileUrl [some entry] cache receiver request

/-- Resolves a URL: from what is known of its file, or else by asking the importer. -/
def canonicalize (importer : LegacyImporter ι) (cwd url : String) (cache : Cache) (receiver : Receiver ι) :
    Canonicalization ι :=
  match Url.toPath .posix url with
  | .error fault => ⟨.error (.badHost fault), cache, receiver, none, none⟩
  | .ok path =>
    let fileUrl := Url.ofPath .posix cwd path
    match cache.find? (.real fileUrl) with
    | some .declined => ⟨.ok none, cache, receiver, none, none⟩
    | some (.stylesheet _) => ⟨.ok (some fileUrl), cache, receiver, none, none⟩
    | none =>
      if (cache.find? (.synthetic fileUrl)).isSome then
        ⟨.ok (some (CanonicalUrl.synthetic fileUrl).wire), cache, receiver, none, none⟩
      else importer.ask cwd path fileUrl cache receiver

end LegacyImporter

/-- The importer that hands `file:` URLs back, so that the compiler reads the files itself. -/
def findFileUrl (url : String) : Option String :=
  if Url.isFile url then some url else none

end SassBridge
