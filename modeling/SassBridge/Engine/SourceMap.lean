import SassBridge.Failure
import SassBridge.Json.Parser
import SassBridge.Json.Printer
import SassBridge.Url.File

/-!
Source maps of compilers, made relative to the working directory: sources that are `file:` URLs become relative
paths, and everything else is kept.
-/

namespace SassBridge.SourceMap

/-- The path of a file URL relative to the working directory. -/
def relativePath (cwd url : String) : Except Failure String :=
  match Url.toPath .posix url with
  | .error fault => .error (.badHost fault)
  | .ok path =>
    match Path.relative? cwd cwd path with
    | some relative => .ok relative
    | none => .error .emptyPath

/-- The path that the URL of a source names. Escapes stand for the surrogates while the URL is taken apart; the escapes
of octets are undone between surrogates only. -/
def sourcePath (url : Wide) : Except Failure Wide :=
  match url.toString? with
  | some url => ((Url.toPath .posix url).map Wide.ofString).mapError .badHost
  | none =>
    ((Url.pathChars url.escaped).map fun path => (Wide.ofEscaped path).mapRuns Percent.unescape).mapError .badHost

/-- The path of a URL relative to the working directory. The rules of paths look at slashes and points only, so that
escapes can stand for the surrogates. -/
def relativeSource (cwd : String) (url : Wide) : Except Failure Wide := do
  let path ← sourcePath url
  let directory := (Wide.ofString cwd).escaped
  if path.isEmpty then .error .emptyPath
  else .ok (.ofEscaped (Path.relativeChars directory directory path.escaped))

def isFileSource (source : Wide) : Bool :=
  (Wide.ofString "file:").isPrefixOf source

/-- One source, which has to be a text. -/
def relativizeSource (cwd : String) : Json → Except Failure Json
  | .string source =>
    if isFileSource source then (relativeSource cwd source).map Json.string else .ok (.string source)
  | _ => .error .noAttribute

/-- What is gone through as the sources: items, code points of a text, or keys. -/
def sources : Json → Except Failure (List Json)
  | .array items => .ok items
  | .string text => .ok (text.map fun code => .string [code])
  | .object entries => .ok (entries.map fun (key, _) => .string key)
  | _ => .error .wrongType

/-- The name under which a source map holds its sources. -/
def sourcesKey : Wide := "sources"

/-- Whether a list or a text has the key as an element or a part. Neither can be looked into by a key. -/
def holdsKey : Json → Bool
  | .array items => items.any fun
    | .string text => text == sourcesKey
    | _ => false
  | .string text => Text.occurs sourcesKey text
  | _ => false

/-- A document with its sources made relative. -/
def relativize (cwd : String) : Json → Except Failure Json
  | .object entries =>
    match Json.field? entries sourcesKey with
    | none => .ok (.object entries)
    | some given => do
      let relative ← (← sources given).mapM (relativizeSource cwd)
      return .object (Json.setField entries sourcesKey (.array relative))
  | .array items => if holdsKey (.array items) then .error .wrongType else .ok (.array items)
  | .string text => if holdsKey (.string text) then .error .wrongType else .ok (.string text)
  | _ => .error .wrongType

/-- The text of a source map, made relative. -/
def relativizeText (cwd : String) (text : Wide) : Except Failure Wide :=
  match Json.parse? text with
  | none => .error .malformedJson
  | some document => do return Json.print .compact (← relativize cwd document)

end SassBridge.SourceMap
