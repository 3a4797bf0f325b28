import SassBridge.Failure
import SassBridge.Url.File

/-! Paths and URLs where there may be none. -/

namespace SassBridge.Url

/-- The URL of an option that names a file; null names none. -/
def ofDatum (platform : Platform) (cwd : String) : Datum → Except Failure (Option String)
  | .null => .ok none
  | .text path | .path path => .ok (some (ofPath platform cwd path))
  | _ => .error .wrongType

/-- The path of a URL, where there is one. -/
def toPathOption (platform : Platform) : Option String → Except Failure (Option String)
  | none => .ok none
  | some url =>
    match toPath platform url with
    | .ok path => .ok (some path)
    | .error fault => .error (.badHost fault)

/-- The way from `start` to a path, where there is one. -/
def relativePath (cwd start : String) : Option String → Except Failure (Option String)
  | none => .ok none
  | some path =>
    match Path.relative? cwd start path with
    | some relative => .ok (some relative)
    | none => .error .emptyPath

end SassBridge.Url
