import SassBridge.Path.Basic
import SassBridge.Path.Windows
import SassBridge.Text.Percent
import SassBridge.Url.Split

/-!
Paths as `file:` URLs and back. A path is made absolute before it is written; reading takes the path of any
URL and undoes its escapes.
-/

namespace SassBridge.Url

/-- Whose rules paths follow. -/
inductive Platform where
  | posix
  | windows
  deriving DecidableEq, Repr

/-- What every written URL starts with. -/
def fileStart : List Char := "file://".toList

def withSlash : List Char → List Char
  | '/' :: rest => '/' :: rest
  | path => '/' :: path

/-- The absolute form of a path with forward slashes, as it is put into a URL. -/
def absoluteForUrl (platform : Platform) (cwd path : List Char) : List Char :=
  match platform with
  | .posix => Path.absoluteChars cwd path
  | .windows => (Path.Windows.absolute cwd path).map fun c => if c = '\\' then '/' else c

def ofPathChars (platform : Platform) (cwd path : List Char) : List Char :=
  fileStart ++ Percent.escape Percent.safeInPath (withSlash (absoluteForUrl platform cwd path))

/-- The URL of a path read from the working directory. -/
def ofPath (platform : Platform) (cwd path : String) : String :=
  .ofList (ofPathChars platform cwd.toList path.toList)

/-- On Windows the slash before a drive letter is no part of the path. -/
def dropDriveSlash (path : List Char) : List Char :=
  match path with
  | '/' :: letter :: ':' :: rest => if isSchemeStart letter then letter :: ':' :: rest else path
  | _ => path

def toPathChars (platform : Platform) (url : List Char) : Except HostFault (List Char) := do
  let path := Percent.unescape (← pathChars url)
  return match platform with
    | .posix => path
    | .windows => dropDriveSlash path

/-- The path that a URL names. -/
def toPath (platform : Platform) (url : String) : Except HostFault String :=
  (toPathChars platform url.toList).map String.ofList

/-- Whether a URL has the `file` scheme, written in lower case. -/
def isFile (url : String) : Bool :=
  Text.startsWith "file:" url

end SassBridge.Url
