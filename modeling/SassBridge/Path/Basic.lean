import SassBridge.Text.Split

/-!
POSIX paths as text. A path is normal when it has no empty, `.` or needless `..` part. Two leading
slashes are a root of their own; three or more are one.
-/

namespace SassBridge.Path

/-- The root at the start of a path: nothing, one slash or two. -/
def root : List Char → List Char
  | '/' :: '/' :: '/' :: _ => ['/']
  | '/' :: '/' :: _ => ['/', '/']
  | '/' :: _ => ['/']
  | _ => []

theorem root_cons_slash (rest : List Char) : root ('/' :: rest) = ['/'] ∨ root ('/' :: rest) = ['/', '/'] := by
  unfold root
  split <;> simp_all

theorem root_ne_nil_iff {path : List Char} : root path ≠ [] ↔ ∃ rest, path = '/' :: rest := by
  constructor
  · intro hroot
    cases path with
    | nil => exact absurd rfl hroot
    | cons c rest =>
        by_cases hc : c = '/'
        · exact ⟨rest, by rw [hc]⟩
        · refine absurd ?_ hroot
          unfold root
          split <;> simp_all
  · rintro ⟨rest, rfl⟩
    rcases root_cons_slash rest with h | h <;> simp [h]

/-- Adds a part to the parts so far, which are in reverse. A `..` takes the last part away; where there is
none it stays, unless the path has a root. -/
def push (rooted : Bool) (parts : List (List Char)) (part : List Char) : List (List Char) :=
  if part = [] ∨ part = ['.'] then parts
  else if part = ['.', '.'] then
    match parts with
    | [] => if rooted then [] else [part]
    | last :: rest => if last = ['.', '.'] then part :: parts else rest
  else part :: parts

theorem push_nil (rooted : Bool) (parts : List (List Char)) : push rooted parts [] = parts := by
  unfold push
  rw [if_pos (Or.inl rfl)]

/-- The parts of the normal form. -/
def normalParts (path : List Char) : List (List Char) :=
  ((Text.split '/' path).foldl (push (root path ≠ [])) []).reverse

def normalChars (path : List Char) : List Char :=
  match root path ++ ['/'].intercalate (normalParts path) with
  | [] => ['.']
  | normal => normal

/-- The normal form of a path; it is never empty. -/
def normalize (path : String) : String :=
  .ofList (normalChars path.toList)

/-- A path read from a directory: one that starts with a slash stands by itself. -/
def joinChars (directory path : List Char) : List Char :=
  match path with
  | '/' :: _ => path
  | _ =>
    match directory.getLast? with
    | none | some '/' => directory ++ path
    | some _ => directory ++ '/' :: path

def join (directory path : String) : String :=
  .ofList (joinChars directory.toList path.toList)

def absoluteChars (cwd path : List Char) : List Char :=
  normalChars (joinChars cwd path)

/-- The normal form of a path read from the working directory. -/
def absolute (cwd path : String) : String :=
  .ofList (absoluteChars cwd.toList path.toList)

/-- The names along a path, without its root. -/
def names (path : List Char) : List (List Char) :=
  (Text.split '/' path).filter (· ≠ [])

/-- What is left of two lists after their common start. -/
def dropCommon {α : Type} [DecidableEq α] : List α → List α → List α × List α
  | a :: as, b :: bs => if a = b then dropCommon as bs else (a :: as, b :: bs)
  | as, bs => (as, bs)

def relativeChars (cwd start target : List Char) : List Char :=
  let (up, down) := dropCommon (names (absoluteChars cwd start)) (names (absoluteChars cwd target))
  match up.map (fun _ => ['.', '.']) ++ down with
  | [] => ['.']
  | parts => ['/'].intercalate parts

/-- The way from `start` to `target`. An empty target names no file. -/
def relative? (cwd start target : String) : Option String :=
  if target = "" then none else some (.ofList (relativeChars cwd.toList start.toList target.toList))

/-- A path without empty and `.` parts; `..` parts stay. -/
def tidy (path : String) : String :=
  let parts := (names path.toList).filter (· ≠ ['.'])
  match root path.toList ++ ['/'].intercalate parts with
  | [] => "."
  | tidied => .ofList tidied

end SassBridge.Path
