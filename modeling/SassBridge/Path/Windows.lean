import SassBridge.Text.LetterCase
import SassBridge.Text.Split

/-!
Windows paths as text. Both slashes separate parts; the normal form has backslashes. A drive is a letter
with a colon, or the host and share of a network path.
-/

namespace SassBridge.Path.Windows

def isSeparator (c : Char) : Bool :=
  c = '\\' || c = '/'

def backslashed (path : List Char) : List Char :=
  path.map fun c => if c = '/' then '\\' else c

/-- The length of the text up to the second separator from `start` on, or of all of it. -/
def shareLength (path : List Char) (start : Nat) : Nat :=
  let host := (path.drop start).takeWhile (!isSeparator ·)
  let share := (path.drop (start + host.length + 1)).takeWhile (!isSeparator ·)
  min path.length (start + host.length + 1 + share.length)

/-- How many characters at the start name the drive. -/
def driveLength (path : List Char) : Nat :=
  match path with
  | a :: b :: _ =>
    if isSeparator a && isSeparator b then
      let long := (backslashed (path.take 8)).map Char.toUpper = "\\\\?\\UNC\\".toList
      shareLength path (if long then 8 else 2)
    else if b = ':' then 2
    else 0
  | _ => 0

/-- The drive of a path, and what follows it. -/
def splitDrive (path : List Char) : List Char × List Char :=
  path.splitAt (driveLength path)

/-- A path that starts with a separator is absolute, and so is one with a separator after a drive letter. -/
def isAbsolute (path : List Char) : Bool :=
  match path with
  | a :: b :: c :: _ => isSeparator a || (b = ':' && isSeparator c)
  | a :: _ => isSeparator a
  | [] => false

def startsWithSeparator : List Char → Bool
  | [] => false
  | c :: _ => isSeparator c

/-- A path read from a directory. Another drive leaves the directory behind, another case of the same drive
only replaces the letter. -/
def join (directory path : List Char) : List Char :=
  let (drive, rest) := splitDrive directory
  let (newDrive, newRest) := splitDrive path
  let (drive, rest) :=
    if startsWithSeparator newRest then
      (if newDrive ≠ [] ∨ drive = [] then newDrive else drive, newRest)
    else if newDrive ≠ [] ∧ LetterCase.lower newDrive ≠ LetterCase.lower drive then (newDrive, newRest)
    else
      let drive := if newDrive = [] then drive else newDrive
      let rest := if rest ≠ [] ∧ !(rest.getLast?.any isSeparator) then rest ++ ['\\'] else rest
      (drive, rest ++ newRest)
  if rest ≠ [] ∧ !startsWithSeparator rest ∧ drive ≠ [] ∧ drive.getLast? ≠ some ':' then
    drive ++ '\\' :: rest
  else drive ++ rest

/-- Adds a part to the parts so far, which are in reverse. -/
def push (rooted : Bool) (parts : List (List Char)) (part : List Char) : List (List Char) :=
  if part = [] ∨ part = ['.'] then parts
  else if part = ['.', '.'] then
    match parts with
    | [] => if rooted then [] else [part]
    | last :: rest => if last = ['.', '.'] then part :: parts else rest
  else part :: parts

def normalize (path : List Char) : List Char :=
  let (drive, rest) := splitDrive (backslashed path)
  let rooted := startsWithSeparator rest
  let start := if rooted then drive ++ ['\\'] else drive
  let parts := (Text.split '\\' rest).foldl (push (start.getLast? = some '\\')) []
  match start ++ ['\\'].intercalate parts.reverse with
  | [] => ['.']
  | normal => normal

/-- The normal form of a path read from the working directory. -/
def absolute (cwd path : List Char) : List Char :=
  normalize (if isAbsolute path then path else join cwd path)

end SassBridge.Path.Windows
