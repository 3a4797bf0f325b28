import SassBridge.Failure
import SassBridge.Text.Split

/-!
The languages of stylesheets, told by an ending that is looked for in a path: in any letter case, and right before
the end of the path or one final line break. The long s is a letter case of `s`.
-/

namespace SassBridge

inductive Language where
  | scss
  | indented
  | css
  deriving DecidableEq, Repr

namespace Language

def name : Language → String
  | scss => "scss"
  | indented => "indented"
  | css => "css"

def ofName? : String → Option Language
  | "scss" => some scss
  | "indented" => some indented
  | "css" => some css
  | _ => none

def ending : Language → List Char
  | scss => ['.', 's', 'c', 's', 's']
  | indented => ['.', 's', 'a', 's', 's']
  | css => ['.', 'c', 's', 's']

/-- Folds letter case. -/
def fold (c : Char) : Char :=
  if c = 'ſ' then 's' else c.toLower

/-- Whether a text begins with an ending and stops there, or after one line break. -/
def stopsAfter : List Char → List Char → Bool
  | [], rest => rest.isEmpty || rest == ['\n']
  | letter :: ending, c :: rest => fold c == letter && stopsAfter ending rest
  | _ :: _, [] => false

/-- Whether a text stops after an ending that begins anywhere in it. -/
def isFound (ending : List Char) : List Char → Bool
  | [] => stopsAfter ending []
  | c :: rest => stopsAfter ending (c :: rest) || isFound ending rest

def matchesPath (language : Language) (path : List Char) : Bool :=
  isFound language.ending path

/-- The language of a path, if its ending is known. -/
def ofPath? (path : String) : Option Language :=
  [scss, indented, css].find? (·.matchesPath path.toList)

def ofPath (path : String) : Except Failure Language :=
  match ofPath? path with
  | some language => .ok language
  | none => .error (.unknownExtension path)

end Language

end SassBridge
