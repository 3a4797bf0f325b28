import SassBridge.Value.Equality

/-!
Digests of script values: what their hashes are computed from. Equal values have equal digests; a value that
holds something which can change has none, and cannot be the key of a map.
-/

namespace SassBridge

/-- The parts of a digest. Numbers stand for their exact value, or else for the object that they are. -/
inductive Token where
  | null
  /-- In units of `2 ^ -1074`. -/
  | number (exact : Int)
  | infinite (negative : Bool)
  | nan (object : Nat)
  | text (value : String)
  | octets (content : String)
  | path (value : String)
  | object
  | foreign (typeName : String)
  /-- The start of a value of a class, or of a sequence where there is no name. -/
  | start (className : String)
  | stop
  deriving DecidableEq, Repr

abbrev Digest := List Token

namespace Digest

/-- A class or a sequence around its parts. -/
def group (className : String) (parts : Digest) : Digest :=
  .start className :: parts ++ [.stop]

def texts (texts : List String) : Digest :=
  group "" (texts.map Token.text)

end Digest

def Numeral.token (value : Numeral) : Token :=
  match value with
  | .int value => .number (value * Binary64.unitsPerOne)
  | .float (.nan object) => .nan object
  | .float (.infinite negative) => .infinite negative
  | .float (.finite false significand exponent) => .number (Binary64.magnitude significand exponent)
  | .float (.finite true significand exponent) => .number (-Binary64.magnitude significand exponent)

/-- Lists and dictionaries can change, so they have no digest. -/
def Datum.token : Datum → Except Failure Token
  | .null => .ok .null
  | .bool value => .ok (Numeral.token (.int (if value then 1 else 0)))
  | .number value => .ok value.token
  | .text value => .ok (.text value)
  | .octets content => .ok (.octets content)
  | .path value => .ok (.path value)
  | .tagged _ | .object | .host _ => .ok .object
  | .list _ | .dict _ => .error .wrongType

def Color.digest (color : Color) : Digest :=
  match color.channels with
  | .rgb r g b => [.text "rgba", r.token, g.token, b.token, color.alpha.token]
  | .hsl h s l => [.text "hsla", h.token, s.token, l.token, color.alpha.token]

def Number.digest (number : Number) : Digest :=
  number.value.token :: Digest.texts number.numerators ++ Digest.texts number.denominators

/-- What is inside the class of an atom. Of objects that are no script values, some cannot be keys. -/
def Atom.digest : Atom → Except Failure Digest
  | .null _ => .ok [.null]
  | .bool _ value => .ok [Numeral.token (.int (if value then 1 else 0))]
  | .color _ value => .ok value.digest
  | .number _ value => .ok value.digest
  | .legacyString text type => .ok [.text text, .text type]
  | .compilerString text quoted => .ok [.text text, Numeral.token (.int (if quoted then 1 else 0))]
  | .foreign "list" | .foreign "dict" => .error .wrongType
  | .foreign "Value" => .error .abstractCall
  | .foreign typeName => .ok [.foreign typeName]

namespace Value

mutual

def digest : Value → Except Failure Digest
  | atom value => do return Digest.group (atom value).typeName (← value.digest)
  | list side elements separator bracketed => do
    let elements ← digestElements elements
    let brackets ← bracketed.token
    return Digest.group (list side [] separator bracketed).typeName
      (Digest.group "" elements ++ [(separator.map Token.text).getD .null, brackets])
  | map side entries => do
    return Digest.group (map side []).typeName (Digest.group "" (← digestEntries entries))

def digestElements : List Value → Except Failure Digest
  | [] => .ok []
  | value :: rest => do
    let value ← digest value
    return value ++ (← digestElements rest)

def digestEntries : List (Value × Value) → Except Failure Digest
  | [] => .ok []
  | (key, value) :: rest => do
    let key ← digest key
    let value ← digest value
    return Digest.group "" (key ++ value) ++ (← digestEntries rest)

end

/-- Whether the hashes of two values fit their equality: equal values have to have the same digest. -/
def hashesAgree (a b : Value) : Except Failure Bool :=
  if a.equal b then do
    let first ← a.digest
    let second ← b.digest
    return first == second
  else .ok true

end Value

end SassBridge
