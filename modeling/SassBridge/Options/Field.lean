import SassBridge.Datum.Display
import SassBridge.Failure

/-!
Checks of single fields. What a field accepts is wider than its type: octets for text, paths where a file is
named, and numbers and words for truth values.
-/

namespace SassBridge.Field

/-- A check gives a value or says what is wrong. -/
abbrev Check (α : Type) := Datum → Except FieldFault α

/-- Text, also when given as octets. -/
def text : Check String
  | .text value | .octets value => .ok value
  | _ => .error .noText

/-- The text that names a file. -/
def file : Check String
  | .path value => .ok value
  | value => text value

/-- A check that lets null pass. -/
def optional {α : Type} (check : Check α) : Check (Option α)
  | .null => .ok none
  | value => (check value).map some

/-- No check at all. -/
def any : Check Datum :=
  .ok

def trueWords : List String := ["1", "on", "t", "true", "y", "yes"]

def falseWords : List String := ["0", "off", "f", "false", "n", "no"]

/-- The truth value that a word stands for, in any ASCII case. -/
def ofWord (word : String) : Except FieldFault Bool :=
  let lower := String.ofList (word.toList.map Char.toLower)
  if lower ∈ trueWords then .ok true
  else if lower ∈ falseWords then .ok false
  else .error .unreadableBool

/-- Integers beyond 64 bits are not even looked at. -/
def ofInteger (value : Int) : Except FieldFault Bool :=
  if value = 1 then .ok true
  else if value = 0 then .ok false
  else if -(Nat.pow 2 63) ≤ value ∧ value < Nat.pow 2 63 then .error .unreadableBool
  else .error .noBool

/-- A double that is a whole number counts as that number. -/
def ofDouble (value : Binary64) : Except FieldFault Bool :=
  match value.whole? with
  | some whole => if whole = -(Nat.pow 2 63) then .error .noBool else ofInteger whole
  | none => .error .noBool

def truth : Check Bool
  | .bool value => .ok value
  | .number (.int value) => ofInteger value
  | .number (.float value) => ofDouble value
  | .text word | .octets word => ofWord word
  | _ => .error .noBool

end SassBridge.Field
