import SassBridge.Options.Field

/-! Records put together from checked fields. All fields are checked, and all errors kept, in order. -/

namespace SassBridge

inductive Validation (α : Type) where
  | valid (value : α)
  | invalid (errors : List FieldError)

namespace Validation

variable {α β : Type}

def map (f : α → β) : Validation α → Validation β
  | valid value => valid (f value)
  | invalid errors => invalid errors

/-- Applies what the first record gives to what the second gives; errors add up. -/
def apply : Validation (α → β) → Validation α → Validation β
  | valid f, valid value => valid (f value)
  | valid _, invalid errors => invalid errors
  | invalid errors, valid _ => invalid errors
  | invalid errors, invalid more => invalid (errors ++ more)

instance : Functor Validation where
  map := map

instance : Seq Validation where
  seq f value := apply f (value ())

/-- Checks a field. -/
def check (accepts : Field.Check α) (name : String) (given : Datum) : Validation α :=
  match accepts given with
  | .ok value => valid value
  | .error fault => invalid [⟨name, fault⟩]

/-- Checks a field that has a default for when it is not given. -/
def checkGiven (accepts : Field.Check α) (default : α) (name : String) : Option Datum → Validation α
  | some given => check accepts name given
  | none => valid default

/-- The record, or the failure that names all its errors. -/
def toExcept (record : Checked) : Validation α → Except Failure α
  | valid value => .ok value
  | invalid errors => .error (.invalidFields record errors)

end Validation

end SassBridge
