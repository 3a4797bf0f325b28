import SassBridge.Assoc
import SassBridge.Number.Numeral
import SassBridge.Text.Utf8

/-!
Option values. A bag of options holds them by name; the same bag is seen by the engine, by custom functions
and by an importer that was built from it.
-/

namespace SassBridge

/-- The objects of the host that an option can hold. -/
inductive HostObject where
  | functionSet
  | importerClass
  | importer
  deriving DecidableEq, Repr

inductive Datum where
  | null
  | bool (value : Bool)
  | number (value : Numeral)
  | text (value : String)
  /-- Octets, given by the text that they encode. -/
  | octets (content : String)
  | path (value : String)
  | list (items : List Datum)
  | dict (entries : List (String × Datum))
  /-- An object with a `value`. -/
  | tagged (value : Datum)
  /-- An object of which nothing is known. -/
  | object
  | host (object : HostObject)
  deriving Repr, Inhabited

namespace Datum

/-- What counts as true: everything but null, false, zeros and what is empty. -/
def isTrue : Datum → Bool
  | null => false
  | bool value => value
  | number value => !value.isZero
  | text value => value ≠ ""
  | octets content => content ≠ ""
  | list items => !items.isEmpty
  | dict entries => !entries.isEmpty
  | path _ | tagged _ | object | host _ => true

def isNull : Datum → Bool
  | null => true
  | _ => false

end Datum

/-- Options by name, in the order in which they were given. -/
abbrev Bag := List (String × Datum)

namespace Bag

def get? (bag : Bag) (name : String) : Option Datum :=
  Assoc.find? (· == ·) name bag

def set (bag : Bag) (name : String) (value : Datum) : Bag :=
  Assoc.insert (· == ·) name value bag

/-- The bag with all of `more` set on top. -/
def merge (bag more : Bag) : Bag :=
  Assoc.insertAll (· == ·) bag more

end Bag

end SassBridge
