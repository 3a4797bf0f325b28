import SassBridge.Assoc
import SassBridge.Number.Numeral
import SassBridge.Text.Wide

/-! JSON documents whose objects keep the order of their keys. Their texts may hold surrogates. -/

namespace SassBridge

inductive Json where
  | null
  | bool (value : Bool)
  | number (value : Numeral)
  | string (value : Wide)
  | array (items : List Json)
  | object (entries : List (Wide × Json))
  deriving Repr, Inhabited

namespace Json

/-- The value under a key. -/
def field? (entries : List (Wide × Json)) (key : Wide) : Option Json :=
  Assoc.find? (· == ·) key entries

/-- Binds a key, in place if it is there already. -/
def setField (entries : List (Wide × Json)) (key : Wide) (value : Json) : List (Wide × Json) :=
  Assoc.insert (· == ·) key value entries

end Json

end SassBridge
