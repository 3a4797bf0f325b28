import SassBridge.Value.Digest

/-! Entries of maps. An equal later key replaces the value and keeps the first key and its place. -/

namespace SassBridge.Value

/-- Binds a key of a map. -/
def insertEntry (entries : List (Value × Value)) (key value : Value) : List (Value × Value) :=
  Assoc.insert equal key value entries

/-- The entries of a map that is built from pairs. -/
def entriesOf (pairs : List (Value × Value)) : List (Value × Value) :=
  pairs.foldl (fun entries (key, value) => insertEntry entries key value) []

/-- A map of pairs, whose keys have to have digests. -/
def mapOf (side : Side) (pairs : List (Value × Value)) : Except Failure Value := do
  pairs.forM fun (key, _) => discard key.digest
  return .map side (entriesOf pairs)

end SassBridge.Value
