import SassBridge.Datum.Display
import SassBridge.Json.Basic

/-! Option values as JSON documents. What JSON has no form for is given in display form. -/

namespace SassBridge.Datum

mutual

def toJson : Datum → Json
  | null => .null
  | bool value => .bool value
  | number value => .number value
  | text value => .string value
  | list items => .array (itemsToJson items)
  | dict entries => .object (entriesToJson entries)
  | octets content => .string (octets content).display
  | path value => .string (path value).display
  | tagged value => .string (tagged value).display
  | object => .string object.display
  | host value => .string (host value).display

def itemsToJson : List Datum → List Json
  | [] => []
  | item :: rest => toJson item :: itemsToJson rest

def entriesToJson : List (String × Datum) → List (Wide × Json)
  | [] => []
  | (key, value) :: rest => (key, toJson value) :: entriesToJson rest

end

end SassBridge.Datum
