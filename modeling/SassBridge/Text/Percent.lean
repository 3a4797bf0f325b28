import SassBridge.Text.Hex
import SassBridge.Text.Utf8

/-!
Percent escapes of URLs. Escaping writes each octet of a character that is not safe as `%XX`. Unescaping
reads the escapes of a run of ASCII characters as octets of UTF-8 and leaves a malformed escape as it is.
-/

namespace SassBridge.Percent

/-- ASCII letters and digits and `_.-~`, which no escaping touches. -/
def alwaysSafe (c : Char) : Bool :=
  ('a' ≤ c ∧ c ≤ 'z') || ('A' ≤ c ∧ c ≤ 'Z') || ('0' ≤ c ∧ c ≤ '9') || c ∈ ['_', '.', '-', '~']

/-- The characters that a URI as a whole keeps beside the always safe ones. -/
def reserved : List Char :=
  [';', '/', '?', ':', '@', '&', '=', '+', '$', ',', '[', ']', '!', '*', '\'', '(', ')']

/-- Safe in a URI as a whole. -/
def safeInUri (c : Char) : Bool :=
  alwaysSafe c || c ∈ reserved

/-- Safe in the path of a URL: a question mark would start a query. -/
def safeInPath (c : Char) : Bool :=
  safeInUri c && c ≠ '?'

/-- The escape of one octet. -/
def escapeOctet (octet : UInt8) : List Char :=
  ['%', Hex.upperDigit (octet.toNat / 16), Hex.upperDigit (octet.toNat % 16)]

def escapeChar (safe : Char → Bool) (c : Char) : List Char :=
  if safe c then [c] else (Utf8.encodeChar c).flatMap escapeOctet

def escape (safe : Char → Bool) (text : List Char) : List Char :=
  text.flatMap (escapeChar safe)

/-- Unescapes the rest of a text after octets that left the decoder in `state`. Any character outside
ASCII ends the run of octets. -/
def unescapeFrom (state : Utf8.State) : List Char → List Char
  | [] => Utf8.finish state
  | c :: rest =>
    if c.toNat < 0x80 then
      match c, rest with
      | '%', high :: low :: tail =>
        match Hex.digitValue? high, Hex.digitValue? low with
        | some h, some l =>
          let (chars, next) := Utf8.feed state (.ofNat (16 * h + l))
          chars ++ unescapeFrom next tail
        | _, _ =>
          let (chars, next) := Utf8.feed state (.ofNat c.toNat)
          chars ++ unescapeFrom next (high :: low :: tail)
      | c, rest =>
        let (chars, next) := Utf8.feed state (.ofNat c.toNat)
        chars ++ unescapeFrom next rest
    else Utf8.finish state ++ c :: unescapeFrom .ready rest

def unescape (text : List Char) : List Char :=
  unescapeFrom .ready text

/-- The escaped form of a text that is put whole into a URI reference. -/
def escapeUri (text : String) : String :=
  .ofList (escape safeInUri text.toList)

end SassBridge.Percent
