import SassBridge.Text.Hex
import SassBridge.Text.Printable

/-!
Display forms of text and of octets: quoted, with everything escaped that would not show. The quote is
single unless the text holds single quotes and no double ones.
-/

namespace SassBridge.Quoted

/-- The quote that needs no escape, if there is one. -/
def quoteFor (text : List Char) : Char :=
  if '\'' ∈ text ∧ '"' ∉ text then '"' else '\''

/-- The escapes that text and octets share. -/
def commonEscape? (quote c : Char) : Option (List Char) :=
  if c = quote ∨ c = '\\' then some ['\\', c]
  else if c = '\n' then some ['\\', 'n']
  else if c = '\r' then some ['\\', 'r']
  else if c = '\t' then some ['\\', 't']
  else none

/-- A numeric escape of the width that the code point needs. -/
def numericEscape (n : Nat) : List Char :=
  if n < 0x100 then '\\' :: 'x' :: Hex.lower 2 n
  else if n < 0x10000 then '\\' :: 'u' :: Hex.lower 4 n
  else '\\' :: 'U' :: Hex.lower 8 n

def displayChar (quote c : Char) : List Char :=
  (commonEscape? quote c).getD (if Printable.isPrintable c then [c] else numericEscape c.toNat)

def displayChars (text : List Char) : List Char :=
  let quote := quoteFor text
  quote :: text.flatMap (displayChar quote) ++ [quote]

/-- The display form of a text. -/
def display (text : String) : String :=
  .ofList (displayChars text.toList)

/-- An octet is shown as its ASCII character where that is printable. -/
def displayOctet (quote : Char) (octet : UInt8) : List Char :=
  let c := Char.ofNat octet.toNat
  (commonEscape? quote c).getD
    (if 0x20 ≤ octet.toNat ∧ octet.toNat < 0x7F then [c] else numericEscape octet.toNat)

/-- The display form of octets, marked by a leading `b`. -/
def displayOctets (octets : List UInt8) : String :=
  let quote := quoteFor (octets.map fun octet => Char.ofNat octet.toNat)
  .ofList ('b' :: quote :: octets.flatMap (displayOctet quote) ++ [quote])

end SassBridge.Quoted
