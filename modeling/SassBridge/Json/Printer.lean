import SassBridge.Json.Basic
import SassBridge.Text.Hex

/-! Text of JSON documents: either compact with all characters as they are, or spaced in ASCII. -/

namespace SassBridge.Json

/-- What two written forms differ in. -/
structure Form where
  comma : Wide
  colon : Wide
  ascii : Bool

/-- No blanks, and no escapes that are not needed. -/
def Form.compact : Form := ⟨[','], [':'], false⟩

/-- A blank after each comma and colon, and escapes for all that is not printable ASCII. -/
def Form.spaced : Form := ⟨[',', ' '], [':', ' '], true⟩

def escapeUnit (unit : Nat) : List Char :=
  '\\' :: 'u' :: Hex.lower 4 unit

/-- A code point beyond the basic plane is escaped as two surrogates. -/
def escapeCode (n : Nat) : List Char :=
  if n < 0x10000 then escapeUnit n
  else escapeUnit (0xD800 + (n - 0x10000) / 0x400) ++ escapeUnit (0xDC00 + (n - 0x10000) % 0x400)

def charText (ascii : Bool) (c : Char) : List Char :=
  if c = '"' ∨ c = '\\' then ['\\', c]
  else if c = '\n' then ['\\', 'n']
  else if c = '\r' then ['\\', 'r']
  else if c = '\t' then ['\\', 't']
  else if c = '\x08' then ['\\', 'b']
  else if c = '\x0c' then ['\\', 'f']
  else if c.toNat < 0x20 ∨ (ascii ∧ 0x7E < c.toNat) then escapeCode c.toNat
  else [c]

/-- A surrogate stands as it is, or is escaped like the half of a character. -/
def codeText (ascii : Bool) : CodePoint → Wide
  | .char c => .ofChars (charText ascii c)
  | .surrogate place => if ascii then .ofChars (escapeUnit (0xD800 + place)) else [.surrogate place]

def stringText (ascii : Bool) (text : Wide) : Wide :=
  .char '"' :: text.flatMap (codeText ascii) ++ [.char '"']

/-- Infinities and NaN are written by name. -/
def numberChars : Numeral → List Char
  | .float (.nan _) => "NaN".toList
  | .float (.infinite false) => "Infinity".toList
  | .float (.infinite true) => "-Infinity".toList
  | value => value.toChars

mutual

/-- The text of a document. -/
def print (form : Form) : Json → Wide
  | null => "null"
  | bool true => "true"
  | bool false => "false"
  | number value => .ofChars (numberChars value)
  | string value => stringText form.ascii value
  | array items => .char '[' :: form.comma.intercalate (itemTexts form items) ++ [.char ']']
  | object entries => .char '\x7b' :: form.comma.intercalate (entryTexts form entries) ++ [.char '\x7d']

def itemTexts (form : Form) : List Json → List Wide
  | [] => []
  | item :: rest => print form item :: itemTexts form rest

def entryTexts (form : Form) : List (Wide × Json) → List Wide
  | [] => []
  | (key, value) :: rest =>
    (stringText form.ascii key ++ form.colon ++ print form value) :: entryTexts form rest

end

/-- The text of a document in ASCII, where all are characters. -/
def printAscii (document : Json) : String :=
  .ofList (print .spaced document).leading

/-- A text as a quoted string in ASCII. -/
def quoteAscii (text : String) : String :=
  .ofList ('"' :: text.toList.flatMap (charText true) ++ ['"'])

end SassBridge.Json
