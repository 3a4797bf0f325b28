import SassBridge.Json.Basic
import SassBridge.Text.Hex

/-!
Reading JSON text. Beside the standard grammar the names of infinity and NaN are numbers. Of equal keys the
first keeps its place and the last its value.
-/

namespace SassBridge.Json

def isBlank : CodePoint → Bool
  | .char c => c = ' ' || c = '\t' || c = '\n' || c = '\r'
  | .surrogate _ => false

def skipBlank (text : Wide) : Wide :=
  text.dropWhile isBlank

def digit? (code : CodePoint) : Option Nat :=
  code.char?.bind Hex.digitValue?

/-- The number that four hexadecimal digits write. -/
def unit? (a b c d : CodePoint) : Option Nat := do
  let n := ((← digit? a) * 16 + (← digit? b)) * 16 + (← digit? c)
  return n * 16 + (← digit? d)

/-- The character of a one-letter escape. -/
def plainEscape? (c : Char) : Option Char :=
  if c = '"' ∨ c = '\\' ∨ c = '/' then some c
  else if c = 'b' then some '\x08'
  else if c = 'f' then some '\x0c'
  else if c = 'n' then some '\n'
  else if c = 'r' then some '\r'
  else if c = 't' then some '\t'
  else none

/-- Whether a code point has to be escaped in a string as a control. -/
def isControl : CodePoint → Bool
  | .char c => c.toNat < 0x20
  | .surrogate _ => false

/-- A part of a string: a code point, or the number that an escape gives. -/
inductive Piece where
  | plain (code : CodePoint)
  | escaped (unit : Nat)

/-- The pieces of a string after its opening quote. -/
def readPieces : Wide → Option (List Piece × Wide)
  | [] => none
  | .char '"' :: rest => some ([], rest)
  | .char '\\' :: .char 'u' :: a :: b :: c :: d :: rest => do
    let unit ← unit? a b c d
    let (pieces, rest) ← readPieces rest
    return (.escaped unit :: pieces, rest)
  | .char '\\' :: .char c :: rest => do
    let c ← plainEscape? c
    let (pieces, rest) ← readPieces rest
    return (.plain c :: pieces, rest)
  | code :: rest =>
    if code = .char '\\' ∨ isControl code then none
    else do
      let (pieces, rest) ← readPieces rest
      return (.plain code :: pieces, rest)

def isHighSurrogate (n : Nat) : Bool :=
  0xD800 ≤ n && n < 0xDC00

def isLowSurrogate (n : Nat) : Bool :=
  0xDC00 ≤ n && n < 0xE000

/-- The text of pieces: two escaped surrogates that belong together are one character. -/
def joinPieces : List Piece → Wide
  | [] => []
  | .escaped high :: .escaped low :: rest =>
    if isHighSurrogate high && isLowSurrogate low then
      .char (.ofNat (0x10000 + (high - 0xD800) * 0x400 + (low - 0xDC00))) :: joinPieces rest
    else .ofNat high :: joinPieces (.escaped low :: rest)
  | .escaped unit :: rest => .ofNat unit :: joinPieces rest
  | .plain code :: rest => code :: joinPieces rest

/-- The rest of a string after its opening quote. -/
def readString (text : Wide) : Option (Wide × Wide) :=
  (readPieces text).map fun (pieces, rest) => (joinPieces pieces, rest)

/-- The whole part of a number: a zero, or digits that start with none. -/
def readWhole (text : List Char) : Option (List Char × List Char) :=
  match text with
  | '0' :: rest => some (['0'], rest)
  | _ =>
    match Binary64.spanDigits text with
    | ([], _) => none
    | found => some found

/-- A number; with a fraction or an exponent it is a double. -/
def readNumber (text : List Char) : Option (Numeral × List Char) := do
  let (negative, rest) :=
    match text with
    | '-' :: rest => (true, rest)
    | _ => (false, text)
  let (whole, rest) ← readWhole rest
  let (fraction, rest) := Binary64.readFraction rest
  let (exponent, rest) := Binary64.readExponent rest
  if fraction.isEmpty ∧ exponent.isNone then
    let n : Int := Binary64.ofDigits whole
    return (.int (if negative then -n else n), rest)
  else return (.float (Binary64.ofParts negative whole fraction exponent), rest)

/-- A number, which ends before a surrogate at the latest. -/
def readNumeral (text : Wide) : Option (Json × Wide) :=
  (readNumber text.leading).map fun (n, rest) => (.number n, .ofChars rest ++ text.afterLeading)

/-- The values that are written as words. -/
def keywords : List (Wide × Json) :=
  [("null", .null), ("true", .bool true), ("false", .bool false), ("NaN", .number (.float .readNaN)),
    ("Infinity", .number (.float (.infinite false))), ("-Infinity", .number (.float (.infinite true)))]

def readKeyword (text : Wide) : Option (Json × Wide) :=
  keywords.findSome? fun (word, value) => (List.isPrefixOf? word text).map (value, ·)

mutual

/-- A value at the start of a text. -/
def readValue : (fuel : Nat) → Wide → Option (Json × Wide)
  | 0, _ => none
  | fuel + 1, text =>
    match text with
    | .char '"' :: rest => (readString rest).map fun (value, rest) => (.string value, rest)
    | .char '[' :: rest =>
      match skipBlank rest with
      | .char ']' :: rest => some (.array [], rest)
      | rest => (readItems fuel rest).map fun (items, rest) => (.array items, rest)
    | .char '\x7b' :: rest =>
      match skipBlank rest with
      | .char '\x7d' :: rest => some (.object [], rest)
      | rest =>
        (readEntries fuel rest).map fun (entries, rest) =>
          (.object (Assoc.insertAll (· == ·) [] entries), rest)
    | _ => (readKeyword text).or (readNumeral text)

/-- The items of an array, at least one, and its closing bracket. -/
def readItems : (fuel : Nat) → Wide → Option (List Json × Wide)
  | 0, _ => none
  | fuel + 1, text => do
    let (item, rest) ← readValue fuel text
    match skipBlank rest with
    | .char ']' :: rest => return ([item], rest)
    | .char ',' :: rest =>
      let (items, rest) ← readItems fuel (skipBlank rest)
      return (item :: items, rest)
    | _ => none

/-- The entries of an object, at least one, and its closing brace. -/
def readEntries : (fuel : Nat) → Wide → Option (List (Wide × Json) × Wide)
  | 0, _ => none
  | fuel + 1, text =>
    match text with
    | .char '"' :: rest => do
      let (key, rest) ← readString rest
      match skipBlank rest with
      | .char ':' :: rest =>
        let (value, rest) ← readValue fuel (skipBlank rest)
        match skipBlank rest with
        | .char '\x7d' :: rest => return ([(key, value)], rest)
        | .char ',' :: rest =>
          let (entries, rest) ← readEntries fuel (skipBlank rest)
          return ((key, value) :: entries, rest)
        | _ => none
      | _ => none
    | _ => none

end

/-- The document that is the whole of a text, blanks around it apart. -/
def parse? (text : Wide) : Option Json :=
  match readValue (2 * text.length + 2) (skipBlank text) with
  | some (document, rest) => if (skipBlank rest).isEmpty then some document else none
  | none => none

end SassBridge.Json
