/-!
UTF-8. Encoding is total. Decoding accepts any octets: each maximal part of a sequence that cannot be
completed becomes one replacement character.
-/

namespace SassBridge.Utf8

/-- The octets of one character. -/
def encodeChar (c : Char) : List UInt8 :=
  let n := c.toNat
  if n < 0x80 then [.ofNat n]
  else if n < 0x800 then [.ofNat (0xC0 + n / 0x40), .ofNat (0x80 + n % 0x40)]
  else if n < 0x10000 then
    [.ofNat (0xE0 + n / 0x1000), .ofNat (0x80 + n / 0x40 % 0x40), .ofNat (0x80 + n % 0x40)]
  else
    [.ofNat (0xF0 + n / 0x40000), .ofNat (0x80 + n / 0x1000 % 0x40), .ofNat (0x80 + n / 0x40 % 0x40),
      .ofNat (0x80 + n % 0x40)]

def encode (text : List Char) : List UInt8 :=
  text.flatMap encodeChar

/-- The character that stands for octets that are no character. -/
def replacement : Char := '\uFFFD'

/-- What the decoder still expects. `low` and `high` bound the next octet only: they keep overlong forms
and surrogates out. -/
inductive State where
  | ready
  | expecting (missing : Nat) (low high : Nat) (value : Nat)
  deriving DecidableEq, Repr

/-- The state after a first octet, with the characters that it yields at once. -/
def begin (octet : UInt8) : List Char × State :=
  let b := octet.toNat
  if b < 0x80 then ([Char.ofNat b], .ready)
  else if b < 0xC2 then ([replacement], .ready)
  else if b < 0xE0 then ([], .expecting 1 0x80 0xBF (b - 0xC0))
  else if b < 0xF0 then
    ([], .expecting 2 (if b = 0xE0 then 0xA0 else 0x80) (if b = 0xED then 0x9F else 0xBF) (b - 0xE0))
  else if b < 0xF5 then
    ([], .expecting 3 (if b = 0xF0 then 0x90 else 0x80) (if b = 0xF4 then 0x8F else 0xBF) (b - 0xF0))
  else ([replacement], .ready)

/-- One octet. An octet that cannot continue the open sequence ends it and starts anew. -/
def feed (state : State) (octet : UInt8) : List Char × State :=
  match state with
  | .ready => begin octet
  | .expecting missing low high value =>
    let b := octet.toNat
    if low ≤ b ∧ b ≤ high then
      let value := value * 0x40 + (b - 0x80)
      if missing ≤ 1 then ([Char.ofNat value], .ready)
      else ([], .expecting (missing - 1) 0x80 0xBF value)
    else
      let (chars, next) := begin octet
      (replacement :: chars, next)

/-- What an end of input adds: an open sequence is one replacement character. -/
def finish : State → List Char
  | .ready => []
  | .expecting .. => [replacement]

def decodeFrom (state : State) : List UInt8 → List Char
  | [] => finish state
  | octet :: rest =>
    let (chars, next) := feed state octet
    chars ++ decodeFrom next rest

def decode (octets : List UInt8) : List Char :=
  decodeFrom .ready octets

end SassBridge.Utf8
