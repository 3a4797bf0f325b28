import SassBridge.Number.Binary64

/-!
Decimal text of double precision numbers. The written form has the fewest digits that read back as the
number and, of these, the digits nearest to it. It is positional for decimal exponents from -4 to 15.
-/

namespace SassBridge.Binary64

/-- The digits of a natural number. -/
def naturalDigits (n : Nat) : List Char :=
  Nat.toDigits 10 n

/-- The number that digits denote. -/
def ofDigits (digits : List Char) : Nat :=
  digits.foldl (fun n c => 10 * n + (c.toNat - 0x30)) 0

/-- A decimal: `digits * 10 ^ power`. -/
structure Decimal where
  digits : Nat
  power : Int
  deriving DecidableEq, Repr

/-- Whether a decimal reads back as the positive number given. -/
def readsAs (significand exponent : Nat) (decimal : Decimal) : Bool :=
  ofDecimal false decimal.digits decimal.power == .finite false significand exponent

/-- The exact decimal of a positive number: its value times `10 ^ 1074` is an integer. -/
def exactDecimal (significand exponent : Nat) : Decimal :=
  ⟨magnitude significand exponent * Nat.pow 5 scale, -scale⟩

/-- The decimals with `count` digits next to an exact one, the nearer one first and of a tie the even one. -/
def neighbours (exact : Decimal) (count : Nat) : List Decimal :=
  let cut := (naturalDigits exact.digits).length - count
  let unit := Nat.pow 10 cut
  let below := exact.digits / unit
  let twice := 2 * (exact.digits % unit)
  let lower : Decimal := ⟨below, exact.power + cut⟩
  let upper : Decimal := ⟨below + 1, exact.power + cut⟩
  if twice = 0 then [lower]
  else if twice < unit ∨ (twice = unit ∧ below % 2 = 0) then [lower, upper]
  else [upper, lower]

/-- The shortest decimal that reads back as a positive number. Seventeen digits always do. -/
def shortest (significand exponent : Nat) : Decimal :=
  let exact := exactDecimal significand exponent
  ((List.range 17).findSome? fun count =>
    (neighbours exact (count + 1)).find? (readsAs significand exponent)).getD exact

/-- The digits without the zeros at their end, and the place of the decimal point: the value is
`0.digits * 10 ^ point`. -/
def normalDigits (decimal : Decimal) : List Char × Int :=
  let digits := naturalDigits decimal.digits
  ((digits.reverse.dropWhile (· = '0')).reverse, decimal.power + digits.length)

/-- The exponent part: a sign and at least two digits. -/
def exponentText (exponent : Int) : List Char :=
  let digits := naturalDigits exponent.natAbs
  'e' :: (if exponent < 0 then '-' else '+') :: (if digits.length < 2 then '0' :: digits else digits)

/-- Lays digits out around a decimal point. -/
def layout (digits : List Char) (point : Int) : List Char :=
  if -4 < point ∧ point ≤ 16 then
    if point ≤ 0 then '0' :: '.' :: List.replicate (-point).toNat '0' ++ digits
    else
      let whole := digits.take point.toNat
      let whole := whole ++ List.replicate (point.toNat - whole.length) '0'
      let rest := digits.drop point.toNat
      whole ++ '.' :: (if rest.isEmpty then ['0'] else rest)
  else
    let fraction := digits.drop 1
    digits.take 1 ++ (if fraction.isEmpty then [] else '.' :: fraction) ++ exponentText (point - 1)

/-- The text of a number without its sign. -/
def magnitudeText (significand exponent : Nat) : List Char :=
  if significand = 0 then ['0', '.', '0']
  else
    let (digits, point) := normalDigits (shortest significand exponent)
    layout digits point

def toChars : Binary64 → List Char
  | nan _ => "nan".toList
  | infinite false => "inf".toList
  | infinite true => "-inf".toList
  | finite false significand exponent => magnitudeText significand exponent
  | finite true significand exponent => '-' :: magnitudeText significand exponent

def toText (number : Binary64) : String :=
  .ofList number.toChars

/-- The longest run of decimal digits at the start, and what follows it. -/
def spanDigits (text : List Char) : List Char × List Char :=
  (text.takeWhile Char.isDigit, text.dropWhile Char.isDigit)

/-- A fraction after a point, which needs a digit. -/
def readFraction (text : List Char) : List Char × List Char :=
  match text with
  | '.' :: rest =>
    match spanDigits rest with
    | ([], _) => ([], text)
    | found => found
  | _ => ([], text)

/-- An exponent after `e`, which needs a digit. -/
def readExponent (text : List Char) : Option Int × List Char :=
  match text with
  | c :: rest =>
    if c = 'e' ∨ c = 'E' then
      let (negative, rest) :=
        match rest with
        | '-' :: tail => (true, tail)
        | '+' :: tail => (false, tail)
        | _ => (false, rest)
      match spanDigits rest with
      | ([], _) => (none, text)
      | (digits, tail) =>
        let n : Int := ofDigits digits
        (some (if negative then -n else n), tail)
    else (none, text)
  | [] => (none, text)

/-- The number nearest to a decimal numeral given by its parts. -/
def ofParts (negative : Bool) (whole fraction : List Char) (exponent : Option Int) : Binary64 :=
  ofDecimal negative (ofDigits (whole ++ fraction)) (exponent.getD 0 - fraction.length)

/-- Reads a number from the whole of a text, in the forms that are written. -/
def ofChars? (text : List Char) : Option Binary64 :=
  let (negative, rest) :=
    match text with
    | '-' :: rest => (true, rest)
    | _ => (false, text)
  if rest = "nan".toList then some readNaN
  else if rest = "inf".toList then some (.infinite negative)
  else
    let (whole, rest) := spanDigits rest
    let (fraction, rest) := readFraction rest
    let (exponent, rest) := readExponent rest
    if whole.isEmpty ∨ !rest.isEmpty then none else some (ofParts negative whole fraction exponent)

end SassBridge.Binary64
