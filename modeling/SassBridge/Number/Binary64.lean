/-!
Double precision numbers, as the values that they are: a finite one is an integer multiple of the least
positive one. Rounding takes an exact quotient of natural numbers to the nearest, ties to even.
-/

namespace SassBridge

/-- A finite number is `± significand * 2 ^ exponent` in units of `2 ^ -1074`. NaN are told apart by the objects that
they are. -/
inductive Binary64 where
  | nan (object : Nat)
  | infinite (negative : Bool)
  | finite (negative : Bool) (significand exponent : Nat)
  deriving DecidableEq, Repr, Inhabited

namespace Binary64

/-- The NaN that texts are read as, which is always the same one. -/
def readNaN : Binary64 := .nan 0

/-- The exponent of the unit in which finite numbers are counted, without its sign. -/
def scale : Nat := 1074

-- Powers in definitions are `Nat.pow`: the instance behind `^` depends on what is imported.

/-- How many units make one. It is rewritten in proofs and never computed there. -/
@[irreducible]
def unitsPerOne : Nat := Nat.pow 2 scale

/-- One more than the greatest significand. -/
def significandBound : Nat := Nat.pow 2 53

/-- The exponent of the greatest finite numbers. -/
def maxExponent : Nat := 2045

/-- The magnitude of a finite number in units of `2 ^ -1074`. -/
def magnitude (significand exponent : Nat) : Nat :=
  significand * Nat.pow 2 exponent

/-- The quotient rounded to the nearest natural number, a tie to the even one. -/
def roundQuotient (numerator denominator : Nat) : Nat :=
  let quotient := numerator / denominator
  let twice := 2 * (numerator % denominator)
  if twice < denominator then quotient
  else if denominator < twice then quotient + 1
  else quotient + quotient % 2

/-- The number of a significand and an exponent, infinite where the exponent is beyond the range. -/
def saturate (negative : Bool) (significand exponent : Nat) : Binary64 :=
  if maxExponent < exponent then .infinite negative else .finite negative significand exponent

/-- The number of a significand that rounding may have made one too great. -/
def carry (negative : Bool) (significand exponent : Nat) : Binary64 :=
  if significand < significandBound then saturate negative significand exponent
  else saturate negative (significand / 2) (exponent + 1)

/-- The exponent of the unit to which a quotient is rounded. -/
def unitExponent (numerator denominator : Nat) : Nat :=
  Nat.log2 (numerator * unitsPerOne / denominator) - 52

/-- The number nearest to a quotient, which is infinite from half a unit above the greatest finite one. -/
def ofQuotient (negative : Bool) (numerator denominator : Nat) : Binary64 :=
  let exponent := unitExponent numerator denominator
  carry negative (roundQuotient (numerator * unitsPerOne) (denominator * Nat.pow 2 exponent)) exponent

/-- The number nearest to `digits * 10 ^ power`. Powers beyond the range of the format are not computed. -/
def ofDecimal (negative : Bool) (digits : Nat) (power : Int) : Binary64 :=
  if digits = 0 then .finite negative 0 0
  else
    let length := (Nat.log2 digits : Int)
    if 400 < power then .infinite negative
    else if power < -(400 + length) then .finite negative 0 0
    else if 0 ≤ power then ofQuotient negative (digits * Nat.pow 10 power.toNat) 1
    else ofQuotient negative digits (Nat.pow 10 (-power).toNat)

/-- The exact value of a finite number in units of `2 ^ -1074`. -/
def scaled? : Binary64 → Option Int
  | finite false significand exponent => some (magnitude significand exponent)
  | finite true significand exponent => some (-magnitude significand exponent)
  | _ => none

/-- The integer that the number is, if it is one. -/
def whole? (value : Binary64) : Option Int := do
  let scaled ← value.scaled?
  if scaled % unitsPerOne = 0 then some (scaled / unitsPerOne) else none

/-- Whether the number is a zero of either sign. -/
def isZero : Binary64 → Bool
  | finite _ significand _ => significand == 0
  | _ => false

end Binary64

end SassBridge
