import SassBridge.Number.Decimal

/-! Numbers of scripts and options: an integer of any size or a double, compared by exact value. -/

namespace SassBridge

inductive Numeral where
  | int (value : Int)
  | float (value : Binary64)
  deriving DecidableEq, Repr

instance : Inhabited Numeral := ⟨.int 0⟩

namespace Numeral

/-- The exact value in units of `2 ^ -1074`; infinities and NaN have none. -/
def scaled? : Numeral → Option Int
  | int value => some (value * Binary64.unitsPerOne)
  | float value => value.scaled?

/-- Equality of numbers that stand among other parts of a value, as all do. It is that of exact values: an integer
equals a double of the same value, and the two zeros are equal. A NaN equals nothing but the object that it is. -/
def equal (a b : Numeral) : Bool :=
  match a, b with
  | float (.infinite s), float (.infinite t) => s == t
  | float (.nan s), float (.nan t) => s == t
  | _, _ =>
    match a.scaled?, b.scaled? with
    | some x, some y => x == y
    | _, _ => false

/-- Whether the value lies in the closed unit interval. -/
def inUnitInterval (a : Numeral) : Bool :=
  match a.scaled? with
  | some x => 0 ≤ x && x ≤ Binary64.unitsPerOne
  | none => false

def isZero : Numeral → Bool
  | int value => value == 0
  | float value => value.isZero

def toChars : Numeral → List Char
  | int value => (if value < 0 then ['-'] else []) ++ Binary64.naturalDigits value.natAbs
  | float value => value.toChars

def toText (a : Numeral) : String :=
  .ofList a.toChars

end Numeral

end SassBridge
