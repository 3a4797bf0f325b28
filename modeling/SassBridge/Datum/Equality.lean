import SassBridge.Datum.Basic

/-!
Equality of option values. A truth value is the number one or zero; dictionaries are equal whatever the order
of their keys.
-/

namespace SassBridge.Datum

/-- The number that a value is in comparisons. -/
def numeral? : Datum → Option Numeral
  | bool value => some (.int (if value then 1 else 0))
  | number value => some value
  | _ => none

mutual

def equal : Datum → Datum → Bool
  | null, null => true
  | bool a, b => (b.numeral?).any (Numeral.equal (.int (if a then 1 else 0)))
  | number a, b => (b.numeral?).any (Numeral.equal a)
  | text a, text b => a == b
  | octets a, octets b => a == b
  | path a, path b => a == b
  | list as, list bs => equalItems as bs
  | dict as, dict bs => as.length == bs.length && entriesIn as bs
  | host a, host b => a == b
  | _, _ => false

def equalItems : List Datum → List Datum → Bool
  | [], [] => true
  | a :: as, b :: bs => equal a b && equalItems as bs
  | _, _ => false

/-- Whether each entry has an equal one under its key in the other dictionary. -/
def entriesIn : List (String × Datum) → List (String × Datum) → Bool
  | [], _ => true
  | (key, a) :: rest, bs =>
    (match Assoc.find? (· == ·) key bs with
      | some b => equal a b
      | none => false) && entriesIn rest bs

end

theorem equal_list {as bs : List Datum} : equal (list as) (list bs) = equalItems as bs := by
  rw [equal]

theorem equal_dict {as bs : List (String × Datum)} :
    equal (dict as) (dict bs) = (as.length == bs.length && entriesIn as bs) := by
  rw [equal]

end SassBridge.Datum
