import SassBridge.Datum.Equality
import SassBridge.Value.Basic

/-!
Equality of script values: the same class and equal contents. Maps are equal as lists of entries, units are
ordered, and numbers compare by exact value.
-/

namespace SassBridge

namespace Channels

def equal : Channels → Channels → Bool
  | rgb r g b, rgb r' g' b' => r.equal r' && g.equal g' && b.equal b'
  | hsl h s l, hsl h' s' l' => h.equal h' && s.equal s' && l.equal l'
  | _, _ => false

end Channels

def Color.equal (a b : Color) : Bool :=
  a.channels.equal b.channels && a.alpha.equal b.alpha

def Number.equal (a b : Number) : Bool :=
  a.value.equal b.value && a.numerators == b.numerators && a.denominators == b.denominators

/-- The class of the compiler's values by itself. Its objects are equal to nothing but themselves, and no two
values share one. -/
def Atom.bareClass : String := "SassValue"

def Atom.equal : Atom → Atom → Bool
  | .null s, .null t => s == t
  | .bool s a, .bool t b => s == t && a == b
  | .color s a, .color t b => s == t && a.equal b
  | .number s a, .number t b => s == t && a.equal b
  | .legacyString a s, .legacyString b t => a == b && s == t
  | .compilerString a s, .compilerString b t => a == b && s == t
  | .foreign a, .foreign b => a == b && a != bareClass
  | _, _ => false

namespace Value

mutual

/-- The equality of scripts and of map keys. -/
def equal : Value → Value → Bool
  | atom a, atom b => a.equal b
  | list s as sep bracketed, list t bs sep' bracketed' =>
    s == t && equalElements as bs && sep == sep' && bracketed.equal bracketed'
  | map s as, map t bs => s == t && equalEntries as bs
  | _, _ => false

def equalElements : List Value → List Value → Bool
  | [], [] => true
  | a :: as, b :: bs => equal a b && equalElements as bs
  | _, _ => false

def equalEntries : List (Value × Value) → List (Value × Value) → Bool
  | [], [] => true
  | (key, a) :: as, (key', b) :: bs =>
    equal key key' && equal a b && equalEntries as bs
  | _, _ => false

end

theorem equal_atom_iff {a b : Atom} : (atom a).equal (atom b) = true ↔ a.equal b = true := by
  rw [equal]

end Value

end SassBridge
