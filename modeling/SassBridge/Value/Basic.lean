import SassBridge.Datum.Basic
import SassBridge.Failure

/-!
Script values of both families, which may be nested inside one another, and objects that are no script
values. Lists and maps hold values; everything else is an atom.
-/

namespace SassBridge

/-- The channels of a color, in one of two spaces. -/
inductive Channels where
  | rgb (red green blue : Numeral)
  | hsl (hue saturation lightness : Numeral)
  deriving DecidableEq, Repr

structure Color where
  channels : Channels
  alpha : Numeral
  deriving DecidableEq, Repr

structure Number where
  value : Numeral
  numerators : List String
  denominators : List String
  deriving DecidableEq, Repr

/-- Values that hold no others. Strings differ between the families: legacy ones name their type, those of the
compiler are quoted or not. -/
inductive Atom where
  | null (side : Side)
  | bool (side : Side) (value : Bool)
  | color (side : Side) (value : Color)
  | number (side : Side) (value : Number)
  | legacyString (text type : String)
  | compilerString (text : String) (quoted : Bool)
  | foreign (typeName : String)
  deriving DecidableEq, Repr

/-- Keys of a map are pairwise unequal and stand in the order of insertion. -/
inductive Value where
  | atom (value : Atom)
  | list (side : Side) (elements : List Value) (separator : Option String) (bracketed : Datum)
  | map (side : Side) (entries : List (Value × Value))
  deriving Repr

namespace Color

def isRgb (color : Color) : Bool :=
  match color.channels with
  | .rgb .. => true
  | .hsl .. => false

/-- Exactly one space has to be given, and all of it. -/
def ofChannels (side : Side) (red green blue hue saturation lightness : Option Numeral) (alpha : Numeral) :
    Except Failure Color :=
  match red, green, blue, hue, saturation, lightness with
  | some r, some g, some b, none, none, none => .ok ⟨.rgb r g b, alpha⟩
  | none, none, none, some h, some s, some l => .ok ⟨.hsl h s l, alpha⟩
  | _, _, _, _, _, _ => .error (.colorChannels side)

/-- A color of the compiler has an alpha between zero and one. -/
def checkAlpha (color : Color) : Except Failure Color :=
  if color.alpha.inUnitInterval then .ok color else .error (.alphaRange color.alpha)

end Color

def Number.isUnitless (number : Number) : Bool :=
  number.numerators.isEmpty && number.denominators.isEmpty

namespace Value

/-- The null of the legacy interface. -/
def null : Value := .atom (.null .legacy)

/-- The types of legacy strings that have a meaning. -/
def stringType : String := "string"

def identifierType : String := "identifier"

/-- The name that the type of a value has in messages. -/
def typeName : Value → String
  | atom (.null .legacy) => "NoneType"
  | atom (.null .compiler) => "SassNull"
  | atom (.bool .legacy _) => "Bool"
  | atom (.bool .compiler _) => "SassBoolean"
  | atom (.color .legacy _) => "Color"
  | atom (.color .compiler _) => "SassColor"
  | atom (.number .legacy _) => "Number"
  | atom (.number .compiler _) => "SassNumber"
  | atom (.legacyString _ _) => "String"
  | atom (.compilerString _ _) => "SassString"
  | atom (.foreign typeName) => typeName
  | list .legacy _ _ _ => "List"
  | list .compiler _ _ _ => "SassList"
  | map .legacy _ => "Map"
  | map .compiler _ => "SassMap"

end Value

end SassBridge
