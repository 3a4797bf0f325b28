import SassBridge.Function.Parameter
import SassBridge.Receiver

/-!
Sets of custom functions. A set is a chain of layers in which a nearer definition of a name hides all others.
The functions of a set are the public names whose nearest definition is a method or a static method. An instance
of the set may hold something else under the name of a function.
-/

namespace SassBridge

/-- What a member does with bound parameters and the object that it belongs to. -/
abbrev Body (σ : Type) := List Bound → Receiver σ → Except Failure Value × Receiver σ

/-- What a name of an object gives, by what calls of it do. -/
abbrev Attribute (σ : Type) := List Value → Receiver σ → Except Failure Value × Receiver σ

inductive Member (σ : Type) where
  /-- The object comes before the arguments of a call, so that the first parameter is there for the object. -/
  | method (parameters : List Parameter) (body : Body σ)
  | static (parameters : List Parameter) (body : Body σ)
  /-- Its parameters do not include the set. -/
  | classMethod (parameters : List Parameter) (body : Body σ)
  | property (body : Body σ)
  /-- A plain value. -/
  | constant

/-- One layer of definitions by name. -/
abbrev Layer (σ : Type) := List (String × Member σ)

/-- Definitions, those of the nearest layer first, and the instances. -/
structure FunctionSet (σ : Type) where
  className : String
  /-- The state of a new instance. -/
  initial : σ
  layers : List (Layer σ)
  /-- What an instance gives under a name in place of what the layers define: an attribute that it holds beside its
  options, or what it finds where it looks names up in a way of its own. -/
  own? : String → Receiver σ → Option (Attribute σ)

namespace Member

variable {σ : Type}

/-- Whether a member is a function in its own right. -/
def isFunction : Member σ → Bool
  | method _ _ | static _ _ => true
  | classMethod _ _ | property _ | constant => false

end Member

namespace FunctionSet

variable {σ : Type}

/-- The nearest definition of a name. -/
def nearest? (set : FunctionSet σ) (name : String) : Option (Member σ) :=
  set.layers.findSome? (Assoc.find? (· == ·) name)

def isPublic (name : String) : Bool :=
  !Text.startsWith "_" name

/-- Whether a name is that of a custom function. -/
def lists (set : FunctionSet σ) (name : String) : Bool :=
  isPublic name && (set.nearest? name).any Member.isFunction

/-- The names of the custom functions, in order of code points. -/
def names (set : FunctionSet σ) : List String :=
  let defined := set.layers.flatMap (·.map Prod.fst)
  (defined.filter set.lists).eraseDups.mergeSort (fun a b => decide (a ≤ b))

end FunctionSet

end SassBridge
