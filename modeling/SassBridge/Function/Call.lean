import SassBridge.Function.Signature

/-!
Instances of function sets and calls of their members. An instance is set up with options; every name is then
looked up on the instance, functions and other members alike.
-/

namespace SassBridge

/-- What cannot be called. -/
def Attribute.uncallable {σ : Type} (name : String) : Attribute σ := fun arguments receiver =>
  (.error (.refused (.call name arguments.length)), receiver)

namespace Member

variable {σ : Type}

/-- What a member is given in a call: a method gets the object before the arguments. -/
def given (member : Member σ) (object : Value) (arguments : List Value) : List Value :=
  match member with
  | method _ _ => object :: arguments
  | _ => arguments

/-- Calls by name what a member gives for an object. A property gives the value of its body, which cannot be
called. -/
def call (member : Member σ) (object : Value) (name : String) : Attribute σ := fun arguments receiver =>
  match member with
  | method parameters body | static parameters body | classMethod parameters body =>
    match Parameter.bind? parameters (member.given object arguments) with
    | some bound => body bound receiver
    | none => Attribute.uncallable name arguments receiver
  | property body =>
    match body [] receiver with
    | (.ok _, receiver) => Attribute.uncallable name arguments receiver
    | (.error failure, receiver) => (.error failure, receiver)
  | constant => Attribute.uncallable name arguments receiver

end Member

namespace FunctionSet

variable {σ : Type}

/-- The name under which an instance keeps its options. -/
def optionsName : String := "options"

/-- An instance, where it is handed on as a value. -/
def object (set : FunctionSet σ) : Value :=
  .atom (.foreign set.className)

/-- An instance made from at most one argument, which becomes its options. A set can replace the function that
does this; such an instance keeps no options, and the function must give null. -/
def construct (set : FunctionSet σ) (arguments : List Value) (options : Bag) :
    Except Failure (Receiver σ) :=
  match set.nearest? Inherited.setupName with
  | some definition =>
    match definition.call set.object Inherited.setupName arguments ⟨none, set.initial⟩ with
    | (.ok (.atom (.null .legacy)), receiver) => .ok receiver
    | (.ok _, _) => .error .wrongType
    | (.error failure, _) => .error failure
  | none =>
    if 1 < arguments.length then .error (.refused (.call Inherited.setupName arguments.length))
    else
      match set.nearest? optionsName with
      | some (.property _) => .error .noAttribute
      | _ => .ok ⟨some options, set.initial⟩

/-- The instance for one render. -/
def instantiate (set : FunctionSet σ) (options : Bag) : Except Failure (Receiver σ) :=
  set.construct [.atom (.foreign "dict")] options

/-- Calls a name that no layer defines. -/
def callInherited (set : FunctionSet σ) (name : String) (arguments : List Value) : Except Failure Value := do
  if name = Inherited.classProperty then
    let _ ← set.construct arguments []
    return .atom (.foreign set.className)
  else
    match Inherited.find? name with
    | some member => member.call name arguments
    | none => throw .noAttribute

/-- What an instance holds under a name. It hides what the layers define. -/
def attribute? (set : FunctionSet σ) (name : String) (receiver : Receiver σ) : Option (Attribute σ) :=
  (set.own? name receiver).or
    (if name = optionsName ∧ receiver.options.isSome then some (Attribute.uncallable name) else none)

/-- Calls a name of an instance. -/
def invoke (set : FunctionSet σ) (name : String) : Attribute σ := fun arguments receiver =>
  match set.attribute? name receiver with
  | some own => own arguments receiver
  | none =>
    match set.nearest? name with
    | some definition => definition.call set.object name arguments receiver
    | none => (set.callInherited name arguments, receiver)

end FunctionSet

end SassBridge
