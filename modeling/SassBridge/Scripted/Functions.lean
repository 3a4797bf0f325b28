import SassBridge.Datum.Display
import SassBridge.Function.Call
import SassBridge.Value.Entries

/-!
Custom functions that follow a script. An instance counts; everything else is decided by the arguments and the
options.
-/

namespace SassBridge.Scripted

/-- What a function does. A constant may turn out not to be a value when it is asked for. -/
inductive Action where
  | argument (index : Nat)
  /-- Gives all parameters by name. -/
  | bindings
  | constant (value : Except Failure Value)
  | option (name : String)
  | setOption (name : String) (value : Datum)
  | count
  | raise (failure : Failure)

/-- The value of a bound parameter by itself. -/
def boundValue : Bound → Value
  | .value value => value
  | .rest _ => .atom (.foreign "tuple")
  | .keywords => .atom (.foreign "dict")

/-- A bound parameter as an entry of a map; left-over keywords have none. -/
def boundEntry? (name : String) : Bound → Option (Value × Value)
  | .value value => some (.atom (.legacyString name Value.identifierType), value)
  | .rest values =>
    some (.atom (.legacyString name Value.identifierType), .list .legacy values (some "comma") (.bool false))
  | .keywords => none

def bindingMap (parameters : List Parameter) (bound : List Bound) : Value :=
  let entries := (parameters.zip bound).filterMap fun (parameter, bound) => boundEntry? parameter.name bound
  .map .legacy (Value.entriesOf entries)

/-- The body of a method. -/
def methodBody (parameters : List Parameter) (action : Action) : Body Nat := fun bound receiver =>
  match action with
  | .argument index => (.ok ((bound[index]?.map boundValue).getD .null), receiver)
  | .bindings => (.ok (bindingMap parameters bound), receiver)
  | .constant value => (value, receiver)
  | .option name =>
    match receiver.options with
    | none => (.error .noAttribute, receiver)
    | some options =>
      match options.get? name with
      | some value => (.ok (.atom (.legacyString value.toText Value.stringType)), receiver)
      | none => (.error (.unknownKey name), receiver)
  | .setOption name value =>
    match receiver.options with
    | none => (.error .noAttribute, receiver)
    | some options => (.ok .null, { receiver with options := some (options.set name value) })
  | .count =>
    let count := receiver.state + 1
    (.ok (.atom (.number .legacy ⟨.int count, [], []⟩)), { receiver with state := count })
  | .raise failure => (.error failure, receiver)

/-- The body of a function that has no object to look at. -/
def detachedBody (parameters : List Parameter) (action : Action) : Body Nat := fun bound receiver =>
  match action with
  | .option _ | .setOption _ _ | .count => (.error .noAttribute, receiver)
  | action => methodBody parameters action bound receiver

/-- A method with a parameter for the object before the others. -/
def method (parameters : List Parameter) (action : Action) : Member Nat :=
  .method (.positional "self" none :: parameters) fun bound => methodBody parameters action bound.tail

def static (parameters : List Parameter) (action : Action) : Member Nat :=
  .static parameters (detachedBody parameters action)

def classMethod (parameters : List Parameter) (action : Action) : Member Nat :=
  .classMethod parameters (detachedBody parameters action)

def property (action : Action) : Member Nat :=
  .property (methodBody [] action)

/-- What an instance gives under every name if a function of the set looks them up. It cannot be called, whatever it
is. -/
def lookedUp? (className : String) (layers : List (Layer Nat)) (name : String) : Option (Attribute Nat) :=
  (layers.findSome? (Assoc.find? (· == ·) Inherited.lookupName)).map fun definition arguments receiver =>
    match definition.call (.atom (.foreign className)) Inherited.lookupName [.atom (.foreign "str")] receiver with
    | (.ok _, receiver) => Attribute.uncallable name arguments receiver
    | (.error failure, receiver) => (.error failure, receiver)

/-- A set of scripted members, the nearest layer first. -/
def functionSet (className : String) (layers : List (Layer Nat)) : FunctionSet Nat :=
  ⟨className, 0, layers, fun name _ => lookedUp? className layers name⟩

end SassBridge.Scripted
