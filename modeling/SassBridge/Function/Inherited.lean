import SassBridge.Function.Parameter

/-!
Members that a function set has without defining them. Its instances have those of all objects; the set itself,
which is an object too, has more.
-/

namespace SassBridge

inductive Inherited where
  /-- What a call with arguments that fit gives, unless script values never fit. -/
  | function (parameters : List Parameter) (result? : Option Value)
  /-- Cannot be called. -/
  | plain

namespace Inherited

/-- The name of the function that sets up an instance. -/
def setupName : String := "__init__"

/-- The name of the function that looks up the names of an instance. -/
def lookupName : String := "__getattribute__"

/-- The name of the set, seen from an instance. The set of a set is the type of all types. -/
def classProperty : String := "__class__"

/-- A function that gives an object of a type. -/
def gives (typeName : String) : Inherited :=
  function [] (some (.atom (.foreign typeName)))

/-- A comparison, which has no answer for script values. -/
def comparison : Inherited :=
  function [.positional "value" none] (some (.atom (.foreign "NotImplementedType")))

/-- A function of the given parameters that takes no script values. -/
def refuses (parameters : List String) : Inherited :=
  function (parameters.map fun name => .positional name none) none

/-- The members of all instances, but for `__class__`. -/
def ofInstances : List (String × Inherited) :=
  [(setupName, function [.positional "options" (some .null)] (some .null)),
    ("__init_subclass__", function [] (some .null)),
    ("__subclasshook__", function [.rest "args"] (some (.atom (.foreign "NotImplementedType")))),
    ("__eq__", comparison), ("__ne__", comparison), ("__lt__", comparison), ("__le__", comparison),
    ("__gt__", comparison), ("__ge__", comparison),
    ("__repr__", gives "str"), ("__str__", gives "str"), ("__hash__", gives "int"), ("__sizeof__", gives "int"),
    ("__dir__", gives "list"), ("__reduce__", gives "tuple"), ("__getstate__", gives "dict"),
    (lookupName, refuses ["name"]), ("__delattr__", refuses ["name"]),
    ("__setattr__", refuses ["name", "value"]), ("__format__", refuses ["format_spec"]),
    ("__reduce_ex__", refuses ["protocol"]), ("__new__", refuses []),
    ("__doc__", plain), ("__dict__", plain), ("__module__", plain), ("__weakref__", plain)]

/-- The members that a set has and its instances do not. -/
def ofSets : List (String × Inherited) :=
  [("__base__", refuses []), ("__call__", refuses []), ("__instancecheck__", refuses []),
    ("__subclasscheck__", refuses []), ("__subclasses__", refuses []), ("__or__", refuses []),
    ("__ror__", refuses []), ("mro", refuses []),
    ("__annotations__", plain), ("__bases__", plain), ("__basicsize__", plain), ("__dictoffset__", plain),
    ("__flags__", plain), ("__itemsize__", plain), ("__mro__", plain), ("__name__", plain),
    ("__qualname__", plain), ("__text_signature__", plain), ("__weakrefoffset__", plain)]

/-- A member that instances have. -/
def find? (name : String) : Option Inherited :=
  Assoc.find? (· == ·) name ofInstances

/-- A member that the set itself has. -/
def findInSet? (name : String) : Option Inherited :=
  Assoc.find? (· == ·) name (ofInstances ++ ofSets)

/-- Calls a member by its name, with script values. -/
def call (member : Inherited) (name : String) (arguments : List Value) : Except Failure Value :=
  match member with
  | function parameters result? =>
    match Parameter.bind? parameters arguments, result? with
    | some _, some result => .ok result
    | _, _ => .error (.refused (.call name arguments.length))
  | plain => .error (.refused (.call name arguments.length))

end Inherited

end SassBridge
