import SassBridge.Failure

/-! Log records: an event with a level and named fields. -/

namespace SassBridge.Log

inductive Level where
  | debug
  | info
  | warning
  | error
  | critical
  deriving DecidableEq, Repr

namespace Level

/-- The weight by which levels are compared. -/
def weight : Level → Nat
  | debug => 10
  | info => 20
  | warning => 30
  | error => 40
  | critical => 50

def name : Level → String
  | debug => "debug"
  | info => "info"
  | warning => "warning"
  | error => "error"
  | critical => "critical"

/-- The level of a name; three levels have a second one. -/
def ofName? : String → Option Level
  | "debug" => some debug
  | "info" => some info
  | "warning" | "warn" => some warning
  | "error" | "exception" => some error
  | "critical" | "fatal" => some critical
  | _ => none

end Level

structure Record where
  level : Level
  event : Datum
  fields : List (String × Datum)
  /-- Whether the record is to tell of the failure in flight. -/
  tellsFailure : Bool
  deriving Repr

namespace Record

/-- Names that a field cannot have, because each record has them already. -/
def reservedNames : List String :=
  ["event", "self", "method_name"]

/-- The level name of records that tell of the failure in flight. -/
def failureName : String := "exception"

/-- Why there is no record with a name that is not that of a level. The name `log` asks for the level of a number,
which is looked for in the place of the event. -/
def unknownLevel (name : String) (event : Datum) : Failure :=
  match name, event with
  | "log", .text key => .unknownKey key
  | _, _ => .noAttribute

/-- A record, given the name of its level. -/
def make (level : String) (event : Datum) (fields : List (String × Datum)) : Except Failure Record :=
  match Level.ofName? level with
  | none => .error (unknownLevel level event)
  | some known =>
    if fields.any fun (name, _) => name ∈ reservedNames then .error .wrongType
    else .ok ⟨known, event, fields, level == failureName⟩

/-- The fields of a record, followed by its event unless that is null, and by its level. A field `level` gives
its place to the level. What `exc_info` says is not shown, since no failure is in flight when a record is made. -/
def entries (record : Record) : List (String × Datum) :=
  let event := if record.event.isNull then [] else [("event", record.event)]
  let named := Assoc.insert (· == ·) "level" (.text record.level.name) (record.fields ++ event)
  named.filter fun (name, _) => name ≠ "exc_info"

end Record

end SassBridge.Log
