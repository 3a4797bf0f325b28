import SassBridge.Compiler.Compilation

/-! Compilers that follow a script: queries in order, and then a fixed end. -/

namespace SassBridge.Scripted

/-- A query may turn out not to be one when it is its turn; then it fails by itself. -/
structure Script where
  queries : List (Except Failure Query)
  /-- Whether the first query that fails ends the compilation. -/
  propagate : Bool
  ending : Except Failure CompileResult

namespace Script

/-- The compilation of some queries. -/
def compileFrom (script : Script) : List (Except Failure Query) → Compilation
  | [] => .done script.ending
  | .error failure :: rest =>
    if script.propagate then .done (.error failure) else script.compileFrom rest
  | .ok query :: rest =>
    .ask query fun
      | .error failure => if script.propagate then .done (.error failure) else script.compileFrom rest
      | .ok _ => script.compileFrom rest

/-- The compiler that follows a script whatever it is asked to compile. -/
def compile (script : Script) (_ : Request) : Compilation :=
  script.compileFrom script.queries

/-- What each query led to, given the replies. A failure that ended the compilation is left out. -/
def transcript (script : Script) :
    List (Except Failure Query) → List (Except Failure Reply) → List (Except Failure Reply)
  | .error failure :: rest, replies =>
    if script.propagate then [] else .error failure :: script.transcript rest replies
  | .ok _ :: rest, .error failure :: replies =>
    if script.propagate then [] else .error failure :: script.transcript rest replies
  | .ok _ :: rest, .ok reply :: replies => .ok reply :: script.transcript rest replies
  | _, _ => []

end Script

end SassBridge.Scripted
