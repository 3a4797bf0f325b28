import SassBridge.Event

/-!
The default compiler. It is set, or else discovered among entry points: the first one that gives a compiler.
What was discovered stays until another compiler, or none, is set.
-/

namespace SassBridge

/-- What a compiler may come from: a compiler itself, or a class, of which an instance is made first. To make it may
fail, or give something that cannot compile. -/
inductive Candidate (κ : Type) where
  | compiler (compiler : κ)
  | ofClass (make : Except Failure (Option κ))

instance {κ : Type} : Coe κ (Candidate κ) where
  coe := .compiler

/-- A named place where a compiler may be found. Loading it may fail, or give something that is neither a compiler nor a
class. -/
structure EntryPoint (κ : Type) where
  name : String
  load : Except Failure (Option (Candidate κ))

/-- The compiler of an entry point, if it has one. -/
def EntryPoint.compiler {κ : Type} (entryPoint : EntryPoint κ) : Except Failure (Option κ) :=
  match entryPoint.load with
  | .error failure => .error failure
  | .ok none => .ok none
  | .ok (some (.compiler compiler)) => .ok (some compiler)
  | .ok (some (.ofClass make)) => make

structure Registry (κ : Type) where
  chosen : Option κ
  entryPoints : List (EntryPoint κ)

namespace Registry

variable {κ : Type}

/-- The first compiler among entry points, and a report of each entry point up to it. -/
def discover : List (EntryPoint κ) → Except Failure κ × List Event
  | [] => (.error .noCompiler, [])
  | entryPoint :: rest =>
    match entryPoint.compiler with
    | .error failure => (.error failure, [])
    | .ok (some compiler) => (.ok compiler, [.compilerDiscovered entryPoint.name])
    | .ok none =>
      let (compiler, events) := discover rest
      (compiler, .entryPointIgnored entryPoint.name :: events)

/-- Sets the default compiler; none makes the next request discover one. -/
def set (registry : Registry κ) (compiler : Option κ) : Registry κ :=
  { registry with chosen := compiler }

/-- The default compiler, the registry that remembers it, and what was reported. -/
def get (registry : Registry κ) : Except Failure κ × Registry κ × List Event :=
  match registry.chosen with
  | some compiler => (.ok compiler, registry, [])
  | none =>
    match discover registry.entryPoints with
    | (.ok compiler, events) => (.ok compiler, registry.set (some compiler), events)
    | (.error failure, events) => (.error failure, registry, events)

end Registry

end SassBridge
