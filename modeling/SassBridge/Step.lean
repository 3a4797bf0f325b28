import SassBridge.Failure

/-! Steps that change a state and may fail. What a step changed before it failed stays changed. -/

namespace SassBridge

def Step (S α : Type) := S → Except Failure α × S

namespace Step

variable {S T α β : Type}

def run (step : Step S α) (state : S) : Except Failure α × S :=
  step state

instance : Monad (Step S) where
  pure value := fun state => (.ok value, state)
  bind step next := fun state =>
    match step state with
    | (.ok value, state) => next value state
    | (.error failure, state) => (.error failure, state)

def fail (failure : Failure) : Step S α :=
  fun state => (.error failure, state)

/-- The state. -/
def get : Step S S :=
  fun state => (.ok state, state)

def modify (change : S → S) : Step S Unit :=
  fun state => (.ok (), change state)

/-- An outcome that does not depend on the state. -/
def ofExcept (outcome : Except Failure α) : Step S α :=
  fun state => (outcome, state)

/-- A step on one part of the state. -/
def onPart (part : T → S) (replace : S → T → T) (step : Step S α) : Step T α :=
  fun whole =>
    match step (part whole) with
    | (outcome, state) => (outcome, replace state whole)

end Step

end SassBridge
