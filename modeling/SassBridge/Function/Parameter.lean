import SassBridge.Value.Basic

/-!
Parameters of custom functions and how arguments are bound to them. Arguments are given by position only, so
a parameter that takes none by position needs a default.
-/

namespace SassBridge

inductive Parameter where
  | positional (name : String) (default? : Option Value)
  /-- Takes all arguments that are left. -/
  | rest (name : String)
  | keywordOnly (name : String) (default? : Option Value)
  /-- Takes the keywords that are left, of which there are none. -/
  | keywordRest (name : String)
  deriving Repr

/-- What a parameter is bound to. -/
inductive Bound where
  | value (value : Value)
  | rest (values : List Value)
  | keywords
  deriving Repr

namespace Parameter

def name : Parameter → String
  | positional name _ | rest name | keywordOnly name _ | keywordRest name => name

/-- Binds arguments to parameters in order of declaration, if they fit. -/
def bind? : List Parameter → List Value → Option (List Bound)
  | [], [] => some []
  | [], _ :: _ => none
  | positional _ _ :: parameters, argument :: arguments =>
    (bind? parameters arguments).map (.value argument :: ·)
  | positional _ default? :: parameters, [] => do
    let value ← default?
    return .value value :: (← bind? parameters [])
  | rest _ :: parameters, arguments => (bind? parameters []).map (.rest arguments :: ·)
  | keywordOnly _ default? :: parameters, arguments => do
    let value ← default?
    return .value value :: (← bind? parameters arguments)
  | keywordRest _ :: parameters, arguments => (bind? parameters arguments).map (.keywords :: ·)

section Binding

variable {name : String} {default? : Option Value} {parameters : List Parameter} {argument : Value}
  {arguments : List Value}

theorem bind?_positional : bind? (positional name default? :: parameters) (argument :: arguments) =
    (bind? parameters arguments).map (.value argument :: ·) := by
  rw [bind?]

theorem bind?_keywordRest :
    bind? (keywordRest name :: parameters) arguments = (bind? parameters arguments).map (.keywords :: ·) := by
  rw [bind?]

end Binding

end Parameter

end SassBridge
