import SassBridge.Datum.Basic

/-! Objects of the host: the instance of a function set, or an importer. -/

namespace SassBridge

/-- A state of its own and the options that the object was given, if it keeps any. -/
structure Receiver (σ : Type) where
  options : Option Bag
  state : σ

/-- Where the options of an object are. -/
inductive OptionsHolder where
  /-- In the bag of the render. -/
  | shared
  | own (bag : Bag)
  /-- Nowhere: the object keeps none. -/
  | missing
  deriving Repr

/-- An object whose options may be those of the render. -/
structure Held (σ : Type) where
  state : σ
  options : OptionsHolder

namespace Held

variable {σ : Type}

/-- The object, seen with the bag of the render. -/
def receiver (held : Held σ) (bag : Bag) : Receiver σ :=
  match held.options with
  | .shared => ⟨some bag, held.state⟩
  | .own own => ⟨some own, held.state⟩
  | .missing => ⟨none, held.state⟩

/-- The object and the bag of the render after a call. -/
def update (held : Held σ) (bag : Bag) (receiver : Receiver σ) : Held σ × Bag :=
  match held.options, receiver.options with
  | .shared, some bag => (⟨receiver.state, .shared⟩, bag)
  | .own _, some own => (⟨receiver.state, .own own⟩, bag)
  | options, _ => (⟨receiver.state, options⟩, bag)

end Held

end SassBridge
