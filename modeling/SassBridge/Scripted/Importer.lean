import SassBridge.Import.LegacyImporter

/-! Importers that follow rules by requested path. An importer counts how often it was asked for each path. -/

namespace SassBridge.Scripted

/-- An element of an answer. -/
inductive Element where
  /-- The requested path, without source. -/
  | echo
  | entry (entry : ImportEntry)
  /-- Something that names no stylesheet. -/
  | junk

def Element.resolve (requested : String) : Element → Option ImportEntry
  | echo => some ⟨requested, none, none⟩
  | entry named => some named
  | junk => none

inductive Rule where
  | one (element : Element)
  | many (elements : List Element)
  | other
  | raise (failure : Failure)
  /-- Rules for one request after the other; the last one stays. -/
  | inTurn (rules : List Rule)
  deriving Inhabited

structure ImportRules where
  rules : List (String × Rule)
  otherwise : Rule

/-- How often each path was asked for. -/
abbrev Counts := List (String × Nat)

/-- A rule that is no sequence of rules, for the request of a number. -/
def Rule.atTurn (turn : Nat) : Rule → Rule
  | inTurn rules => (rules[min turn (rules.length - 1)]?).getD other
  | rule => rule

/-- What a rule answers. -/
def Rule.respond (requested : String) : Rule → Except Failure ImportResponse
  | one element =>
    match element.resolve requested with
    | some entry => .ok (.one entry)
    | none => .ok .other
  | many elements => .ok (.many (elements.map (Element.resolve requested)))
  | other | inTurn _ => .ok .other
  | raise failure => .error failure

/-- The rule for a path. -/
def ImportRules.find (rules : ImportRules) (path : String) : Rule :=
  (Assoc.find? (· == ·) path rules.rules).getD rules.otherwise

def importer (rules : ImportRules) : LegacyImporter Counts where
  initial := []
  make _ := .ok ⟨[], .shared⟩
  imports request receiver :=
    let turn := (Assoc.find? (· == ·) request.path receiver.state).getD 0
    let counts := Assoc.insert (· == ·) request.path (turn + 1) receiver.state
    (((rules.find request.path).atTurn turn).respond request.path, { receiver with state := counts })

/-- An importer that does not say what to import. -/
def abstractImporter : LegacyImporter Counts where
  initial := []
  make _ := .ok ⟨[], .shared⟩
  imports _ receiver := (.error .abstractCall, receiver)

end SassBridge.Scripted
