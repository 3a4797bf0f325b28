import SassBridge.Value.Entries

/-!
Conversion of script values between the two families. A value converts if everything in it belongs to the
family converted from, every list has one of the two separators that both know, and, toward the compiler,
every alpha is between zero and one. Otherwise the failure is that of the first offending part.
-/

namespace SassBridge

namespace Separator

/-- The separator of the compiler for a legacy one. -/
def toCompiler? : Option String → Option String
  | some "comma" => some ","
  | some "space" => some " "
  | _ => none

/-- The legacy separator for one of the compiler. -/
def toLegacy? : Option String → Option String
  | some "," => some "comma"
  | some " " => some "space"
  | _ => none

theorem toLegacy_toCompiler {separator : Option String} {mark : String}
    (h : toCompiler? separator = some mark) : toLegacy? (some mark) = separator := by
  unfold toCompiler? at h
  split at h <;> cases h <;> rfl

theorem toCompiler_toLegacy {separator : Option String} {mark : String}
    (h : toLegacy? separator = some mark) : toCompiler? (some mark) = separator := by
  unfold toLegacy? at h
  split at h <;> cases h <;> rfl

end Separator

namespace Atom

def toCompiler : Atom → Except Failure Atom
  | null .legacy => .ok (null .compiler)
  | bool .legacy value => .ok (bool .compiler value)
  | color .legacy value => do return color .compiler (← value.checkAlpha)
  | number .legacy value => .ok (number .compiler value)
  | legacyString text type => .ok (compilerString text (type ≠ Value.identifierType))
  | other => .error (.unconvertible (Value.atom other).typeName .compiler)

def toLegacy : Atom → Except Failure Atom
  | null .compiler => .ok (null .legacy)
  | bool .compiler value => .ok (bool .legacy value)
  | color .compiler value => .ok (color .legacy value)
  | number .compiler value => .ok (number .legacy value)
  | compilerString text quoted =>
    .ok (legacyString text (if quoted then Value.stringType else Value.identifierType))
  | other => .error (.unconvertible (Value.atom other).typeName .legacy)

end Atom

namespace Value

mutual

/-- The value of the compiler for a legacy value. What brackets a list is reduced to its truth. -/
def toCompiler : Value → Except Failure Value
  | atom value => do return atom (← value.toCompiler)
  | list .legacy elements separator bracketed =>
    match Separator.toCompiler? separator with
    | some converted => do
      return list .compiler (← elementsToCompiler elements) (some converted) (.bool bracketed.isTrue)
    | none => .error (.separator separator)
  | map .legacy entries => do return map .compiler (entriesOf (← entriesToCompiler entries))
  | other => .error (.unconvertible other.typeName .compiler)

def elementsToCompiler : List Value → Except Failure (List Value)
  | [] => .ok []
  | value :: rest => do
    let value ← toCompiler value
    return value :: (← elementsToCompiler rest)

def entriesToCompiler : List (Value × Value) → Except Failure (List (Value × Value))
  | [] => .ok []
  | (key, value) :: rest => do
    let key ← toCompiler key
    let value ← toCompiler value
    return (key, value) :: (← entriesToCompiler rest)

end

theorem toCompiler_atom {value : Atom} :
    (atom value).toCompiler = (do return atom (← value.toCompiler) : Except Failure Value) := by
  rw [toCompiler]

theorem elementsToCompiler_eq (elements : List Value) : elementsToCompiler elements = elements.mapM toCompiler := by
  induction elements with
  | nil => rfl
  | cons element elements ih => rw [elementsToCompiler, List.mapM_cons, ih]

theorem entriesToCompiler_eq (entries : List (Value × Value)) :
    entriesToCompiler entries =
      entries.mapM fun entry => do return (← toCompiler entry.1, ← toCompiler entry.2) := by
  induction entries with
  | nil => rfl
  | cons entry entries ih => simp only [entriesToCompiler, List.mapM_cons, ih, bind_assoc, pure_bind]

mutual

/-- The legacy value for a value of the compiler. What brackets a list is kept as it is. -/
def toLegacy : Value → Except Failure Value
  | atom value => do return atom (← value.toLegacy)
  | list .compiler elements separator bracketed =>
    match Separator.toLegacy? separator with
    | some converted => do
      return list .legacy (← elementsToLegacy elements) (some converted) bracketed
    | none => .error (.separator separator)
  | map .compiler entries => do return map .legacy (entriesOf (← entriesToLegacy entries))
  | other => .error (.unconvertible other.typeName .legacy)

def elementsToLegacy : List Value → Except Failure (List Value)
  | [] => .ok []
  | value :: rest => do
    let value ← toLegacy value
    return value :: (← elementsToLegacy rest)

def entriesToLegacy : List (Value × Value) → Except Failure (List (Value × Value))
  | [] => .ok []
  | (key, value) :: rest => do
    let key ← toLegacy key
    let value ← toLegacy value
    return (key, value) :: (← entriesToLegacy rest)

end

theorem toLegacy_atom {value : Atom} :
    (atom value).toLegacy = (do return atom (← value.toLegacy) : Except Failure Value) := by
  rw [toLegacy]

theorem elementsToLegacy_eq (elements : List Value) : elementsToLegacy elements = elements.mapM toLegacy := by
  induction elements with
  | nil => rfl
  | cons element elements ih => rw [elementsToLegacy, List.mapM_cons, ih]

theorem entriesToLegacy_eq (entries : List (Value × Value)) :
    entriesToLegacy entries = entries.mapM fun entry => do return (← toLegacy entry.1, ← toLegacy entry.2) := by
  induction entries with
  | nil => rfl
  | cons entry entries ih => simp only [entriesToLegacy, List.mapM_cons, ih, bind_assoc, pure_bind]

end Value

end SassBridge
