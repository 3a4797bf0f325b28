import SassBridge.Proofs.Function.Announced
import SassBridge.Proofs.Function.SignatureText

/-!
How many arguments a method takes. For a method without keyword-only parameters this can be read off the text of its
signature: as many as there are parameters without a default, and no more than there are parameters before the rest
marker unless there is one. It is the method that is called as long as the instance holds nothing else under its name.
-/

namespace SassBridge

variable {σ : Type}

namespace Announced

def isRequired : Announced → Bool
  | required _ => true
  | _ => false

end Announced

/-- Whether a call with a number of arguments is as a signature announces it. -/
def Signature.accepts (signature : Signature) (count : Nat) : Bool :=
  decide (signature.parameters.countP Announced.isRequired ≤ count) &&
    (decide (count ≤ signature.parameters.countP (!·.isRest)) || signature.parameters.any Announced.isRest)

/-- The parameters of a method behind the one for the object, where none is keyword-only. Those with a default come
last, but for a parameter that takes what is left. -/
structure MethodParameters where
  required : List String
  optional : List (String × Value)
  rest? : Option String
  keywordRest? : Option String

namespace MethodParameters

variable (parameters : MethodParameters)

/-- What stands behind the parameters that take one argument. -/
def leftOver : List Parameter :=
  parameters.rest?.toList.map .rest ++ parameters.keywordRest?.toList.map .keywordRest

def defaulted : List Parameter :=
  parameters.optional.map fun (name, default) => .positional name (some default)

def toList : List Parameter :=
  parameters.required.map (.positional · none) ++ (parameters.defaulted ++ parameters.leftOver)

def announced : List Announced :=
  parameters.required.map .required ++ (parameters.optional.map (.optional ·.1) ++ parameters.rest?.toList.map .rest)

/-- How many parameters take one argument. -/
def places : Nat :=
  parameters.required.length + parameters.optional.length

/-- Whether a number of arguments can be bound. -/
def Fits (count : Nat) : Prop :=
  parameters.required.length ≤ count ∧ (count ≤ parameters.places ∨ parameters.rest?.isSome = true)

instance (count : Nat) : Decidable (parameters.Fits count) :=
  inferInstanceAs (Decidable (_ ∧ _))

def boundLeftOver (arguments : List Value) : List Bound :=
  parameters.rest?.toList.map (fun _ => .rest arguments) ++ parameters.keywordRest?.toList.map fun _ => .keywords

/-- What arguments are bound to, if they fit: one for each parameter in order, then the defaults of the parameters that
get none, then what is left. -/
def bindings (arguments : List Value) : List Bound :=
  (arguments.take parameters.places).map .value ++
    ((parameters.optional.drop (arguments.length - parameters.required.length)).map (.value ·.2) ++
      parameters.boundLeftOver (arguments.drop parameters.places))

theorem announced?_toList : parameters.toList.filterMap Parameter.announced? = parameters.announced := by
  have hkeywords : ∀ name : Option String,
      (name.toList.map Parameter.keywordRest).filterMap Parameter.announced? = [] := by
    intro name
    cases name <;> rfl
  simp only [toList, defaulted, leftOver, announced, List.filterMap_append, hkeywords, List.append_nil]
  simp [List.filterMap_map, Function.comp_def, Parameter.announced?]

/-- A signature accepts just the numbers of arguments that fit. -/
theorem accepts_announced {function : String} {count : Nat} :
    Signature.accepts ⟨function, parameters.announced⟩ count = true ↔ parameters.Fits count := by
  have hrest : parameters.announced.any Announced.isRest = parameters.rest?.isSome := by
    cases hrest : parameters.rest? <;> simp [announced, hrest, Announced.isRest]
  have hrequired : parameters.announced.countP Announced.isRequired = parameters.required.length := by
    simp [announced, List.countP_append, List.countP_map, Function.comp_def, Announced.isRequired]
  have hplaces : parameters.announced.countP (!·.isRest) = parameters.places := by
    simp [announced, places, List.countP_append, List.countP_map, Function.comp_def, Announced.isRest]
  rw [Signature.accepts, hrest, hrequired, hplaces, Fits]
  simp

theorem bind?_leftOver (arguments : List Value) :
    Parameter.bind? parameters.leftOver arguments =
      if arguments = [] ∨ parameters.rest?.isSome = true then some (parameters.boundLeftOver arguments) else none := by
  rcases parameters with ⟨required, optional, rest?, keywordRest?⟩
  cases rest? <;> cases keywordRest? <;> cases arguments <;> rfl

/-- Parameters with defaults take arguments as far as there are any. -/
theorem bind?_defaulted (optional : List (String × Value)) (others : List Parameter) (arguments : List Value) :
    Parameter.bind? ((optional.map fun (name, default) => Parameter.positional name (some default)) ++ others)
        arguments =
      (Parameter.bind? others (arguments.drop optional.length)).map fun bound =>
        (arguments.take optional.length).map .value ++
          ((optional.drop arguments.length).map (.value ·.2) ++ bound) := by
  induction optional generalizing arguments with
  | nil => simp
  | cons parameter optional ih =>
      cases arguments with
      | nil =>
          rw [List.map_cons, List.cons_append, Parameter.bind?, ih]
          cases hothers : Parameter.bind? others [] <;> simp [hothers]
      | cons argument arguments =>
          rw [List.map_cons, List.cons_append, Parameter.bind?_positional, ih]
          simp [Function.comp_def]

/-- Parameters without defaults take one argument each. -/
theorem bind?_required (required : List String) (others : List Parameter) (arguments : List Value) :
    Parameter.bind? (required.map (.positional · none) ++ others) arguments =
      if required.length ≤ arguments.length then
        (Parameter.bind? others (arguments.drop required.length)).map
          ((arguments.take required.length).map .value ++ ·)
      else none := by
  induction required generalizing arguments with
  | nil => simp
  | cons name required ih =>
      cases arguments with
      | nil => simp [Parameter.bind?]
      | cons argument arguments =>
          rw [List.map_cons, List.cons_append, Parameter.bind?_positional, ih]
          simp only [List.length_cons, Nat.add_le_add_iff_right, List.drop_succ_cons, List.take_succ_cons]
          split <;> simp [Function.comp_def]

theorem bind?_toList (arguments : List Value) :
    Parameter.bind? parameters.toList arguments =
      if parameters.Fits arguments.length then some (parameters.bindings arguments) else none := by
  have hleft : arguments.drop parameters.places = [] ↔ arguments.length ≤ parameters.places := List.drop_eq_nil_iff
  rw [toList, bind?_required, defaulted, bind?_defaulted, List.drop_drop, bind?_leftOver, ← places]
  by_cases hrequired : parameters.required.length ≤ arguments.length
  · simp only [Fits, hleft, hrequired, true_and, if_true]
    split
    · simp [bindings, places, List.take_add]
    · rfl
  · rw [if_neg hrequired, if_neg fun hfits => hrequired hfits.1]

end MethodParameters

theorem Parameter.name_of_announced? {parameter : Parameter} {announced : Announced}
    (hannounced : parameter.announced? = some announced) : announced.name = parameter.name := by
  cases parameter with
  | positional name default? => cases default? <;> cases hannounced <;> rfl
  | rest name => cases hannounced; rfl
  | keywordOnly name default? => cases default? <;> cases hannounced <;> rfl
  | keywordRest name => cases hannounced

theorem Signature.isPlain_ofParameters {function : String} {parameters : List Parameter}
    (hfunction : isPlain function = true) (hparameters : ∀ parameter ∈ parameters, isPlain parameter.name = true) :
    (ofParameters function parameters).IsPlain := by
  refine ⟨hfunction, fun announced hannounced => ?_⟩
  obtain ⟨parameter, hmem, hparameter⟩ := List.mem_filterMap.mp hannounced
  rw [Parameter.name_of_announced? hparameter]
  exact hparameters parameter hmem

namespace FunctionSet

/-- A set with a method that has all kinds of parameters that take arguments by position or none. -/
def mixer : FunctionSet Nat :=
  Scripted.functionSet "Mixer" [[("mix", Scripted.method
    [.positional "first" none, .positional "second" (some .null), .rest "others", .keywordRest "named"] .bindings)]]

def mixParameters : MethodParameters :=
  ⟨["first"], [("second", .null)], some "others", some "named"⟩

theorem table_mixer : mixer.table = .ok [("mix($first, $second: null, $others...)", "mix")] := by
  have hnames : mixer.names = ["mix"] := names_of_ordered (by decide +kernel) (by decide +kernel)
  rw [FunctionSet.table, hnames]
  rfl

/-- A set that looks names up in a way of its own, by which no name gives anything that can be called. -/
def muted : FunctionSet Nat :=
  Scripted.functionSet "Muted"
    [[("mix", Scripted.method [.positional "color" none] (.argument 0)),
      ("__getattribute__", Scripted.method [.positional "name" none] (.constant (.ok .null)))]]

/-- A set whose instances hold an attribute in place of a method. -/
def replaced : FunctionSet Nat where
  className := "Replaced"
  initial := 0
  layers := [[("mix", Scripted.method [.positional "color" none] (.argument 0))]]
  own? name _ := if name = "mix" then some (Attribute.uncallable name) else none

/-- Whether a set has a method that its signature announces with one parameter, and calls with one argument are
refused. -/
def RefusesAccepted (set : FunctionSet Nat) : Prop :=
  set.table = .ok [("mix($color)", "mix")] ∧
    set.nearest? "mix" = some (Scripted.method [.positional "color" none] (.argument 0)) ∧
    (Signature.ofText? "mix($color)").any (·.accepts 1) = true ∧
    set.Refuses "mix" [.atom (.bool .compiler true)] ⟨some [], 0⟩

theorem refusesAccepted_of_names {set : FunctionSet Nat} (hnames : set.names = ["mix"])
    (hnearest : set.nearest? "mix" = some (Scripted.method [.positional "color" none] (.argument 0)))
    (hrefuses : set.Refuses "mix" [.atom (.bool .compiler true)] ⟨some [], 0⟩) : set.RefusesAccepted := by
  have hsignature : set.signature "mix" = .ok (.ofParameters "mix" [.positional "color" none]) :=
    signature_eq hnearest rfl
  refine ⟨?_, hnearest, by decide +kernel, hrefuses⟩
  rw [FunctionSet.table, hnames, List.mapM_cons, hsignature]
  rfl

end FunctionSet

end SassBridge
