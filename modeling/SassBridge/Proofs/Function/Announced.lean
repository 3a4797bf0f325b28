import SassBridge.Proofs.Function.Callback

/-! Calls of functions as they are announced, with one argument for each parameter before the rest marker. A method is
called as announced if and only if its first parameter takes the object, there is no keyword-only parameter without a
rest parameter before it, and nothing after the rest parameter that has no default. A static method loses its first
parameter in the signature, so that nothing may be announced before the rest marker, and all its parameters need
defaults. No method is called where the instance holds something else under its name. -/

namespace SassBridge

variable {σ : Type}

def Announced.isRest : Announced → Bool
  | rest _ => true
  | _ => false

/-- What is announced before the rest marker. -/
def Signature.leading (signature : Signature) : List Announced :=
  signature.parameters.takeWhile fun parameter => !parameter.isRest

/-- Whether a value is what a value of the compiler converts to. -/
def Value.IsReceived (value : Value) : Prop :=
  ∃ argument : Value, argument.toLegacy = .ok value

namespace Parameter

def isRest : Parameter → Bool
  | rest _ => true
  | _ => false

def isKeywordOnly : Parameter → Bool
  | keywordOnly _ _ => true
  | _ => false

/-- Whether a parameter takes arguments that are given by position. -/
def isByPosition : Parameter → Bool
  | positional _ _ | rest _ => true
  | keywordOnly _ _ | keywordRest _ => false

/-- Whether a call need not give anything for a parameter. -/
def isOptional : Parameter → Bool
  | positional _ default? | keywordOnly _ default? => default?.isSome
  | rest _ | keywordRest _ => true

/-- Whether no parameter before the rest parameter is keyword-only, and all others can be left out. -/
def bindsInOrder (parameters : List Parameter) : Bool :=
  (parameters.takeWhile (!·.isRest)).all (!·.isKeywordOnly) && (parameters.dropWhile (!·.isRest)).all isOptional

/-- What those parameters are bound to that are announced before the rest marker. -/
def leadingBound : List Parameter → List Bound → List Bound
  | rest _ :: _, _ => []
  | keywordRest _ :: parameters, _ :: bound => leadingBound parameters bound
  | _ :: parameters, value :: bound => value :: leadingBound parameters bound
  | _, _ => []

/-- How many arguments a call gives where the announced ones of some parameters get one each. -/
def leadingCount (parameters : List Parameter) : Nat :=
  ((parameters.filterMap announced?).takeWhile (!·.isRest)).length

section Counting

variable {parameters : List Parameter} {parameterName : String} {default? : Option Value}

theorem leadingCount_positional :
    leadingCount (positional parameterName default? :: parameters) = leadingCount parameters + 1 := by
  cases default? <;> rfl

theorem leadingCount_keywordOnly :
    leadingCount (keywordOnly parameterName default? :: parameters) = leadingCount parameters + 1 := by
  cases default? <;> rfl

end Counting

/-- Nothing can be given exactly if everything can be left out. -/
theorem exists_bind?_nil_iff {parameters : List Parameter} :
    (∃ bound, bind? parameters [] = some bound) ↔ parameters.all isOptional = true := by
  induction parameters with
  | nil => simp [bind?]
  | cons parameter parameters ih =>
      rw [List.all_cons, Bool.and_eq_true, ← ih]
      cases parameter with
      | positional parameterName default? => cases default? <;> simp [bind?, isOptional, Option.bind_eq_some_iff]
      | rest parameterName => simp [bind?, isOptional]
      | keywordOnly parameterName default? => cases default? <;> simp [bind?, isOptional, Option.bind_eq_some_iff]
      | keywordRest parameterName => simp [bind?, isOptional]

theorem leadingBound_nil {parameters : List Parameter} (hcount : leadingCount parameters = 0) (bound : List Bound) :
    leadingBound parameters bound = [] := by
  induction parameters generalizing bound with
  | nil => cases bound <;> rfl
  | cons parameter parameters ih =>
      cases parameter with
      | positional parameterName default? =>
          rw [leadingCount_positional] at hcount
          omega
      | rest parameterName => cases bound <;> rfl
      | keywordOnly parameterName default? =>
          rw [leadingCount_keywordOnly] at hcount
          omega
      | keywordRest parameterName =>
          cases bound with
          | nil => rfl
          | cons value bound => exact ih hcount bound

theorem exists_bound_of_bindsInOrder {parameters : List Parameter} (hinOrder : bindsInOrder parameters = true)
    {arguments : List Value} (hlength : arguments.length = leadingCount parameters) :
    ∃ bound, bind? parameters arguments = some bound ∧ leadingBound parameters bound = arguments.map .value := by
  induction parameters generalizing arguments with
  | nil =>
      obtain rfl := List.length_eq_zero_iff.mp hlength
      exact ⟨[], rfl, rfl⟩
  | cons parameter parameters ih =>
      cases parameter with
      | positional parameterName default? =>
          rw [leadingCount_positional] at hlength
          obtain ⟨argument, others, rfl⟩ := List.exists_cons_of_length_eq_add_one hlength
          obtain ⟨bound, hbound, hvalues⟩ := ih hinOrder (by simpa using hlength)
          refine ⟨.value argument :: bound, ?_, ?_⟩
          · rw [bind?_positional, hbound, Option.map_some]
          · rw [leadingBound, hvalues, List.map_cons]
            all_goals simp
      | rest parameterName =>
          obtain rfl := List.length_eq_zero_iff.mp hlength
          obtain ⟨bound, hbound⟩ := exists_bind?_nil_iff.mpr hinOrder
          exact ⟨bound, hbound, leadingBound_nil rfl bound⟩
      | keywordOnly parameterName default? => simp [bindsInOrder, isRest, isKeywordOnly] at hinOrder
      | keywordRest parameterName =>
          obtain ⟨bound, hbound, hvalues⟩ := ih hinOrder hlength
          refine ⟨.keywords :: bound, ?_, hvalues⟩
          rw [bind?_keywordRest, hbound, Option.map_some]

/-- Whether calls that give an argument for each parameter announced before the rest marker bind these parameters in
order, where some parameters at the start are not announced. -/
def TakesAnnounced (unannounced : Nat) (parameters : List Parameter) : Prop :=
  ∀ arguments : List Value, (∀ argument ∈ arguments, argument.IsReceived) →
    arguments.length = leadingCount (parameters.drop unannounced) →
    ∃ bound, bind? parameters arguments = some bound ∧
      leadingBound (parameters.drop unannounced) (bound.drop unannounced) = arguments.map .value

/-- There is always something else that a function can be given. -/
theorem exists_received_ne (value : Value) : ∃ other : Value, other.IsReceived ∧ other ≠ value := by
  by_cases hnull : value = .null
  · exact ⟨.atom (.bool .legacy true), ⟨.atom (.bool .compiler true), rfl⟩, by simp [hnull, Value.null]⟩
  · exact ⟨.null, ⟨.atom (.null .compiler), rfl⟩, fun hsame => hnull hsame.symm⟩

/-- Nothing starts with whatever a function is given. -/
theorem exists_received_ne_start (start? : Option Bound) :
    ∃ value : Value, value.IsReceived ∧ start? ≠ some (.value value) := by
  by_cases hnull : start? = some (.value .null)
  · obtain ⟨other, hother, hne⟩ := exists_received_ne .null
    refine ⟨other, hother, fun hsame => hne ?_⟩
    exact Bound.value.inj (Option.some.inj (hsame.symm.trans hnull))
  · exact ⟨.null, ⟨.atom (.null .compiler), rfl⟩, hnull⟩

theorem forall_received_replicate {value : Value} (hvalue : value.IsReceived) (count : Nat) :
    ∀ argument ∈ List.replicate count value, argument.IsReceived := by
  intro argument hmem
  rwa [List.eq_of_mem_replicate hmem]

section Announcing

variable {parameters : List Parameter} {parameterName : String} {default? : Option Value}

theorem takesAnnounced_positional (htakes : TakesAnnounced 0 (positional parameterName default? :: parameters)) :
    TakesAnnounced 0 parameters := by
  intro arguments hreceived hlength
  obtain ⟨first, hfirst, -⟩ := exists_received_ne .null
  obtain ⟨bound, hbound, hvalues⟩ := htakes (first :: arguments) (List.forall_mem_cons.mpr ⟨hfirst, hreceived⟩)
    (by rw [List.drop_zero, leadingCount_positional, List.length_cons, hlength, List.drop_zero])
  rw [bind?_positional, Option.map_eq_some_iff] at hbound
  obtain ⟨others, hothers, rfl⟩ := hbound
  exact ⟨others, hothers, (List.cons.inj hvalues).2⟩

theorem takesAnnounced_keywordRest (htakes : TakesAnnounced 0 (keywordRest parameterName :: parameters)) :
    TakesAnnounced 0 parameters := by
  intro arguments hreceived hlength
  obtain ⟨bound, hbound, hvalues⟩ := htakes arguments hreceived hlength
  rw [bind?_keywordRest, Option.map_eq_some_iff] at hbound
  obtain ⟨others, hothers, rfl⟩ := hbound
  exact ⟨others, hothers, hvalues⟩

/-- A keyword-only parameter has its default whatever argument is meant for it. -/
theorem not_takesAnnounced_keywordOnly :
    ¬TakesAnnounced 0 (keywordOnly parameterName default? :: parameters) := by
  intro htakes
  obtain ⟨value, hvalue, hne⟩ := exists_received_ne_start (default?.map .value)
  obtain ⟨bound, hbound, hvalues⟩ := htakes _ (forall_received_replicate hvalue (leadingCount parameters + 1))
    (by rw [List.length_replicate, List.drop_zero, leadingCount_keywordOnly])
  rw [bind?, Option.bind_eq_bind, Option.bind_eq_some_iff] at hbound
  obtain ⟨default, hdefault, hbound⟩ := hbound
  rw [Option.bind_eq_bind, Option.bind_eq_some_iff] at hbound
  obtain ⟨others, -, hcons⟩ := hbound
  obtain rfl := Option.some.inj hcons
  rw [hdefault] at hne
  exact hne (congrArg some (List.cons.inj hvalues).1)

end Announcing

theorem takesAnnounced_zero_iff (parameters : List Parameter) :
    TakesAnnounced 0 parameters ↔ bindsInOrder parameters = true := by
  refine ⟨fun htakes => ?_, fun hinOrder arguments _ hlength => exists_bound_of_bindsInOrder hinOrder hlength⟩
  induction parameters with
  | nil => rfl
  | cons parameter parameters ih =>
      cases parameter with
      | positional parameterName default? => exact ih (takesAnnounced_positional htakes)
      | rest parameterName =>
          obtain ⟨bound, hbound, -⟩ := htakes [] nofun rfl
          exact exists_bind?_nil_iff.mp ⟨bound, hbound⟩
      | keywordOnly parameterName default? => exact absurd htakes not_takesAnnounced_keywordOnly
      | keywordRest parameterName => exact ih (takesAnnounced_keywordRest htakes)

/-- The same where the first parameter is not announced: if it takes arguments, nothing else may be announced before the
rest marker. -/
def bindsBehindFirst : List Parameter → Bool
  | [] => true
  | first :: others =>
    if first.isByPosition then leadingCount others == 0 && (first :: others).all isOptional
    else first.isOptional && bindsInOrder others

section BehindFirst

variable {first : Parameter} {others : List Parameter}

/-- A parameter that takes arguments keeps the first of them from all others. -/
theorem bind?_of_isByPosition (hposition : first.isByPosition = true) (others : List Parameter)
    (arguments : List Value) : ∃ rest? : Option (List Bound), ∀ argument, ∃ own,
      bind? (first :: others) (argument :: arguments) = rest?.map (own :: ·) := by
  cases first with
  | positional parameterName default? => exact ⟨bind? others arguments, fun argument => ⟨.value argument, rfl⟩⟩
  | rest parameterName => exact ⟨bind? others [], fun argument => ⟨.rest (argument :: arguments), rfl⟩⟩
  | keywordOnly parameterName default? => cases hposition
  | keywordRest parameterName => cases hposition

/-- A parameter that takes no arguments leaves all of them to the others, if it can be left out. -/
theorem bind?_of_not_isByPosition (hposition : first.isByPosition = false) (others : List Parameter) :
    ∃ own, ∀ arguments, bind? (first :: others) arguments =
      if first.isOptional then (bind? others arguments).map (own :: ·) else none := by
  cases first with
  | positional parameterName default? => cases hposition
  | rest parameterName => cases hposition
  | keywordOnly parameterName default? =>
      cases default? with
      | none => exact ⟨.keywords, fun _ => rfl⟩
      | some value =>
          refine ⟨.value value, fun arguments => ?_⟩
          cases hbound : bind? others arguments <;> simp [bind?, isOptional, hbound]
  | keywordRest parameterName => exact ⟨.keywords, fun _ => rfl⟩

/-- A first parameter that is not announced takes the argument that is meant for the next one. -/
theorem leadingCount_of_takesAnnounced (hposition : first.isByPosition = true)
    (htakes : TakesAnnounced 1 (first :: others)) : leadingCount others = 0 := by
  by_contra hcount
  obtain ⟨count, hsucc⟩ := Nat.exists_eq_succ_of_ne_zero hcount
  obtain ⟨filler, hfiller, -⟩ := exists_received_ne .null
  obtain ⟨rest?, hrest⟩ := bind?_of_isByPosition hposition others (List.replicate count filler)
  -- What the announced parameters are bound to does not hang on the first argument, but it should start with it.
  obtain ⟨value, hvalue, hne⟩ := exists_received_ne_start
    (rest?.bind fun bound => (leadingBound others bound).head?)
  obtain ⟨bound, hbound, hvalues⟩ := htakes (value :: List.replicate count filler)
    (List.forall_mem_cons.mpr ⟨hvalue, forall_received_replicate hfiller count⟩)
    (by rw [List.length_cons, List.length_replicate, List.drop_one, List.tail_cons, hsucc])
  obtain ⟨own, hown⟩ := hrest value
  rw [hown, Option.map_eq_some_iff] at hbound
  obtain ⟨bound, rfl, rfl⟩ := hbound
  rw [List.drop_one, List.tail_cons, List.drop_one, List.tail_cons] at hvalues
  rw [Option.bind_some, hvalues] at hne
  exact hne rfl

theorem takesAnnounced_one_cons_iff (hposition : first.isByPosition = false) :
    TakesAnnounced 1 (first :: others) ↔ first.isOptional = true ∧ TakesAnnounced 0 others := by
  obtain ⟨own, hown⟩ := bind?_of_not_isByPosition hposition others
  have hone : first.isOptional = true → ∀ arguments : List Value,
      (∃ bound, bind? (first :: others) arguments = some bound ∧
        leadingBound others (bound.drop 1) = arguments.map .value) ↔
      ∃ bound, bind? others arguments = some bound ∧ leadingBound others bound = arguments.map .value := by
    intro hoptional arguments
    rw [hown, if_pos hoptional]
    simp only [Option.map_eq_some_iff]
    constructor
    · rintro ⟨_, ⟨bound, hbound, rfl⟩, hvalues⟩
      exact ⟨bound, hbound, hvalues⟩
    · rintro ⟨bound, hbound, hvalues⟩
      exact ⟨_, ⟨bound, hbound, rfl⟩, hvalues⟩
  constructor
  · intro htakes
    have hoptional : first.isOptional = true := by
      obtain ⟨value, hvalue, -⟩ := exists_received_ne .null
      obtain ⟨bound, hbound, -⟩ := htakes _ (forall_received_replicate hvalue (leadingCount others))
        List.length_replicate
      by_contra hrequired
      rw [hown, if_neg hrequired] at hbound
      cases hbound
    refine ⟨hoptional, fun arguments hreceived hlength => ?_⟩
    exact (hone hoptional arguments).mp (htakes arguments hreceived hlength)
  · rintro ⟨hoptional, htakes⟩ arguments hreceived hlength
    exact (hone hoptional arguments).mpr (htakes arguments hreceived hlength)

end BehindFirst

theorem takesAnnounced_one_iff (parameters : List Parameter) :
    TakesAnnounced 1 parameters ↔ bindsBehindFirst parameters = true := by
  cases parameters with
  | nil => exact takesAnnounced_zero_iff []
  | cons first others =>
      rw [bindsBehindFirst]
      by_cases hposition : first.isByPosition = true
      · rw [if_pos hposition, Bool.and_eq_true, beq_iff_eq]
        constructor
        · intro htakes
          have hcount := leadingCount_of_takesAnnounced hposition htakes
          obtain ⟨bound, hbound, -⟩ := htakes [] nofun hcount.symm
          exact ⟨hcount, exists_bind?_nil_iff.mp ⟨bound, hbound⟩⟩
        · rintro ⟨hcount, hoptional⟩ arguments - hlength
          obtain rfl := List.length_eq_zero_iff.mp (hlength.trans hcount)
          obtain ⟨bound, hbound⟩ := exists_bind?_nil_iff.mpr hoptional
          exact ⟨bound, hbound, leadingBound_nil hcount _⟩
      · rw [if_neg hposition, Bool.and_eq_true, takesAnnounced_one_cons_iff (Bool.eq_false_iff.mpr hposition),
          takesAnnounced_zero_iff]

/-- The same for calls in which an object comes before the arguments. The first parameter is there for the object. -/
def TakesAnnouncedBehind (object : Value) (parameters : List Parameter) : Prop :=
  ∀ arguments : List Value, (∀ argument ∈ arguments, argument.IsReceived) →
    arguments.length = leadingCount (parameters.drop 1) →
    ∃ bound, bind? parameters (object :: arguments) = some bound ∧
      leadingBound (parameters.drop 1) (bound.drop 1) = arguments.map .value

/-- Whether the first parameter takes an object and the others bind in order. An object that the first parameter does
not take by itself needs a rest parameter, and then nothing else may be announced before the rest marker. -/
def bindsBehindObject : List Parameter → Bool
  | [] => false
  | positional _ _ :: others => bindsInOrder others
  | first :: others =>
    leadingCount others == 0 && (first :: others).all isOptional && (first :: others).any isRest

section BehindObject

variable {object : Value} {first : Parameter} {others : List Parameter}

theorem takesAnnouncedBehind_positional_iff {parameterName : String} {default? : Option Value} :
    TakesAnnouncedBehind object (positional parameterName default? :: others) ↔ TakesAnnounced 0 others := by
  refine forall₃_congr fun arguments _ _ => ?_
  rw [bind?_positional]
  constructor
  · rintro ⟨_, hbound, hvalues⟩
    obtain ⟨bound, hothers, rfl⟩ := Option.map_eq_some_iff.mp hbound
    exact ⟨bound, hothers, hvalues⟩
  · rintro ⟨bound, hbound, hvalues⟩
    exact ⟨.value object :: bound, by rw [hbound, Option.map_some], hvalues⟩

/-- Where an object comes first, what is announced before the rest marker is not bound to the arguments in order. -/
theorem leadingCount_of_object
    (htakes : ∀ arguments : List Value, (∀ argument ∈ arguments, argument.IsReceived) →
      arguments.length = leadingCount others →
      ∃ bound, bind? others (object :: arguments) = some bound ∧ leadingBound others bound = arguments.map .value) :
    leadingCount others = 0 := by
  -- No announced parameter can come first: what it is bound to does not hang on the arguments.
  have hfixed : ∀ (fixed : Value) (count : Nat), leadingCount others = count + 1 →
      ¬∀ arguments bound, bind? others (object :: arguments) = some bound →
        (leadingBound others bound).head? = some (.value fixed) := by
    intro fixed count hcount hhead
    obtain ⟨value, hvalue, hne⟩ := exists_received_ne fixed
    obtain ⟨bound, hbound, hvalues⟩ := htakes _ (forall_received_replicate hvalue (count + 1))
      (by rw [List.length_replicate, hcount])
    have hsame := hhead _ bound hbound
    rw [hvalues, List.replicate_succ, List.map_cons, List.head?_cons] at hsame
    exact hne (Bound.value.inj (Option.some.inj hsame))
  induction others with
  | nil => rfl
  | cons parameter parameters ih =>
      cases parameter with
      | positional parameterName default? =>
          refine absurd ?_ (hfixed object _ leadingCount_positional)
          intro arguments bound hbound
          rw [bind?_positional, Option.map_eq_some_iff] at hbound
          obtain ⟨others, -, rfl⟩ := hbound
          rfl
      | rest parameterName => rfl
      | keywordOnly parameterName default? =>
          obtain ⟨value, hvalue, -⟩ := exists_received_ne .null
          obtain ⟨bound, hbound, -⟩ := htakes _ (forall_received_replicate hvalue _) List.length_replicate
          rw [bind?, Option.bind_eq_bind, Option.bind_eq_some_iff] at hbound
          obtain ⟨default, rfl, -⟩ := hbound
          refine absurd ?_ (hfixed default _ leadingCount_keywordOnly)
          intro arguments bound hbound
          simp only [bind?, Option.bind_eq_bind, Option.bind_some, Option.bind_eq_some_iff] at hbound
          obtain ⟨others, -, hcons⟩ := hbound
          obtain rfl := Option.some.inj hcons
          rfl
      | keywordRest parameterName =>
          refine ih (fun arguments hreceived hlength => ?_) fun fixed count hcount hhead => ?_
          · obtain ⟨bound, hbound, hvalues⟩ := htakes arguments hreceived hlength
            rw [bind?_keywordRest, Option.map_eq_some_iff] at hbound
            obtain ⟨others, hothers, rfl⟩ := hbound
            exact ⟨others, hothers, hvalues⟩
          · refine hfixed fixed count hcount fun arguments bound hbound => ?_
            rw [bind?_keywordRest, Option.map_eq_some_iff] at hbound
            obtain ⟨others, hothers, rfl⟩ := hbound
            exact hhead arguments others hothers

/-- A rest parameter takes an object where nothing before it does. -/
theorem exists_bind?_object_iff (hcount : leadingCount others = 0) :
    (∃ bound, bind? others [object] = some bound) ↔ others.all isOptional = true ∧ others.any isRest = true := by
  induction others with
  | nil => simp [bind?]
  | cons parameter parameters ih =>
      cases parameter with
      | positional parameterName default? =>
          rw [leadingCount_positional] at hcount
          omega
      | rest parameterName => simp [bind?, isOptional, isRest, exists_bind?_nil_iff]
      | keywordOnly parameterName default? =>
          rw [leadingCount_keywordOnly] at hcount
          omega
      | keywordRest parameterName =>
          have hothers := ih hcount
          simp [bind?_keywordRest, isOptional, isRest, hothers]

theorem takesAnnouncedBehind_rest_iff {parameterName : String} :
    TakesAnnouncedBehind object (rest parameterName :: others) ↔
      leadingCount others = 0 ∧ others.all isOptional = true := by
  have hbind : ∀ arguments : List Value, bind? (rest parameterName :: others) arguments =
      (bind? others []).map (.rest arguments :: ·) := fun _ => rfl
  constructor
  · intro htakes
    have hcount : leadingCount others = 0 := by
      by_contra hcount
      obtain ⟨count, hsucc⟩ := Nat.exists_eq_succ_of_ne_zero hcount
      obtain ⟨value, hvalue, hne⟩ := exists_received_ne_start
        ((bind? others []).bind fun bound => (leadingBound others bound).head?)
      obtain ⟨bound, hbound, hvalues⟩ := htakes _ (forall_received_replicate hvalue (count + 1))
        (by rw [List.length_replicate, List.drop_one, List.tail_cons, hsucc])
      rw [hbind, Option.map_eq_some_iff] at hbound
      obtain ⟨bound, hothers, rfl⟩ := hbound
      rw [List.drop_one, List.tail_cons, List.drop_one, List.tail_cons] at hvalues
      rw [hothers, Option.bind_some, hvalues] at hne
      exact hne rfl
    obtain ⟨bound, hbound, -⟩ := htakes [] nofun hcount.symm
    rw [hbind, Option.map_eq_some_iff] at hbound
    obtain ⟨bound, hothers, -⟩ := hbound
    exact ⟨hcount, exists_bind?_nil_iff.mp ⟨bound, hothers⟩⟩
  · rintro ⟨hcount, hoptional⟩ arguments - hlength
    obtain ⟨bound, hothers⟩ := exists_bind?_nil_iff.mpr hoptional
    obtain rfl := List.length_eq_zero_iff.mp (hlength.trans hcount)
    exact ⟨_, by rw [hbind, hothers]; rfl, leadingBound_nil hcount _⟩

theorem takesAnnouncedBehind_cons_iff (hposition : first.isByPosition = false) :
    TakesAnnouncedBehind object (first :: others) ↔
      first.isOptional = true ∧ leadingCount others = 0 ∧ ∃ bound, bind? others [object] = some bound := by
  obtain ⟨own, hown⟩ := bind?_of_not_isByPosition hposition others
  constructor
  · intro htakes
    have hoptional : first.isOptional = true := by
      obtain ⟨value, hvalue, -⟩ := exists_received_ne .null
      obtain ⟨bound, hbound, -⟩ := htakes _ (forall_received_replicate hvalue (leadingCount others))
        List.length_replicate
      by_contra hrequired
      rw [hown, if_neg hrequired] at hbound
      cases hbound
    have hothers : ∀ arguments : List Value, (∀ argument ∈ arguments, argument.IsReceived) →
        arguments.length = leadingCount others →
        ∃ bound, bind? others (object :: arguments) = some bound ∧
          leadingBound others bound = arguments.map .value := by
      intro arguments hreceived hlength
      obtain ⟨bound, hbound, hvalues⟩ := htakes arguments hreceived hlength
      rw [hown, if_pos hoptional, Option.map_eq_some_iff] at hbound
      obtain ⟨bound, hbound, rfl⟩ := hbound
      exact ⟨bound, hbound, hvalues⟩
    have hcount := leadingCount_of_object hothers
    obtain ⟨bound, hbound, -⟩ := hothers [] nofun hcount.symm
    exact ⟨hoptional, hcount, bound, hbound⟩
  · rintro ⟨hoptional, hcount, bound, hbound⟩ arguments - hlength
    obtain rfl := List.length_eq_zero_iff.mp (hlength.trans hcount)
    exact ⟨own :: bound, by rw [hown, if_pos hoptional, hbound]; rfl, leadingBound_nil hcount _⟩

end BehindObject

theorem takesAnnouncedBehind_iff (object : Value) (parameters : List Parameter) :
    TakesAnnouncedBehind object parameters ↔ bindsBehindObject parameters = true := by
  have hothers : ∀ (first : Parameter) (others : List Parameter), first.isByPosition = false →
      (TakesAnnouncedBehind object (first :: others) ↔
        (leadingCount others == 0 && (first :: others).all isOptional && (first :: others).any isRest) = true) := by
    intro first others hposition
    have hrest : first.isRest = false := by cases first <;> first | rfl | cases hposition
    rw [takesAnnouncedBehind_cons_iff hposition, List.all_cons, List.any_cons, hrest, Bool.false_or]
    simp only [Bool.and_eq_true, beq_iff_eq]
    constructor
    · rintro ⟨hoptional, hcount, hbound⟩
      obtain ⟨hall, hany⟩ := (exists_bind?_object_iff hcount).mp hbound
      exact ⟨⟨hcount, hoptional, hall⟩, hany⟩
    · rintro ⟨⟨hcount, hoptional, hall⟩, hany⟩
      exact ⟨hoptional, hcount, (exists_bind?_object_iff hcount).mpr ⟨hall, hany⟩⟩
  cases parameters with
  | nil =>
      refine iff_of_false (fun htakes => ?_) (by decide)
      obtain ⟨bound, hbound, -⟩ := htakes [] nofun rfl
      cases hbound
  | cons first others =>
      cases first with
      | positional parameterName default? =>
          rw [takesAnnouncedBehind_positional_iff, takesAnnounced_zero_iff]
          rfl
      | rest parameterName =>
          rw [takesAnnouncedBehind_rest_iff]
          simp [bindsBehindObject, isOptional, isRest]
      | keywordOnly parameterName default? => exact hothers _ others rfl
      | keywordRest parameterName => exact hothers _ others rfl

end Parameter

namespace Member

/-- All parameters of a member. -/
def parameters : Member σ → List Parameter
  | method parameters _ | static parameters _ | classMethod parameters _ => parameters
  | property _ | constant => []

def body : Member σ → Body σ
  | method _ body | static _ body | classMethod _ body | property body => body
  | constant => fun _ receiver => (.error .wrongType, receiver)

/-- What those parameters are bound to that the signature of a member announces before the rest marker. The first
parameter is not announced. -/
def leadingBound (member : Member σ) (bound : List Bound) : List Bound :=
  Parameter.leadingBound (member.parameters.drop 1) (bound.drop 1)

/-- Whether a function can be called as its signature announces it. -/
def takesAnnounced : Member σ → Bool
  | method parameters _ => Parameter.bindsBehindObject parameters
  | static parameters _ => Parameter.bindsBehindFirst parameters
  | classMethod _ _ | property _ | constant => false

variable {definition : Member σ}

theorem announcedParameters?_eq (hfunction : definition.isFunction = true) :
    definition.announcedParameters? = some (definition.parameters.drop 1) := by
  cases definition <;> first | rfl | cases hfunction

/-- Whether calls of a function that give an argument for each parameter announced before the rest marker bind these
parameters in order. -/
def TakesAnnounced (definition : Member σ) (object : Value) : Prop :=
  ∀ arguments : List Value, (∀ argument ∈ arguments, argument.IsReceived) →
    arguments.length = Parameter.leadingCount (definition.parameters.drop 1) →
    ∃ bound, Parameter.bind? definition.parameters (definition.given object arguments) = some bound ∧
      definition.leadingBound bound = arguments.map .value

theorem takesAnnounced_iff (hfunction : definition.isFunction = true) (object : Value) :
    definition.TakesAnnounced object ↔ definition.takesAnnounced = true := by
  cases definition with
  | method parameters body => exact Parameter.takesAnnouncedBehind_iff object parameters
  | static parameters body => exact Parameter.takesAnnounced_one_iff parameters
  | classMethod parameters body => cases hfunction
  | property body => cases hfunction
  | constant => cases hfunction

theorem call_eq (hfunction : definition.isFunction = true) (object : Value) (name : String)
    (arguments : List Value) (receiver : Receiver σ) :
    definition.call object name arguments receiver =
      match Parameter.bind? definition.parameters (definition.given object arguments) with
      | some bound => definition.body bound receiver
      | none => Attribute.uncallable name arguments receiver := by
  cases definition <;> first | rfl | cases hfunction

end Member

namespace FunctionSet

variable {set : FunctionSet σ} {table : FunctionTable} {signature name : String} {definition : Member σ}
  {arguments converted : List Value}

/-- What a call by name binds the parameters of the nearest definition to, if it comes to run it. -/
def bound? (set : FunctionSet σ) (name : String) (arguments : List Value) (receiver : Receiver σ) :
    Option (List Bound) :=
  match set.attribute? name receiver with
  | some _ => none
  | none => (set.nearest? name).bind fun definition =>
    Parameter.bind? definition.parameters (definition.given set.object arguments)

/-- What the compiler is told of what a function gave. -/
def conclude (name : String) : Except Failure Value × Receiver σ → CallOutcome σ
  | (.ok result, after) => ⟨result.toCompiler, after, []⟩
  | (.error failure, after) =>
    if failure.kind.isOrdinary then
      ⟨.error (.customFunction name failure), after, [.functionFailed name failure]⟩
    else ⟨.error failure, after, []⟩

theorem callback_eq_conclude (hconverted : Value.elementsToLegacy arguments = .ok converted)
    (before : Receiver σ) : set.callback name arguments before = conclude name (set.invoke name converted before) := by
  simp only [callback, hconverted]
  rcases set.invoke name converted before with ⟨failure | result, after⟩ <;> rfl

/-- A call by name runs the nearest definition unless the instance holds something else under the name. -/
theorem invoke_eq (hnearest : set.nearest? name = some definition) (hfunction : definition.isFunction = true)
    (arguments : List Value) (receiver : Receiver σ) :
    set.invoke name arguments receiver =
      match set.attribute? name receiver with
      | some own => own arguments receiver
      | none =>
        match set.bound? name arguments receiver with
        | some bound => definition.body bound receiver
        | none => Attribute.uncallable name arguments receiver := by
  rw [invoke, bound?, hnearest]
  cases set.attribute? name receiver with
  | some own => rfl
  | none => exact Member.call_eq hfunction set.object name arguments receiver

theorem signature_eq (hnearest : set.nearest? name = some definition) (hfunction : definition.isFunction = true) :
    set.signature name =
      .ok (.ofParameters name (definition.parameters.drop 1)) := by
  simp only [FunctionSet.signature, hnearest, Member.announcedParameters?_eq hfunction]

/-- Lists of what functions can be given are those that lists of arguments convert to. -/
theorem exists_elementsToLegacy_iff : (∃ arguments, Value.elementsToLegacy arguments = .ok converted) ↔
    ∀ value ∈ converted, value.IsReceived := by
  simp only [elementsToLegacy_ok_iff, Value.IsReceived, ← Lists.exists_forall₂_iff]
  exact exists_congr fun arguments => ⟨List.Forall₂.flip, List.Forall₂.flip⟩

theorem forall_received_iff {P : List Value → Prop} {count : Nat} :
    (∀ received : List Value, (∀ value ∈ received, value.IsReceived) → received.length = count → P received) ↔
      ∀ arguments converted, Value.elementsToLegacy arguments = .ok converted → arguments.length = count →
        P converted := by
  constructor
  · intro hall arguments converted hconverted hlength
    have hsame := (elementsToLegacy_ok_iff.mp hconverted).length_eq
    exact hall converted (exists_elementsToLegacy_iff.mp ⟨arguments, hconverted⟩) (hsame.symm.trans hlength)
  · intro hall received hreceived hlength
    obtain ⟨arguments, harguments⟩ := exists_elementsToLegacy_iff.mpr hreceived
    have hsame := (elementsToLegacy_ok_iff.mp harguments).length_eq
    exact hall arguments received harguments (hsame.trans hlength)

/-- Whether calls by name, with one argument that converts for each parameter announced before the rest marker, come to
run the nearest definition with these parameters bound to the converted arguments in order. -/
def AnswersAsAnnounced (set : FunctionSet σ) (name : String) (definition : Member σ) (announced : Signature)
    (before : Receiver σ) : Prop :=
  ∀ arguments converted, Value.elementsToLegacy arguments = .ok converted →
    arguments.length = announced.leading.length →
    ∃ bound, set.bound? name converted before = some bound ∧ definition.leadingBound bound = converted.map .value

theorem answersAsAnnounced_iff (hnearest : set.nearest? name = some definition)
    (hfunction : definition.isFunction = true) (before : Receiver σ) :
    set.AnswersAsAnnounced name definition (.ofParameters name (definition.parameters.drop 1)) before ↔
      set.attribute? name before = none ∧ definition.takesAnnounced = true := by
  rw [← Member.takesAnnounced_iff hfunction set.object, AnswersAsAnnounced, ← forall_received_iff]
  cases hheld : set.attribute? name before with
  | some own =>
      have hnone : ∀ converted, set.bound? name converted before = none := by
        intro converted
        rw [bound?, hheld]
      refine iff_of_false (fun hall => ?_) nofun
      obtain ⟨value, hvalue, -⟩ := Parameter.exists_received_ne .null
      obtain ⟨bound, hbound, -⟩ := hall _ (Parameter.forall_received_replicate hvalue _) List.length_replicate
      rw [hnone] at hbound
      cases hbound
  | none =>
      have hbound : ∀ converted, set.bound? name converted before =
          Parameter.bind? definition.parameters (definition.given set.object converted) := by
        intro converted
        rw [bound?, hheld, hnearest]
        rfl
      simp only [hbound, true_and]
      exact Iff.rfl

/-- A function of a table is called as it is announced exactly if the instance holds nothing else under its name and its
parameters take what the signature announces. A call with arguments that convert runs what the instance holds, or else
the nearest definition if they can be bound, or else is refused; what comes of it is told to the compiler. -/
theorem called_as_announced_iff (set : FunctionSet σ) {table : FunctionTable} {signature name : String}
    (htable : set.table = .ok table) (hname : table.find? signature = some name) (before : Receiver σ) :
    ∃ definition announced, name ∈ set.names ∧ set.nearest? name = some definition ∧
      definition.isFunction = true ∧ set.signature name = .ok announced ∧ announced.toText = signature ∧
      (set.AnswersAsAnnounced name definition announced before ↔
        set.attribute? name before = none ∧ definition.takesAnnounced = true) ∧
      ∀ arguments converted, Value.elementsToLegacy arguments = .ok converted →
        set.callback name arguments before =
          conclude name (match set.attribute? name before with
            | some own => own converted before
            | none =>
              match set.bound? name converted before with
              | some bound => definition.body bound before
              | none => (.error (.refused (.call name converted.length)), before)) := by
  obtain ⟨hlisted, announced, hannounced, htext⟩ := exists_signature_of_find? htable hname
  obtain ⟨definition, hnearest, hfunction⟩ := exists_function_of_lists (lists_of_mem_names hlisted)
  refine ⟨definition, announced, hlisted, hnearest, hfunction, hannounced, htext, ?_, ?_⟩
  · obtain rfl := Except.ok.inj ((signature_eq hnearest hfunction).symm.trans hannounced)
    exact answersAsAnnounced_iff hnearest hfunction before
  · intro arguments converted hconverted
    rw [callback_eq_conclude hconverted, invoke_eq hnearest hfunction]
    rfl

/-- A set with a method that takes a color and more, and with functions that cannot be called as announced: one that has
a keyword-only parameter, one that the instance has an attribute in place of, one without a parameter for the object,
one with the name of the options, and a static one with a parameter. -/
def toolbox : FunctionSet Nat where
  className := "Toolbox"
  initial := 0
  layers :=
    [[("blend", Scripted.method [.positional "color" none, .rest "others"] .bindings),
      ("fade", Scripted.method [.positional "color" none, .keywordOnly "amount" (some .null)] .bindings),
      ("glaze", Scripted.method [] .count),
      ("now", .method [] fun _ receiver => (.ok .null, receiver)),
      ("options", Scripted.method [] (.constant (.ok (.atom (.bool .legacy true))))),
      ("tint", Scripted.static [.positional "color" none] (.constant (.ok (.atom (.bool .legacy true)))))]]
  own? name _ := if name = "glaze" then some (Attribute.uncallable name) else none

def toolboxTable : FunctionTable :=
  [("blend($color, $others...)", "blend"), ("fade($color, $amount: null)", "fade"), ("glaze()", "glaze"),
    ("now()", "now"), ("options()", "options"), ("tint()", "tint")]

theorem table_toolbox : toolbox.table = .ok toolboxTable := by
  have hnames : toolbox.names = ["blend", "fade", "glaze", "now", "options", "tint"] :=
    names_of_ordered (by decide +kernel) (by decide +kernel)
  rw [FunctionSet.table, hnames]
  rfl

/-- Of two functions with one parameter for the compiler to see, the method is called as announced. -/
theorem called_as_announced_iff_toolbox :
    toolbox.table = .ok toolboxTable ∧
    (toolboxTable.find? "blend($color, $others...)" = some "blend" ∧
      ∃ definition announced, toolbox.nearest? "blend" = some definition ∧
        announced.toText = "blend($color, $others...)" ∧
        toolbox.AnswersAsAnnounced "blend" definition announced ⟨some [], 3⟩) ∧
    (toolboxTable.find? "tint()" = some "tint" ∧
      ∃ definition announced, toolbox.nearest? "tint" = some definition ∧ announced.toText = "tint()" ∧
        ¬toolbox.AnswersAsAnnounced "tint" definition announced ⟨some [], 3⟩) := by
  have hblend : toolboxTable.find? "blend($color, $others...)" = some "blend" := by decide
  have htint : toolboxTable.find? "tint()" = some "tint" := by decide
  refine ⟨table_toolbox, ⟨hblend, ?_⟩, htint, ?_⟩
  · obtain ⟨definition, announced, -, hnearest, -, -, htext, hanswers, -⟩ :=
      toolbox.called_as_announced_iff table_toolbox hblend ⟨some [], 3⟩
    refine ⟨definition, announced, hnearest, htext, hanswers.mpr ⟨rfl, ?_⟩⟩
    rw [← Option.some.inj hnearest]
    rfl
  · obtain ⟨definition, announced, -, hnearest, -, -, htext, hanswers, -⟩ :=
      toolbox.called_as_announced_iff table_toolbox htint ⟨some [], 3⟩
    refine ⟨definition, announced, hnearest, htext, fun hall => ?_⟩
    have htakes := (hanswers.mp hall).2
    rw [← Option.some.inj hnearest] at htakes
    cases htakes

/-- A call of a function is refused, and its body does not run. -/
def Refuses (set : FunctionSet σ) (name : String) (arguments : List Value) (before : Receiver σ) : Prop :=
  set.callback name arguments before =
    ⟨.error (.customFunction name (.refused (.call name arguments.length))), before,
      [.functionFailed name (.refused (.call name arguments.length))]⟩

/-- Calls that give each announced parameter one argument are refused for five functions. -/
theorem announced_calls_refused :
    toolbox.table = .ok toolboxTable ∧
    (Signature.ofParameters "fade" [.positional "color" none, .keywordOnly "amount" (some .null)]).leading.length = 2 ∧
    toolbox.Refuses "fade" [.atom (.null .compiler), .atom (.bool .compiler true)] ⟨some [], 3⟩ ∧
    toolbox.Refuses "glaze" [] ⟨some [], 3⟩ ∧ toolbox.Refuses "now" [] ⟨some [], 3⟩ ∧
    toolbox.Refuses "options" [] ⟨some [], 3⟩ ∧ toolbox.Refuses "tint" [] ⟨some [], 3⟩ :=
  ⟨table_toolbox, rfl, rfl, rfl, rfl, rfl, rfl⟩

end FunctionSet

end SassBridge
