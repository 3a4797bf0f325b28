import SassBridge.Proofs.Assoc
import SassBridge.Proofs.Value.Conversion
import SassBridge.Scripted.Functions
import SassBridge.Session

/-! How calls of custom functions end. Three things can fail: the conversion of an argument, the function, and the
conversion of what it gives. Only a failure of the function is reported as its own, whatever its kind, and nothing but
the function changes the instance. -/

namespace SassBridge

variable {σ ι : Type}

namespace Value

/-- Toward the legacy family each failure is one of conversion. -/
theorem kind_of_toLegacy {value : Value} {failure : Failure} (hfailure : value.toLegacy = .error failure) :
    failure.kind = .valueConversion := by
  induction value using Value.induction generalizing failure with
  | atom value =>
      rw [toLegacy_atom, Lists.return_error_iff] at hfailure
      unfold Atom.toLegacy at hfailure
      split at hfailure <;> cases hfailure
      rfl
  | list side elements separator bracketed ih =>
      cases side with
      | legacy =>
          simp only [toLegacy, Except.error.injEq] at hfailure
          rw [← hfailure]
          rfl
      | compiler =>
          rw [toLegacy] at hfailure
          split at hfailure
          · rw [elementsToLegacy_eq, Lists.return_error_iff, Lists.mapM_error_iff] at hfailure
            obtain ⟨earlier, element, later, rfl, -, helement⟩ := hfailure
            exact ih element (by simp) helement
          · cases hfailure
            rfl
  | map side entries ih =>
      cases side with
      | legacy =>
          simp only [toLegacy, Except.error.injEq] at hfailure
          rw [← hfailure]
          rfl
      | compiler =>
          rw [toLegacy, entriesToLegacy_eq, Lists.return_error_iff, Lists.mapM_error_iff] at hfailure
          obtain ⟨earlier, entry, later, rfl, -, hentry⟩ := hfailure
          obtain ⟨hkey, hvalue⟩ := ih entry (by simp)
          rw [Lists.bind_error_iff] at hentry
          rcases hentry with hfirst | ⟨key, -, hsecond⟩
          · exact hkey hfirst
          · rw [Lists.return_error_iff] at hsecond
            exact hvalue hsecond

end Value

namespace FunctionSet

variable {set : FunctionSet σ} {table : FunctionTable} {signature name : String}

theorem lists_of_mem_names (hname : name ∈ set.names) : set.lists name = true := by
  rw [names, List.mem_mergeSort, List.mem_eraseDups, List.mem_filter] at hname
  exact hname.2

/-- Names that are defined in order are listed as they are defined. -/
theorem names_of_ordered {ordered : List String}
    (hlisted : ((set.layers.flatMap (·.map Prod.fst)).filter set.lists).eraseDups = ordered)
    (hordered : ordered.Pairwise fun a b => decide (a ≤ b) = true) : set.names = ordered := by
  rw [names, hlisted]
  exact List.mergeSort_of_pairwise hordered

/-- A signature of a table is that of the function that it stands for. -/
theorem exists_signature_of_find? (htable : set.table = .ok table) (hname : table.find? signature = some name) :
    name ∈ set.names ∧ ∃ announced, set.signature name = .ok announced ∧ announced.toText = signature := by
  rw [FunctionSet.table, Lists.return_ok_iff] at htable
  obtain ⟨rows, hrows, rfl⟩ := htable
  rw [Lists.mapM_ok_iff] at hrows
  rcases Assoc.mem_of_mem_insertAll (Assoc.mem_of_find? hname) with hnone | hrow
  · cases hnone
  · obtain ⟨listed, hlisted, hsigned⟩ := Lists.exists_mem_of_forall₂ hrows hrow
    obtain ⟨announced, hannounced, hpair⟩ := Lists.return_ok_iff.mp hsigned
    obtain ⟨rfl, rfl⟩ := Prod.mk.inj hpair
    exact ⟨hlisted, announced, hannounced, rfl⟩

/-- What a table calls by a signature is a function of the set. -/
theorem lists_of_find? (htable : set.table = .ok table) (hname : table.find? signature = some name) :
    set.lists name = true :=
  lists_of_mem_names (exists_signature_of_find? htable hname).1

theorem exists_function_of_lists (hlists : set.lists name = true) :
    ∃ definition, set.nearest? name = some definition ∧ definition.isFunction = true := by
  rw [lists, Bool.and_eq_true, Option.any_eq_true] at hlists
  obtain ⟨definition, hnearest, hfunction⟩ := hlists.2
  exact ⟨definition, hnearest, hfunction⟩

end FunctionSet

theorem Held.update_receiver (held : Held σ) (bag : Bag) : held.update bag (held.receiver bag) = (held, bag) := by
  obtain ⟨state, options⟩ := held
  cases options <;> rfl

namespace FunctionSet

/-- How a call ends. -/
inductive CallEnding (σ : Type) where
  /-- An argument does not convert. -/
  | refusedArgument (failure : Failure)
  /-- The function fails. -/
  | failed (failure : Failure) (after : Receiver σ)
  /-- The function wants the process to exit. -/
  | exited (failure : Failure) (after : Receiver σ)
  /-- What the function gives does not convert. -/
  | refusedResult (failure : Failure) (after : Receiver σ)
  | answered (value : Value) (after : Receiver σ)

/-- What a call with an ending answers, leaves and reports. -/
def CallEnding.outcome (name : String) (before : Receiver σ) : CallEnding σ → CallOutcome σ
  | refusedArgument failure => ⟨.error failure, before, []⟩
  | failed failure after => ⟨.error (.customFunction name failure), after, [.functionFailed name failure]⟩
  | exited failure after | refusedResult failure after => ⟨.error failure, after, []⟩
  | answered value after => ⟨.ok value, after, []⟩

variable {set : FunctionSet σ} {name : String} {arguments converted : List Value} {before after : Receiver σ}
  {failure : Failure}

/-- When a call ends in what way. -/
inductive Ends (set : FunctionSet σ) (name : String) (arguments : List Value) (before : Receiver σ) :
    CallEnding σ → Prop where
  | refusedArgument {earlier later : List Value} {argument : Value} {failure : Failure}
      (harguments : arguments = earlier ++ argument :: later)
      (hearlier : ∀ other ∈ earlier, ∃ converted, other.toLegacy = .ok converted)
      (hargument : argument.toLegacy = .error failure) : Ends set name arguments before (.refusedArgument failure)
  | failed {converted : List Value} {failure : Failure} {after : Receiver σ}
      (hconverted : List.Forall₂ (fun value part => value.toLegacy = .ok part) arguments converted)
      (hcall : set.invoke name converted before = (.error failure, after)) (hkind : failure.kind ≠ .systemExit) :
      Ends set name arguments before (.failed failure after)
  | exited {converted : List Value} {failure : Failure} {after : Receiver σ}
      (hconverted : List.Forall₂ (fun value part => value.toLegacy = .ok part) arguments converted)
      (hcall : set.invoke name converted before = (.error failure, after)) (hkind : failure.kind = .systemExit) :
      Ends set name arguments before (.exited failure after)
  | refusedResult {converted : List Value} {result : Value} {failure : Failure} {after : Receiver σ}
      (hconverted : List.Forall₂ (fun value part => value.toLegacy = .ok part) arguments converted)
      (hcall : set.invoke name converted before = (.ok result, after))
      (hresult : result.toCompiler = .error failure) : Ends set name arguments before (.refusedResult failure after)
  | answered {converted : List Value} {result value : Value} {after : Receiver σ}
      (hconverted : List.Forall₂ (fun value part => value.toLegacy = .ok part) arguments converted)
      (hcall : set.invoke name converted before = (.ok result, after)) (hresult : result.toCompiler = .ok value) :
      Ends set name arguments before (.answered value after)

/-- The ending of a call. -/
def ending (set : FunctionSet σ) (name : String) (arguments : List Value) (before : Receiver σ) : CallEnding σ :=
  match Value.elementsToLegacy arguments with
  | .error failure => .refusedArgument failure
  | .ok converted =>
    match set.invoke name converted before with
    | (.error failure, after) => if failure.kind = .systemExit then .exited failure after else .failed failure after
    | (.ok result, after) =>
      match result.toCompiler with
      | .error failure => .refusedResult failure after
      | .ok value => .answered value after

theorem elementsToLegacy_ok_iff : Value.elementsToLegacy arguments = .ok converted ↔
    List.Forall₂ (fun value part => value.toLegacy = .ok part) arguments converted := by
  rw [Value.elementsToLegacy_eq, Lists.mapM_ok_iff]

theorem elementsToLegacy_error_iff : Value.elementsToLegacy arguments = .error failure ↔
    ∃ earlier argument later, arguments = earlier ++ argument :: later ∧
      (∀ other ∈ earlier, ∃ converted, other.toLegacy = .ok converted) ∧ argument.toLegacy = .error failure := by
  rw [Value.elementsToLegacy_eq, Lists.mapM_error_iff]

theorem ends_ending (set : FunctionSet σ) (name : String) (arguments : List Value) (before : Receiver σ) :
    set.Ends name arguments before (set.ending name arguments before) := by
  rw [ending]
  split
  · next failure hconverted =>
      obtain ⟨earlier, argument, later, harguments, hearlier, hargument⟩ := elementsToLegacy_error_iff.mp hconverted
      exact .refusedArgument harguments hearlier hargument
  · next converted hconverted =>
      have hall := elementsToLegacy_ok_iff.mp hconverted
      split
      · next failure after hcall =>
          split
          · next hkind => exact .exited hall hcall hkind
          · next hkind => exact .failed hall hcall hkind
      · next result after hcall =>
          split
          · next failure hresult => exact .refusedResult hall hcall hresult
          · next value hresult => exact .answered hall hcall hresult

theorem eq_ending_of_ends {ended : CallEnding σ} (hends : set.Ends name arguments before ended) :
    ended = set.ending name arguments before := by
  cases hends with
  | refusedArgument harguments hearlier hargument =>
      rw [ending, elementsToLegacy_error_iff.mpr ⟨_, _, _, harguments, hearlier, hargument⟩]
  | failed hconverted hcall hkind =>
      simp only [ending, elementsToLegacy_ok_iff.mpr hconverted, hcall, if_neg hkind]
  | exited hconverted hcall hkind =>
      simp only [ending, elementsToLegacy_ok_iff.mpr hconverted, hcall, if_pos hkind]
  | refusedResult hconverted hcall hresult =>
      simp only [ending, elementsToLegacy_ok_iff.mpr hconverted, hcall, hresult]
  | answered hconverted hcall hresult =>
      simp only [ending, elementsToLegacy_ok_iff.mpr hconverted, hcall, hresult]

/-- The ending of a call says all that the call does. -/
theorem callback_eq_outcome (set : FunctionSet σ) (name : String) (arguments : List Value) (before : Receiver σ) :
    set.callback name arguments before = (set.ending name arguments before).outcome name before := by
  cases hconverted : Value.elementsToLegacy arguments with
  | error failure => simp only [callback, ending, hconverted, CallEnding.outcome]
  | ok converted =>
      rcases hcall : set.invoke name converted before with ⟨failure | result, after⟩
      · by_cases hkind : failure.kind = .systemExit
        · simp [callback, ending, hconverted, hcall, hkind, FailureKind.isOrdinary, CallEnding.outcome]
        · simp [callback, ending, hconverted, hcall, hkind, FailureKind.isOrdinary, CallEnding.outcome]
      · cases hresult : result.toCompiler with
        | error failure => simp only [callback, ending, hconverted, hcall, hresult, CallEnding.outcome]
        | ok value => simp only [callback, ending, hconverted, hcall, hresult, CallEnding.outcome]

theorem callback_eq_of_ends {ended : CallEnding σ} (hends : set.Ends name arguments before ended) :
    set.callback name arguments before = ended.outcome name before := by
  rw [eq_ending_of_ends hends, callback_eq_outcome]

/-- An argument that does not convert is found before anyone looks at the set. -/
theorem callback_of_refusedArgument (hends : set.Ends name arguments before (.refusedArgument failure))
    (other : FunctionSet σ) : other.callback name arguments before = ⟨.error failure, before, []⟩ := by
  cases hends with
  | refusedArgument harguments hearlier hargument =>
      exact callback_eq_of_ends (.refusedArgument harguments hearlier hargument)

end FunctionSet

namespace Session

variable {session : Session σ ι} {signature name : String}

/-- A session answers a call as the callback does, and keeps what the callback reports. -/
theorem call_eq (hname : session.functions.table.find? signature = some name) (arguments : List Value) :
    let before := session.functions.held.receiver session.bag
    let outcome := session.functions.set.callback name arguments before
    (session.call signature arguments).1 = outcome.answer.map .value ∧
    (session.call signature arguments).2.journal = session.journal ++ outcome.events.map .reported ∧
    (outcome.receiver = before → outcome.events = [] → (session.call signature arguments).2 = session) := by
  intro before outcome
  simp only [call, hname]
  refine ⟨rfl, rfl, fun hreceiver hevents => ?_⟩
  have hupdate : session.functions.held.update session.bag outcome.receiver =
      (session.functions.held, session.bag) := by
    rw [hreceiver, Held.update_receiver]
  simp only [outcome, before] at hupdate hevents
  rw [hupdate, hevents]
  simp [note]

end Session

namespace FunctionSet

/-- A set with one function, which takes one argument and counts its calls. -/
def palette : FunctionSet Nat :=
  Scripted.functionSet "Palette" [[("shade", Scripted.method [.positional "color" none] .count)]]

end FunctionSet

end SassBridge
