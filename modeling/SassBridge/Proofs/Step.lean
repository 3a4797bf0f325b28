import SassBridge.Step

/-! Laws of steps, and what a step leaves as it was. -/

namespace SassBridge.Step

variable {S T U V α β : Type}

theorem run_bind_of_ok {step : Step S α} {state after : S} {value : α} (hstep : step.run state = (.ok value, after))
    (next : α → Step S β) : (step >>= next).run state = (next value).run after := by
  rw [run] at hstep
  simp only [run, bind, hstep]

theorem run_bind_of_error {step : Step S α} {state after : S} {failure : Failure}
    (hstep : step.run state = (.error failure, after)) (next : α → Step S β) :
    (step >>= next).run state = (.error failure, after) := by
  rw [run] at hstep
  simp only [run, bind, hstep]

theorem outcome_bind_of_error {step : Step S α} {state : S} {failure : Failure}
    (hstep : (step.run state).1 = .error failure) (next : α → Step S β) :
    ((step >>= next).run state).1 = .error failure :=
  congrArg Prod.fst (run_bind_of_error (Prod.ext hstep rfl) next)

theorem run_bind_congr {step other : Step S α} {state : S} (hsame : step.run state = other.run state)
    (next : α → Step S β) : (step >>= next).run state = (other >>= next).run state := by
  rw [run, run] at hsame
  simp only [run, bind, hsame]

theorem exists_of_run_bind_ok {step : Step S α} {next : α → Step S β} {state after : S} {value : β}
    (hrun : (step >>= next).run state = (.ok value, after)) :
    ∃ first between, step.run state = (.ok first, between) ∧ (next first).run between = (.ok value, after) := by
  rcases hstep : step.run state with ⟨failure | first, between⟩
  · rw [run_bind_of_error hstep] at hrun
    cases hrun
  · rw [run_bind_of_ok hstep] at hrun
    exact ⟨first, between, rfl, hrun⟩

theorem exists_of_run_ofExcept_bind_ok {outcome : Except Failure α} {next : α → Step S β} {state after : S} {value : β}
    (hrun : (Step.ofExcept outcome >>= next).run state = (.ok value, after)) :
    ∃ first, outcome = .ok first ∧ (next first).run state = (.ok value, after) := by
  cases outcome with
  | error failure => cases hrun
  | ok first => exact ⟨first, rfl, hrun⟩

theorem run_get_bind (next : S → Step S α) (state : S) : (Step.get >>= next).run state = (next state).run state :=
  rfl

theorem map_same (step : Step S α) : (fun value => value) <$> step = step := by
  funext state
  rcases hstep : step state with ⟨_ | value, after⟩ <;> simp only [Functor.map, Function.comp, hstep]

theorem bind_bind (step : Step S α) (next : α → Step S β) (last : β → Step S T) :
    step >>= next >>= last = step >>= fun value => next value >>= last := by
  funext state
  rcases hstep : step state with ⟨_ | value, after⟩ <;> simp only [bind, hstep]

instance : LawfulMonad (Step S) :=
  .mk' _ map_same (fun _ _ => rfl) bind_bind

/-- Whether a step leaves a view of the state as it was, be it that it fails or not. -/
def Keeps (view : S → T) (step : Step S α) : Prop :=
  ∀ state, view (step.run state).2 = view state

namespace Keeps

variable {view : S → T}

theorem pure (value : α) : (Pure.pure value : Step S α).Keeps view :=
  fun _ => rfl

theorem get : (Step.get : Step S S).Keeps view :=
  fun _ => rfl

theorem fail (failure : Failure) : (Step.fail failure : Step S α).Keeps view :=
  fun _ => rfl

theorem ofExcept (outcome : Except Failure α) : (Step.ofExcept outcome : Step S α).Keeps view :=
  fun _ => rfl

theorem modify {change : S → S} (hchange : ∀ state, view (change state) = view state) :
    (Step.modify change).Keeps view :=
  hchange

/-- Where a next step keeps the view, only the first step changes it. -/
theorem view_run_bind (view : S → T) {step : Step S α} {next : α → Step S β} {state : S}
    (hnext : ∀ value after, step.run state = (.ok value, after) → view ((next value).run after).2 = view after) :
    view ((step >>= next).run state).2 = view (step.run state).2 := by
  rcases hrun : step.run state with ⟨failure | value, after⟩
  · rw [run_bind_of_error hrun]
  · rw [run_bind_of_ok hrun]
    exact hnext value after hrun

theorem bind_of_run {step : Step S α} {next : α → Step S β} (hstep : step.Keeps view)
    (hnext : ∀ state value after, step.run state = (.ok value, after) → view ((next value).run after).2 = view after) :
    (step >>= next).Keeps view :=
  fun state => (view_run_bind view (hnext state)).trans (hstep state)

theorem bind {step : Step S α} {next : α → Step S β} (hstep : step.Keeps view)
    (hnext : ∀ value, (next value).Keeps view) : (step >>= next).Keeps view :=
  hstep.bind_of_run fun _ value after _ => hnext value after

/-- A step on a part keeps what depends on the part by what that step keeps. -/
theorem onPart {whole : U → V} {part : U → S} {replace : S → U → U} {step : Step S α} (hstep : step.Keeps view)
    (hreplace : ∀ state world, view state = view (part world) → whole (replace state world) = whole world) :
    (step.onPart part replace).Keeps whole :=
  fun world => hreplace _ world (hstep (part world))

end Keeps

/-- Whether a step cannot tell related states apart: it comes to the same in both and leaves related ones. -/
def Agrees (related : S → S → Prop) (step : Step S α) : Prop :=
  ∀ state other, related state other →
    (step.run state).1 = (step.run other).1 ∧ related (step.run state).2 (step.run other).2

namespace Agrees

variable {related : S → S → Prop}

theorem pure (value : α) : (Pure.pure value : Step S α).Agrees related :=
  fun _ _ hrelated => ⟨rfl, hrelated⟩

theorem fail (failure : Failure) : (Step.fail failure : Step S α).Agrees related :=
  fun _ _ hrelated => ⟨rfl, hrelated⟩

theorem ofExcept (outcome : Except Failure α) : (Step.ofExcept outcome : Step S α).Agrees related :=
  fun _ _ hrelated => ⟨rfl, hrelated⟩

theorem modify {change : S → S} (hchange : ∀ state other, related state other → related (change state) (change other)) :
    (Step.modify change).Agrees related :=
  fun state other hrelated => ⟨rfl, hchange state other hrelated⟩

theorem bind {step : Step S α} {next : α → Step S β} (hstep : step.Agrees related)
    (hnext : ∀ value, (next value).Agrees related) : (step >>= next).Agrees related := by
  intro state other hrelated
  obtain ⟨houtcome, hafter⟩ := hstep state other hrelated
  rcases hrun : step.run state with ⟨outcome, after⟩
  rcases hother : step.run other with ⟨outcome', after'⟩
  rw [hrun, hother] at houtcome hafter
  obtain rfl : outcome = outcome' := houtcome
  cases outcome with
  | error failure =>
      rw [run_bind_of_error hrun, run_bind_of_error hother]
      exact ⟨rfl, hafter⟩
  | ok value =>
      rw [run_bind_of_ok hrun, run_bind_of_ok hother]
      exact hnext value after after' hafter

/-- A step may look at the state as long as it goes on in the same way. -/
theorem get_bind {next : S → Step S α} (hsame : ∀ state other, related state other → next state = next other)
    (hnext : ∀ state, (next state).Agrees related) : (Step.get >>= next).Agrees related := by
  intro state other hrelated
  rw [run_get_bind, run_get_bind, ← hsame state other hrelated]
  exact hnext state state other hrelated

end Agrees

end SassBridge.Step
