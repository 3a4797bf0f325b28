import Mathlib.Data.List.Forall2

/-! Lists that are related element by element, and computations that go through a list and may fail. -/

namespace SassBridge.Lists

variable {α β γ : Type} {R : α → β → Prop} {S : β → γ → Prop} {as : List α} {bs : List β} {cs : List γ}

/-- Relations compose pair by pair, with what is known of the elements of the first list. -/
theorem forall₂_comp_of_mem {T : α → γ → Prop} (hcomp : ∀ a ∈ as, ∀ b c, R a b → S b c → T a c)
    (hR : List.Forall₂ R as bs) (hS : List.Forall₂ S bs cs) : List.Forall₂ T as cs := by
  induction hR generalizing cs with
  | nil =>
      cases hS
      exact .nil
  | cons hab _ ih =>
      cases hS with
      | cons hbc htail =>
          rw [List.forall_mem_cons] at hcomp
          exact .cons (hcomp.1 _ _ hab hbc) (ih hcomp.2 htail)

/-- What the elements of one list are related to is related. -/
theorem forall₂_of_common {S : α → γ → Prop} {T : β → γ → Prop} (hcommon : ∀ a ∈ as, ∀ b c, R a b → S a c → T b c)
    (hR : List.Forall₂ R as bs) (hS : List.Forall₂ S as cs) : List.Forall₂ T bs cs := by
  induction hR generalizing cs with
  | nil =>
      cases hS
      exact .nil
  | cons hab _ ih =>
      cases hS with
      | cons hac htail =>
          rw [List.forall_mem_cons] at hcommon
          exact .cons (hcommon.1 _ _ hab hac) (ih hcommon.2 htail)

/-- What is known of the elements of both lists may be used for each pair. -/
theorem forall₂_imp_of_mem {T : α → β → Prop} (himp : ∀ a ∈ as, ∀ b ∈ bs, R a b → T a b)
    (hR : List.Forall₂ R as bs) : List.Forall₂ T as bs := by
  induction hR with
  | nil => exact .nil
  | cons hab _ ih =>
      refine .cons (himp _ List.mem_cons_self _ List.mem_cons_self hab) (ih fun a ha b hb => ?_)
      exact himp a (List.mem_cons_of_mem _ ha) b (List.mem_cons_of_mem _ hb)

theorem forall₂_iff_of_mem {T : α → β → Prop} (hiff : ∀ a ∈ as, ∀ b ∈ bs, (R a b ↔ T a b)) :
    List.Forall₂ R as bs ↔ List.Forall₂ T as bs :=
  ⟨forall₂_imp_of_mem fun a ha b hb => (hiff a ha b hb).mp, forall₂_imp_of_mem fun a ha b hb => (hiff a ha b hb).mpr⟩

theorem map_eq_map_of_forall₂ {f : α → γ} {g : β → γ} (h : List.Forall₂ (fun a b => f a = g b) as bs) :
    as.map f = bs.map g := by
  rw [← List.forall₂_eq_eq_eq, List.forall₂_map_left_iff, List.forall₂_map_right_iff]
  exact h

theorem exists_mem_of_forall₂ (hR : List.Forall₂ R as bs) {b : β} (hb : b ∈ bs) : ∃ a ∈ as, R a b := by
  induction hR with
  | nil => cases hb
  | cons hab _ ih =>
      rcases List.mem_cons.mp hb with rfl | htail
      · exact ⟨_, List.mem_cons_self, hab⟩
      · obtain ⟨a, ha, hRa⟩ := ih htail
        exact ⟨a, List.mem_cons_of_mem _ ha, hRa⟩

theorem exists_forall₂_iff : (∃ bs, List.Forall₂ R as bs) ↔ ∀ a ∈ as, ∃ b, R a b := by
  constructor
  · rintro ⟨bs, hR⟩ a ha
    obtain ⟨b, -, hab⟩ := exists_mem_of_forall₂ hR.flip ha
    exact ⟨b, hab⟩
  · intro hR
    induction as with
    | nil => exact ⟨[], .nil⟩
    | cons a as ih =>
        rw [List.forall_mem_cons] at hR
        obtain ⟨b, hb⟩ := hR.1
        obtain ⟨bs, hbs⟩ := ih hR.2
        exact ⟨b :: bs, .cons hb hbs⟩

/-- A relation between the elements of a list carries over to the elements that they are related to. -/
theorem pairwise_of_forall₂ {P : α → α → Prop} {Q : β → β → Prop}
    (hcarry : ∀ a ∈ as, ∀ a' ∈ as, ∀ b b', R a b → R a' b' → P a a' → Q b b') (hR : List.Forall₂ R as bs)
    (hP : as.Pairwise P) : bs.Pairwise Q := by
  induction hR with
  | nil => exact .nil
  | @cons a b as bs hab htail ih =>
      rw [List.pairwise_cons] at hP
      refine List.pairwise_cons.mpr ⟨fun b' hb' => ?_, ih ?_ hP.2⟩
      · obtain ⟨a', ha', hab'⟩ := exists_mem_of_forall₂ htail hb'
        exact hcarry a List.mem_cons_self a' (List.mem_cons_of_mem _ ha') b b' hab hab' (hP.1 a' ha')
      · intro x hx y hy
        exact hcarry x (List.mem_cons_of_mem _ hx) y (List.mem_cons_of_mem _ hy)

theorem nodup_eraseDups [BEq α] [LawfulBEq α] (as : List α) : as.eraseDups.Nodup := by
  induction hlength : as.length using Nat.strongRecOn generalizing as with
  | ind length ih =>
    cases as with
    | nil => exact List.nodup_nil
    | cons a as =>
        rw [List.eraseDups_cons, List.nodup_cons]
        refine ⟨by simp, ih _ ?_ _ rfl⟩
        rw [← hlength, List.length_cons]
        exact Nat.lt_succ_of_le (List.length_filter_le _ as)

section FindSome

theorem findSome?_flatMap (f : β → Option γ) (g : α → List β) (as : List α) :
    (as.flatMap g).findSome? f = as.findSome? fun a => (g a).findSome? f := by
  induction as with
  | nil => rfl
  | cons a as ih =>
      rw [List.flatMap_cons, List.findSome?_append, ih, List.findSome?_cons]
      cases (g a).findSome? f <;> rfl

theorem findSome?_congr {f g : α → Option β} {as : List α} (h : ∀ a ∈ as, f a = g a) :
    as.findSome? f = as.findSome? g := by
  induction as with
  | nil => rfl
  | cons a as ih =>
      rw [List.forall_mem_cons] at h
      rw [List.findSome?_cons, List.findSome?_cons, h.1, ih h.2]

/-- What is found is what the first element that gives something gives. -/
theorem findSome?_eq_bind_find? (f : α → Option β) (as : List α) :
    as.findSome? f = (as.find? fun a => (f a).isSome).bind f := by
  induction as with
  | nil => rfl
  | cons a as ih =>
      rw [List.findSome?_cons, List.find?_cons]
      cases ha : f a with
      | none => exact ih
      | some b => exact ha.symm

end FindSome

theorem mapM_eq_some_iff {f : α → Option β} :
    as.mapM f = some bs ↔ List.Forall₂ (fun a b => f a = some b) as bs := by
  induction as generalizing bs with
  | nil => cases bs <;> simp
  | cons a as ih =>
      simp only [List.mapM_cons, Option.bind_eq_bind, Option.bind_eq_some_iff, List.forall₂_cons_left_iff, ih]
      constructor
      · rintro ⟨b, hb, bs, hbs, hresult⟩
        exact ⟨b, bs, hb, hbs, (Option.some.inj hresult).symm⟩
      · rintro ⟨b, bs, hb, hbs, rfl⟩
        exact ⟨b, hb, bs, hbs, rfl⟩

section Computations

variable {ε : Type}

theorem bind_ok_iff {first : Except ε α} {next : α → Except ε β} {b : β} :
    first >>= next = .ok b ↔ ∃ a, first = .ok a ∧ next a = .ok b := by
  cases first <;> simp [bind, Except.bind]

theorem return_ok_iff {first : Except ε α} {g : α → β} {b : β} :
    (do return g (← first)) = .ok b ↔ ∃ a, first = .ok a ∧ b = g a := by
  rw [bind_ok_iff]
  refine exists_congr fun a => and_congr_right fun _ => ?_
  exact ⟨fun h => (Except.ok.inj h).symm, fun h => by rw [h]; rfl⟩

theorem exists_error_of_isOk {outcome : Except ε α} (houtcome : outcome.isOk = false) :
    ∃ failure, outcome = .error failure := by
  cases outcome with
  | error failure => exact ⟨failure, rfl⟩
  | ok value => cases houtcome

theorem exists_ok_of_isOk {outcome : Except ε α} (houtcome : outcome.isOk) : ∃ value, outcome = .ok value := by
  cases outcome with
  | error failure => cases houtcome
  | ok value => exact ⟨value, rfl⟩

theorem mapM_ok_iff {f : α → Except ε β} : as.mapM f = .ok bs ↔ List.Forall₂ (fun a b => f a = .ok b) as bs := by
  induction as generalizing bs with
  | nil => cases bs <;> simp [pure, Except.pure]
  | cons a as ih =>
      simp only [List.mapM_cons, bind_ok_iff, List.forall₂_cons_left_iff, ih]
      constructor
      · rintro ⟨b, hb, bs, hbs, hresult⟩
        exact ⟨b, bs, hb, hbs, (Except.ok.inj hresult).symm⟩
      · rintro ⟨b, bs, hb, hbs, rfl⟩
        exact ⟨b, hb, bs, hbs, rfl⟩

theorem bind_error_iff {first : Except ε α} {next : α → Except ε β} {failure : ε} :
    first >>= next = .error failure ↔ first = .error failure ∨ ∃ a, first = .ok a ∧ next a = .error failure := by
  cases first <;> simp [bind, Except.bind]

theorem return_error_iff {first : Except ε α} {g : α → β} {failure : ε} :
    (do return g (← first)) = .error failure ↔ first = .error failure := by
  rw [bind_error_iff]
  simp [pure, Except.pure]

/-- The failure is that of the first element that fails. -/
theorem mapM_error_iff {f : α → Except ε β} {failure : ε} :
    as.mapM f = .error failure ↔ ∃ earlier a later, as = earlier ++ a :: later ∧
      (∀ other ∈ earlier, ∃ b, f other = .ok b) ∧ f a = .error failure := by
  induction as with
  | nil => simp [pure, Except.pure]
  | cons a as ih =>
      simp only [List.mapM_cons, bind_error_iff]
      constructor
      · rintro (hfirst | ⟨b, hb, hrest | ⟨bs, -, hreturn⟩⟩)
        · exact ⟨[], a, as, rfl, nofun, hfirst⟩
        · obtain ⟨earlier, bad, later, rfl, hearlier, hbad⟩ := ih.mp hrest
          exact ⟨a :: earlier, bad, later, rfl, List.forall_mem_cons.mpr ⟨⟨b, hb⟩, hearlier⟩, hbad⟩
        · cases hreturn
      · rintro ⟨earlier, bad, later, has, hearlier, hbad⟩
        cases earlier with
        | nil =>
            obtain ⟨rfl, rfl⟩ := List.cons.inj has
            exact Or.inl hbad
        | cons first earlier =>
            obtain ⟨rfl, rfl⟩ := List.cons.inj has
            rw [List.forall_mem_cons] at hearlier
            obtain ⟨⟨b, hb⟩, hearlier⟩ := hearlier
            exact Or.inr ⟨b, hb, Or.inl (ih.mpr ⟨earlier, bad, later, rfl, hearlier, hbad⟩)⟩

theorem exists_return_ok_iff {first : Except ε α} {g : α → β} :
    (∃ b, (do return g (← first)) = Except.ok b) ↔ ∃ a, first = .ok a := by
  cases first <;> simp [bind, Except.bind, pure, Except.pure]

/-- Where it does not depend on the first value whether the second computation succeeds. -/
theorem exists_bind_ok_iff {first : Except ε α} {next : α → Except ε β} {P : Prop}
    (hnext : ∀ a, (∃ b, next a = .ok b) ↔ P) :
    (∃ b, first >>= next = .ok b) ↔ (∃ a, first = .ok a) ∧ P := by
  cases first with
  | error failure => simp [bind, Except.bind]
  | ok a => simpa [bind, Except.bind] using hnext a

/-- The failure of a computation that fails. -/
def failure? : Except ε α → Option ε
  | .error failure => some failure
  | .ok _ => none

theorem failure?_eq_some_iff {outcome : Except ε α} {failure : ε} :
    failure? outcome = some failure ↔ outcome = .error failure := by
  cases outcome <;> simp [failure?]

theorem exists_ok_iff {outcome : Except ε α} : (∃ a, outcome = .ok a) ↔ failure? outcome = none := by
  cases outcome <;> simp [failure?]

theorem failure?_return (first : Except ε α) (g : α → β) : failure? (do return g (← first)) = failure? first := by
  cases first <;> rfl

theorem failure?_pair (first : Except ε α) (second : Except ε β) :
    failure? (do return (← first, ← second)) = (failure? first).or (failure? second) := by
  cases first with
  | error failure => rfl
  | ok a => exact failure?_return second fun b => (a, b)

theorem failure?_mapM (f : α → Except ε β) (as : List α) :
    failure? (as.mapM f) = as.findSome? fun a => failure? (f a) := by
  induction as with
  | nil => rfl
  | cons a as ih =>
      rw [List.mapM_cons, List.findSome?_cons, ← ih]
      cases f a with
      | error failure => rfl
      | ok b => exact failure?_return (as.mapM f) (b :: ·)

end Computations

end SassBridge.Lists
