import VoxelEngine.Transition.Run

/-!
# Runs of two systems side by side

A system can be compared with another one that takes the same actions and is simpler.  As long as
the actions of the first are safe, both go on or neither does, and related states stay related.
Whether all actions are safe can then be told from the second system alone.
-/

namespace VoxelEngine.Transition

universe u v w

variable {σ : Type u} {τ : Type w} {α : Type v}

theorem rel_mono {related weaker : σ → τ → Prop} {state : Option σ} {other : Option τ}
    (weaken : ∀ state other, related state other → weaker state other)
    (rel : Option.Rel related state other) : Option.Rel weaker state other := by
  cases rel with
  | some held => exact Option.Rel.some (weaken _ _ held)
  | none => exact Option.Rel.none

/-- Both systems go on in related states, or neither goes on. -/
def StepsTogether (first : Step σ α) (second : Step τ α) (related : σ → τ → Prop) (state : σ)
    (other : τ) (action : α) : Prop :=
  Option.Rel related (first state action) (second other action)

section Together

variable {first : Step σ α} {second : Step τ α} {related : σ → τ → Prop} {state next : σ}
  {other otherNext : τ} {action : α}

theorem StepsTogether.forward (together : StepsTogether first second related state other action)
    (stepEq : first state action = some next) :
    ∃ otherNext, second other action = some otherNext ∧ related next otherNext := by
  rw [StepsTogether, stepEq] at together
  cases secondEq : second other action with
  | none =>
      rw [secondEq] at together
      cases together
  | some otherNext =>
      rw [secondEq] at together
      cases together with
      | some nextRelated => exact ⟨otherNext, rfl, nextRelated⟩

theorem StepsTogether.backward (together : StepsTogether first second related state other action)
    (stepEq : second other action = some otherNext) :
    ∃ next, first state action = some next ∧ related next otherNext := by
  rw [StepsTogether, stepEq] at together
  cases firstEq : first state action with
  | none =>
      rw [firstEq] at together
      cases together
  | some next =>
      rw [firstEq] at together
      cases together with
      | some nextRelated => exact ⟨next, rfl, nextRelated⟩

/-- If an action is safe exactly when it meets a guard of the second system, and safe actions keep
the states related, then every action taken by the first system is safe exactly when the run of the
second one is guarded. -/
theorem taken_iff_guarded_of_simulation {safe : σ → α → Prop} {guard : τ → α → Prop}
    (exact_step : ∀ state other action, related state other →
      (safe state action ↔ guard other action))
    (together : ∀ state other action, related state other → safe state action →
      StepsTogether first second related state other action)
    {actions : List α} (start : related state other) :
    (∀ before action after middle, actions = before ++ action :: after →
        run first state before = some middle → safe middle action) ↔
      Guarded second guard other actions := by
  rw [taken_iff_reached]
  induction actions generalizing state other with
  | nil => exact iff_of_true (reached_nil nofun) trivial
  | cons action rest ih =>
      have here := exact_step state other action start
      rw [guarded_cons_iff]
      constructor
      · intro taken
        rcases reached_cons_iff.mp taken with ⟨hereSafe, later⟩
        have safeHere := hereSafe action rest rfl
        refine ⟨here.mp safeHere, ?_⟩
        intro otherNext otherEq
        rcases (together state other action start safeHere).backward otherEq with
          ⟨next, stepEq, nextRelated⟩
        exact (ih nextRelated).mp (later next stepEq)
      · rintro ⟨met, later⟩
        have safeHere := here.mpr met
        refine reached_cons_iff.mpr ⟨?_, ?_⟩
        · intro taken others split_eq
          rcases List.cons.inj split_eq with ⟨rfl, _⟩
          exact safeHere
        · intro next stepEq
          rcases (together state other action start safeHere).forward stepEq with
            ⟨otherNext, otherEq, nextRelated⟩
          exact (ih nextRelated).mpr (later otherNext otherEq)

/-- Either both systems go on, or neither does. -/
theorem StepsTogether.cases (together : StepsTogether first second related state other action) :
    (first state action = none ∧ second other action = none) ∨
      ∃ next otherNext, first state action = some next ∧ second other action = some otherNext ∧
        related next otherNext := by
  cases firstEq : first state action with
  | none =>
      rw [StepsTogether, firstEq] at together
      cases secondEq : second other action with
      | none => exact Or.inl ⟨rfl, rfl⟩
      | some otherNext =>
          rw [secondEq] at together
          cases together
  | some next =>
      rcases together.forward firstEq with ⟨otherNext, secondEq, nextRelated⟩
      exact Or.inr ⟨next, otherNext, rfl, secondEq, nextRelated⟩

/-- If the systems step together exactly when the action meets a guard, then they run together
exactly when the run is guarded. -/
theorem together_throughout_iff_guarded {guard : σ → α → Prop}
    (exact_step : ∀ state other action, related state other →
      (StepsTogether first second related state other action ↔ guard state action))
    {actions : List α} (start : related state other) :
    (∀ before after, actions = before ++ after →
        Option.Rel related (run first state before) (run second other before)) ↔
      Guarded first guard state actions := by
  induction actions generalizing state other with
  | nil =>
      apply iff_of_true _ trivial
      intro before after split_eq
      rw [(List.nil_eq_append_iff.mp split_eq).1]
      exact Option.Rel.some start
  | cons action rest ih =>
      have here := exact_step state other action start
      rw [guarded_cons_iff]
      constructor
      · intro throughout
        have together : StepsTogether first second related state other action := by
          have single := throughout [action] rest rfl
          rw [run_cons, run_cons] at single
          simp only [run_nil, Option.bind_fun_some] at single
          exact single
        refine ⟨here.mp together, ?_⟩
        intro next stepEq
        rcases together.forward stepEq with ⟨otherNext, otherEq, nextRelated⟩
        apply (ih nextRelated).mp
        intro before after split_eq
        have longer := throughout (action :: before) after (by rw [split_eq, List.cons_append])
        rw [run_cons, run_cons, stepEq, otherEq] at longer
        exact longer
      · rintro ⟨met, later⟩ before after split_eq
        cases before with
        | nil => exact Option.Rel.some start
        | cons head others =>
            rcases List.cons.inj split_eq with ⟨rfl, others_eq⟩
            rw [run_cons, run_cons]
            rcases (here.mpr met).cases with ⟨stepEq, otherEq⟩ | ⟨next, otherNext, stepEq, otherEq,
              nextRelated⟩
            · rw [stepEq, otherEq]
              exact Option.Rel.none
            · rw [stepEq, otherEq]
              exact (ih nextRelated).mpr (later next stepEq) others after others_eq

/-- Systems that step together where a guard is met run together along guarded runs. -/
theorem runs_together_of_guarded {guard : σ → α → Prop}
    (steps : ∀ state other action, related state other → guard state action →
      StepsTogether first second related state other action)
    (start : related state other) {actions : List α}
    (guarded : Guarded first guard state actions) :
    Option.Rel related (run first state actions) (run second other actions) := by
  induction actions generalizing state other with
  | nil => exact Option.Rel.some start
  | cons action rest ih =>
      rcases guarded_cons_iff.mp guarded with ⟨met, later⟩
      rw [run_cons, run_cons]
      rcases (steps state other action start met).cases with ⟨stepEq, otherEq⟩ | ⟨next, otherNext,
        stepEq, otherEq, nextRelated⟩
      · rw [stepEq, otherEq]
        exact Option.Rel.none
      · rw [stepEq, otherEq]
        exact ih nextRelated (later next stepEq)

/-- What holds of the next state of the first system can be added to the relation. -/
theorem StepsTogether.and_of_step {kept : σ → Prop}
    (together : StepsTogether first second related state other action)
    (holds : ∀ next, first state action = some next → kept next) :
    StepsTogether first second (fun state other => related state other ∧ kept state) state other
      action := by
  rcases together.cases with ⟨stepEq, otherEq⟩ | ⟨next, otherNext, stepEq, otherEq, nextRelated⟩
  · rw [StepsTogether, stepEq, otherEq]
    exact Option.Rel.none
  · rw [StepsTogether, stepEq, otherEq]
    exact Option.Rel.some ⟨nextRelated, holds next stepEq⟩

end Together

end VoxelEngine.Transition
