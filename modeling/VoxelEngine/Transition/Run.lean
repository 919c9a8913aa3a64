import Mathlib.Logic.Basic

/-!
# Runs of labelled partial transitions

A system is given by a partial step function: `step state action` is the next
state, or `none` when the action is not possible in that state.  This file
supplies finite runs, guarded runs (every action met a condition in the state in
which it was taken), and the induction principles from which run-level safety
theorems are assembled.  Nothing here depends on a particular system.
-/

namespace VoxelEngine.Transition

universe u v

variable {σ : Type u} {α : Type v}

/-- A partial transition labelled by actions. -/
abbrev Step (σ : Type u) (α : Type v) :=
  σ → α → Option σ

/-- Take the given actions one after the other; a failing action fails the run. -/
def run (step : Step σ α) : σ → List α → Option σ
  | state, [] => some state
  | state, action :: rest =>
      match step state action with
      | some next => run step next rest
      | none => none

@[simp]
theorem run_nil (step : Step σ α) (state : σ) : run step state [] = some state :=
  rfl

theorem run_cons (step : Step σ α) (state : σ) (action : α) (rest : List α) :
    run step state (action :: rest) =
      (step state action).bind fun next => run step next rest := by
  simp only [run]
  cases step state action <;> rfl

theorem run_cons_eq_some_iff (step : Step σ α) (state final : σ) (action : α)
    (rest : List α) :
    run step state (action :: rest) = some final ↔
      ∃ next, step state action = some next ∧ run step next rest = some final := by
  rw [run_cons]
  exact Option.bind_eq_some_iff

/-- A run splits at every point of its list of actions. -/
theorem run_append_eq_some_iff (step : Step σ α) (state final : σ)
    (first second : List α) :
    run step state (first ++ second) = some final ↔
      ∃ middle, run step state first = some middle ∧
        run step middle second = some final := by
  induction first generalizing state with
  | nil => simp
  | cons action rest ih =>
      rw [List.cons_append, run_cons_eq_some_iff]
      simp only [run_cons_eq_some_iff, ih]
      constructor
      · rintro ⟨next, stepEq, middle, firstRun, secondRun⟩
        exact ⟨middle, ⟨next, stepEq, firstRun⟩, secondRun⟩
      · rintro ⟨middle, ⟨next, stepEq, firstRun⟩, secondRun⟩
        exact ⟨next, stepEq, middle, firstRun, secondRun⟩

/-- What a run does after a first part that reached a known state. -/
theorem run_append_of_run {step : Step σ α} {state middle : σ} {first : List α}
    (firstRun : run step state first = some middle) (second : List α) :
    run step state (first ++ second) = run step middle second := by
  apply Option.ext
  intro final
  rw [run_append_eq_some_iff, firstRun]
  constructor
  · rintro ⟨_, ⟨rfl⟩, secondRun⟩
    exact secondRun
  · intro secondRun
    exact ⟨middle, rfl, secondRun⟩

/-- Every action of the run meets `guard` in the state in which it is taken. -/
def Guarded (step : Step σ α) (guard : σ → α → Prop) : σ → List α → Prop
  | _, [] => True
  | state, action :: rest =>
      guard state action ∧
        match step state action with
        | some next => Guarded step guard next rest
        | none => True

instance Guarded.decidable (step : Step σ α) (guard : σ → α → Prop)
    [∀ state action, Decidable (guard state action)] :
    (state : σ) → (actions : List α) → Decidable (Guarded step guard state actions)
  | _, [] => inferInstanceAs (Decidable True)
  | state, action :: rest =>
      match stepEq : step state action with
      | some next =>
          @decidable_of_iff _ (guard state action ∧ Guarded step guard next rest)
            (by simp only [Guarded, stepEq])
            (@instDecidableAnd _ _ _ (Guarded.decidable step guard next rest))
      | none =>
          decidable_of_iff (guard state action) (by simp only [Guarded, stepEq, and_true])

@[simp]
theorem guarded_nil (step : Step σ α) (guard : σ → α → Prop) (state : σ) :
    Guarded step guard state [] :=
  trivial

theorem guarded_cons_iff {step : Step σ α} {guard : σ → α → Prop} {state : σ}
    {action : α} {rest : List α} :
    Guarded step guard state (action :: rest) ↔
      guard state action ∧
        ∀ next, step state action = some next → Guarded step guard next rest := by
  simp only [Guarded]
  cases stepEq : step state action with
  | none => simp
  | some next => simp

/-- Along a guarded run the guard holds of the state reached before any later
action. -/
@[simp]
theorem guarded_append_iff {step : Step σ α} {guard : σ → α → Prop} {state : σ}
    {first second : List α} :
    Guarded step guard state (first ++ second) ↔
      Guarded step guard state first ∧
        ∀ middle, run step state first = some middle →
          Guarded step guard middle second := by
  induction first generalizing state with
  | nil => simp
  | cons action rest ih =>
      simp only [List.cons_append, guarded_cons_iff, ih, run_cons_eq_some_iff]
      constructor
      · rintro ⟨here, later⟩
        refine ⟨⟨here, fun next stepEq => (later next stepEq).1⟩, ?_⟩
        rintro middle ⟨next, stepEq, restRun⟩
        exact (later next stepEq).2 middle restRun
      · rintro ⟨⟨here, firstLater⟩, secondLater⟩
        refine ⟨here, fun next stepEq => ⟨firstLater next stepEq, ?_⟩⟩
        intro middle restRun
        exact secondLater middle ⟨next, stepEq, restRun⟩

/-- A weaker guard is met wherever a stronger one is. -/
theorem Guarded.mono {step : Step σ α} {guard weaker : σ → α → Prop}
    (implies : ∀ state action, guard state action → weaker state action) {state : σ}
    {actions : List α} (guarded : Guarded step guard state actions) :
    Guarded step weaker state actions := by
  induction actions generalizing state with
  | nil => trivial
  | cons action rest ih =>
      rw [guarded_cons_iff] at guarded ⊢
      exact ⟨implies _ _ guarded.1, fun next stepEq => ih (guarded.2 next stepEq)⟩

/-- A condition on the actions alone can be added to the guard. -/
theorem Guarded.and_of_forall_mem {step : Step σ α} {guard : σ → α → Prop} {extra : α → Prop}
    {state : σ}
    {actions : List α} (guarded : Guarded step guard state actions)
    (each : ∀ action ∈ actions, extra action) :
    Guarded step (fun current action => guard current action ∧ extra action) state actions := by
  induction actions generalizing state with
  | nil => trivial
  | cons action rest ih =>
      rw [guarded_cons_iff] at guarded ⊢
      refine ⟨⟨guarded.1, each action List.mem_cons_self⟩, fun next stepEq => ?_⟩
      exact ih (guarded.2 next stepEq) fun later mem => each later (List.mem_cons_of_mem _ mem)

/-- The trivial guard restricts no run. -/
theorem guarded_true (step : Step σ α) (state : σ) (actions : List α) :
    Guarded step (fun _ _ => True) state actions := by
  induction actions generalizing state with
  | nil => trivial
  | cons action rest ih =>
      rw [guarded_cons_iff]
      exact ⟨trivial, fun next _ => ih next⟩

/-- An invariant that every guarded step preserves holds at the end of every
guarded run. -/
theorem run_invariant {step : Step σ α} {guard : σ → α → Prop} {inv : σ → Prop}
    (preserved : ∀ state action next,
      inv state → guard state action → step state action = some next → inv next)
    {state final : σ} {actions : List α}
    (start : inv state) (guarded : Guarded step guard state actions)
    (runEq : run step state actions = some final) : inv final := by
  induction actions generalizing state with
  | nil =>
      exact Option.some.inj runEq ▸ start
  | cons action rest ih =>
      obtain ⟨next, stepEq, restRun⟩ := (run_cons_eq_some_iff _ _ _ _ _).mp runEq
      obtain ⟨here, later⟩ := guarded_cons_iff.mp guarded
      exact ih (preserved state action next start here stepEq) (later next stepEq) restRun

section Reached

variable {step : Step σ α} {holds : σ → List α → Prop} {state : σ} {action : α} {rest : List α}

/-- Where no action is left, the first state is the only one that is reached. -/
theorem reached_nil (here : holds state []) : ∀ before after middle, [] = before ++ after →
    run step state before = some middle → holds middle after := by
  intro before after middle split_eq beforeRun
  rcases List.nil_eq_append_iff.mp split_eq with ⟨rfl, rfl⟩
  exact Option.some.inj beforeRun ▸ here

/-- What is reached with some actions left is the first state, or is reached after one step. -/
theorem reached_cons_iff :
    (∀ before after middle, action :: rest = before ++ after →
        run step state before = some middle → holds middle after) ↔
      holds state (action :: rest) ∧ ∀ next, step state action = some next →
        ∀ before after middle, rest = before ++ after →
          run step next before = some middle → holds middle after := by
  constructor
  · intro each
    refine ⟨each [] (action :: rest) state rfl rfl, ?_⟩
    intro next stepEq before after middle split_eq beforeRun
    apply each (action :: before) after middle (by rw [split_eq, List.cons_append])
    exact (run_cons_eq_some_iff _ _ _ _ _).mpr ⟨next, stepEq, beforeRun⟩
  · rintro ⟨here, later⟩ before after middle split_eq beforeRun
    cases before with
    | nil =>
        rw [List.nil_append] at split_eq
        exact split_eq ▸ Option.some.inj beforeRun ▸ here
    | cons first others =>
        rcases List.cons.inj split_eq with ⟨rfl, others_eq⟩
        rcases (run_cons_eq_some_iff _ _ _ _ _).mp beforeRun with ⟨next, stepEq, othersRun⟩
        exact later next stepEq others after middle others_eq othersRun

/-- The actions that are taken are those that come first after a state is reached. -/
theorem taken_iff_reached {safe : σ → α → Prop} {actions : List α} :
    (∀ before action after middle, actions = before ++ action :: after →
        run step state before = some middle → safe middle action) ↔
      ∀ before after middle, actions = before ++ after → run step state before = some middle →
        ∀ action later, after = action :: later → safe middle action := by
  constructor
  · rintro taken before after middle split_eq beforeRun action later rfl
    exact taken before action later middle split_eq beforeRun
  · intro reached before action after middle split_eq beforeRun
    exact reached before (action :: after) middle split_eq beforeRun action after rfl

end Reached

/-- If a step preserves an invariant exactly when it meets the guard, then the invariant holds
in every state of a run exactly when the run is guarded.  What else is known of a state need
only be preserved by such steps. -/
theorem kept_throughout_iff_guarded {step : Step σ α} {guard : σ → α → Prop} {sound inv : σ → Prop}
    (preserved : ∀ state action next, sound state → inv state → guard state action →
      step state action = some next → sound next)
    (exact_step : ∀ state action next, sound state → inv state →
      step state action = some next → (inv next ↔ guard state action))
    {state final : σ} {actions : List α} (soundStart : sound state) (start : inv state)
    (runEq : run step state actions = some final) :
    (∀ before after middle, actions = before ++ after → run step state before = some middle →
        inv middle) ↔
      Guarded step guard state actions := by
  induction actions generalizing state with
  | nil => exact iff_of_true (reached_nil start) trivial
  | cons action rest ih =>
      rcases (run_cons_eq_some_iff _ _ _ _ _).mp runEq with ⟨next, stepEq, restRun⟩
      have nextSound : guard state action → sound next := fun met =>
        preserved state action next soundStart start met stepEq
      have here := exact_step state action next soundStart start stepEq
      rw [guarded_cons_iff]
      constructor
      · intro throughout
        have later := (reached_cons_iff.mp throughout).2 next stepEq
        have met := here.mp (later [] rest next rfl rfl)
        refine ⟨met, ?_⟩
        intro other otherEq
        rw [← Option.some.inj (stepEq.symm.trans otherEq)]
        exact (ih (nextSound met) (here.mpr met) restRun).mp later
      · rintro ⟨met, later⟩
        refine reached_cons_iff.mpr ⟨start, ?_⟩
        intro other otherEq
        rw [← Option.some.inj (stepEq.symm.trans otherEq)]
        exact (ih (nextSound met) (here.mpr met) restRun).mpr (later next stepEq)

/-- If a step preserves an invariant exactly when it meets the guard, then the invariant holds
in every state of a run exactly when the run is guarded. -/
theorem throughout_iff_guarded {step : Step σ α} {guard : σ → α → Prop} {sound inv : σ → Prop}
    (preserved : ∀ state action next, sound state → step state action = some next → sound next)
    (exact_step : ∀ state action next, sound state → inv state →
      step state action = some next → (inv next ↔ guard state action))
    {state final : σ} {actions : List α} (soundStart : sound state) (start : inv state)
    (runEq : run step state actions = some final) :
    (∀ before after middle, actions = before ++ after → run step state before = some middle →
        inv middle) ↔
      Guarded step guard state actions :=
  kept_throughout_iff_guarded
    (fun state action next stateSound _ _ stepEq => preserved state action next stateSound stepEq)
    exact_step soundStart start runEq

/-- If an action is safe and leads to the invariant exactly when it meets the guard, then the
invariant holds in every state reached and every action taken is safe exactly when the run is
guarded, whether or not it reaches its end. -/
theorem safe_throughout_iff_guarded {step : Step σ α} {guard safe : σ → α → Prop}
    {sound inv : σ → Prop}
    (preserved : ∀ state action next, sound state → step state action = some next → sound next)
    (exact_step : ∀ state action, sound state → inv state →
      ((safe state action ∧ ∀ next, step state action = some next → inv next) ↔
        guard state action))
    {state : σ} {actions : List α} (soundStart : sound state) (start : inv state) :
    (∀ before after middle, actions = before ++ after → run step state before = some middle →
        inv middle ∧ ∀ action later, after = action :: later → safe middle action) ↔
      Guarded step guard state actions := by
  induction actions generalizing state with
  | nil => exact iff_of_true (reached_nil ⟨start, nofun⟩) trivial
  | cons action rest ih =>
      have here := exact_step state action soundStart start
      have nextSound := fun next => preserved state action next soundStart
      rw [guarded_cons_iff]
      constructor
      · intro throughout
        rcases reached_cons_iff.mp throughout with ⟨⟨_, hereSafe⟩, later⟩
        have nextInv : ∀ next, step state action = some next → inv next := fun next stepEq =>
          (later next stepEq [] rest next rfl rfl).1
        refine ⟨here.mp ⟨hereSafe action rest rfl, nextInv⟩, ?_⟩
        intro next stepEq
        exact (ih (nextSound next stepEq) (nextInv next stepEq)).mp (later next stepEq)
      · rintro ⟨met, later⟩
        refine reached_cons_iff.mpr ⟨⟨start, ?_⟩, ?_⟩
        · intro taken others split_eq
          rcases List.cons.inj split_eq with ⟨rfl, _⟩
          exact (here.mpr met).1
        · intro next stepEq
          exact (ih (nextSound next stepEq) ((here.mpr met).2 next stepEq)).mpr (later next stepEq)

/-- If an action can only lead to the invariant exactly when it meets the guard, then the
invariant holds in every state reached exactly when the run is guarded, whether or not it reaches
its end. -/
theorem reached_iff_guarded {step : Step σ α} {guard : σ → α → Prop} {sound inv : σ → Prop}
    (preserved : ∀ state action next, sound state → step state action = some next → sound next)
    (exact_step : ∀ state action, sound state → inv state →
      ((∀ next, step state action = some next → inv next) ↔ guard state action))
    {state : σ} {actions : List α} (soundStart : sound state) (start : inv state) :
    (∀ before after middle, actions = before ++ after → run step state before = some middle →
        inv middle) ↔
      Guarded step guard state actions := by
  have trivially : ∀ state action, sound state → inv state →
      ((True ∧ ∀ next, step state action = some next → inv next) ↔ guard state action) := by
    intro state action stateSound stateInv
    rw [true_and]
    exact exact_step state action stateSound stateInv
  rw [← @safe_throughout_iff_guarded _ _ step guard (fun _ _ => True) sound inv preserved trivially
    state actions soundStart start]
  constructor
  · intro reached before after middle split_eq beforeRun
    exact ⟨reached before after middle split_eq beforeRun, fun _ _ _ => trivial⟩
  · intro reached before after middle split_eq beforeRun
    exact (reached before after middle split_eq beforeRun).1

/-- If an action is safe exactly when it meets the guard, then every action taken is safe exactly
when the run is guarded, whether or not it reaches its end. -/
theorem taken_iff_guarded {step : Step σ α} {guard safe : σ → α → Prop} {sound : σ → Prop}
    (preserved : ∀ state action next, sound state → step state action = some next → sound next)
    (exact_step : ∀ state action, sound state → (safe state action ↔ guard state action))
    {state : σ} {actions : List α} (soundStart : sound state) :
    (∀ before action after middle, actions = before ++ action :: after →
        run step state before = some middle → safe middle action) ↔
      Guarded step guard state actions := by
  have always : ∀ state action, sound state → True →
      ((safe state action ∧ ∀ next, step state action = some next → True) ↔
        guard state action) := by
    intro state action stateSound _
    rw [← exact_step state action stateSound]
    exact and_iff_left fun _ _ => trivial
  rw [← @safe_throughout_iff_guarded _ _ step guard safe sound (fun _ => True) preserved always
    state actions soundStart trivial, taken_iff_reached]
  simp only [true_and]

/-- If a possible action is safe exactly when it meets the guard, then every action of a run is
safe exactly when the run is guarded.  What else is known of a state need only be preserved by
guarded steps. -/
theorem each_safe_iff_guarded {step : Step σ α} {guard safe : σ → α → Prop} {sound : σ → Prop}
    {state final : σ} {actions : List α}
    (preserved : ∀ state, ∀ action ∈ actions, ∀ next, sound state → guard state action →
      step state action = some next → sound next)
    (exact_step : ∀ state, ∀ action ∈ actions, ∀ next, sound state →
      step state action = some next → (safe state action ↔ guard state action))
    (start : sound state)
    (runEq : run step state actions = some final) :
    (∀ before action after middle, actions = before ++ action :: after →
        run step state before = some middle → safe middle action) ↔
      Guarded step guard state actions := by
  rw [taken_iff_reached]
  induction actions generalizing state with
  | nil => exact iff_of_true (reached_nil nofun) trivial
  | cons action rest ih =>
      rcases (run_cons_eq_some_iff _ _ _ _ _).mp runEq with ⟨next, stepEq, restRun⟩
      have here := exact_step state action List.mem_cons_self next start stepEq
      have restPreserved := fun state later mem =>
        preserved state later (List.mem_cons_of_mem action mem)
      have restExact := fun state later mem =>
        exact_step state later (List.mem_cons_of_mem action mem)
      have kept := preserved state action List.mem_cons_self next start
      rw [guarded_cons_iff]
      constructor
      · intro each
        rcases reached_cons_iff.mp each with ⟨hereSafe, later⟩
        have met := here.mp (hereSafe action rest rfl)
        refine ⟨met, ?_⟩
        intro other otherEq
        rw [← Option.some.inj (stepEq.symm.trans otherEq)]
        exact (ih restPreserved restExact (kept met stepEq) restRun).mp (later next stepEq)
      · rintro ⟨met, guarded⟩
        refine reached_cons_iff.mpr ⟨?_, ?_⟩
        · intro taken others split_eq
          rcases List.cons.inj split_eq with ⟨rfl, _⟩
          exact here.mpr met
        · intro other otherEq
          rw [← Option.some.inj (stepEq.symm.trans otherEq)]
          exact (ih restPreserved restExact (kept met stepEq) restRun).mpr (guarded next stepEq)

/-- If every guarded step is possible and preserves an invariant, then guarded runs are
possible and preserve it. -/
theorem exists_run {step : Step σ α} {guard : σ → α → Prop} {inv : σ → Prop}
    (progress : ∀ state action, inv state → guard state action →
      ∃ next, step state action = some next ∧ inv next)
    {state : σ} {actions : List α} (start : inv state)
    (guarded : Guarded step guard state actions) :
    ∃ final, run step state actions = some final ∧ inv final := by
  induction actions generalizing state with
  | nil => exact ⟨state, rfl, start⟩
  | cons action rest ih =>
      rcases guarded_cons_iff.mp guarded with ⟨here, later⟩
      rcases progress state action start here with ⟨next, stepEq, nextInv⟩
      rcases ih nextInv (later next stepEq) with ⟨final, restRun, finalInv⟩
      exact ⟨final, (run_cons_eq_some_iff _ _ _ _ _).mpr ⟨next, stepEq, restRun⟩, finalInv⟩

end VoxelEngine.Transition
