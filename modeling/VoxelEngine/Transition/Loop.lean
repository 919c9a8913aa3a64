import Mathlib.Logic.Basic

/-!
# Loops that may not end

The body of a loop either goes on with another state or leaves the loop with a result.  A loop
ends if some measure of its states decreases in each round, and does not end if there is an
invariant under which the body never leaves it.
-/

namespace VoxelEngine.Transition

universe u v

/-- What the body of a loop does in one round. -/
inductive Round (σ : Type u) (ρ : Type v) where
  | again (state : σ)
  | done (result : ρ)

variable {σ : Type u} {ρ : Type v}

/-- At most some number of rounds of a loop. -/
def loop (body : σ → Round σ ρ) : Nat → σ → Option ρ
  | 0, _ => none
  | rounds + 1, state =>
      match body state with
      | .again next => loop body rounds next
      | .done result => some result

/-- The loop is left with some result. -/
def Returns (body : σ → Round σ ρ) (state : σ) (result : ρ) : Prop :=
  ∃ rounds, loop body rounds state = some result

/-- The loop is left after finitely many rounds. -/
def Ends (body : σ → Round σ ρ) (state : σ) : Prop :=
  ∃ rounds, (loop body rounds state).isSome = true

variable {body : σ → Round σ ρ} {state : σ}

theorem loop_of_again {next : σ} (again : body state = .again next) (rounds : Nat) :
    loop body (rounds + 1) state = loop body rounds next := by
  rw [loop, again]

theorem loop_of_done {result : ρ} (done : body state = .done result) (rounds : Nat) :
    loop body (rounds + 1) state = some result := by
  rw [loop, done]

theorem returns_of_done {result : ρ} (done : body state = .done result) :
    Returns body state result :=
  ⟨1, loop_of_done done 0⟩

theorem Returns.ends {result : ρ} (returns : Returns body state result) : Ends body state := by
  rcases returns with ⟨rounds, loopEq⟩
  exact ⟨rounds, by rw [loopEq]; rfl⟩

theorem Returns.of_again {next : σ} {result : ρ} (again : body state = .again next)
    (returns : Returns body next result) : Returns body state result := by
  rcases returns with ⟨rounds, loopEq⟩
  exact ⟨rounds + 1, by rw [loop_of_again again, loopEq]⟩

/-- States from which the next round is the same lead to the same result. -/
theorem Returns.of_round_eq {other : σ} {result : ρ} (same : body state = body other)
    (returns : Returns body other result) : Returns body state result := by
  rcases returns with ⟨rounds, loopEq⟩
  cases rounds with
  | zero => cases loopEq
  | succ rounds =>
      refine ⟨rounds + 1, ?_⟩
      rw [loop, same]
      exact loopEq

theorem Returns.unique {first second : ρ} (firstReturns : Returns body state first)
    (secondReturns : Returns body state second) : first = second := by
  rcases firstReturns with ⟨rounds, firstEq⟩
  rcases secondReturns with ⟨more, secondEq⟩
  induction rounds generalizing state more with
  | zero => cases firstEq
  | succ rounds ih =>
      cases more with
      | zero => cases secondEq
      | succ more =>
          cases round : body state with
          | again next =>
              rw [loop_of_again round] at firstEq secondEq
              exact ih firstEq more secondEq
          | done result =>
              rw [loop_of_done round] at firstEq secondEq
              rw [← Option.some.inj firstEq, ← Option.some.inj secondEq]

theorem ends_of_done {result : ρ} (done : body state = .done result) : Ends body state :=
  ⟨1, by rw [loop_of_done done]; rfl⟩

theorem Ends.of_again {next : σ} (again : body state = .again next) (ends : Ends body next) :
    Ends body state := by
  rcases ends with ⟨rounds, isSome⟩
  exact ⟨rounds + 1, by rw [loop_of_again again, isSome]⟩

/-- A loop ends if a measure decreases in each round. -/
theorem ends_of_measure (inv : σ → Prop) (measure : σ → Nat)
    (decreases : ∀ state next, inv state → body state = .again next →
      inv next ∧ measure next < measure state)
    (start : inv state) : Ends body state := by
  induction bound : measure state using Nat.strongRecOn generalizing state with
  | ind size ih =>
      cases round : body state with
      | done result => exact ends_of_done round
      | again next =>
          have smaller := decreases state next start round
          exact Ends.of_again round (ih (measure next) (bound ▸ smaller.2) smaller.1 rfl)

/-- A loop does not end if an invariant keeps its body from leaving it. -/
theorem not_ends_of_invariant (inv : σ → Prop)
    (goesOn : ∀ state, inv state → ∃ next, body state = .again next ∧ inv next)
    (start : inv state) : ¬Ends body state := by
  rintro ⟨rounds, isSome⟩
  induction rounds generalizing state with
  | zero => cases isSome
  | succ rounds ih =>
      rcases goesOn state start with ⟨next, again, nextInv⟩
      rw [loop_of_again again] at isSome
      exact ih nextInv isSome

end VoxelEngine.Transition
