import VoxelEngine.Transition.Simulation
import VoxelEngine.Utility.PolymorphOperations

/-!
# Ownership of the values of stack polymorphs

The actions on polymorphs refine those on their owners, as long as nothing is moved out of a
polymorph that has been given nothing: such a polymorph has no mover.  So it can be told from the
owners alone whether a program uses polymorphs in a way for which they work.
-/

namespace VoxelEngine.Utility

open VoxelEngine.Transition

namespace Polymorphs

variable {α τ : Type}

/-- The objects that an action is about are alive, or not alive yet. -/
def Possible (state : Polymorphs α τ) : PolymorphAction α τ → Prop
  | .defaultConstruct address => state.polymorphs address = none
  | .construct address _ => state.polymorphs address = none
  | .assign address _ => (state.polymorphs address).isSome = true
  | .moveConstruct target source =>
      state.polymorphs target = none ∧ (state.polymorphs source).isSome = true
  | .moveAssign target source =>
      (state.polymorphs target).isSome = true ∧ (state.polymorphs source).isSome = true
  | .deleteValue address => (state.polymorphs address).isSome = true
  | .destroy address => (state.polymorphs address).isSome = true

/-- The target holds what the source held, and the source is empty unless it is the target. -/
def Moved (before after : Polymorphs α τ) (target source : α) : Prop :=
  after.value target = before.value source ∧ (source ≠ target → after.value source = none)

/-- What an action has to do. -/
def Achieved (before after : Polymorphs α τ) : PolymorphAction α τ → Prop
  | .moveConstruct target source => Moved before after target source
  | .moveAssign target source => Moved before after target source
  | _ => True

/-- What is moved from has been given something. -/
def SourceGiven (state : Polymorphs α τ) : PolymorphAction α τ → Prop
  | .moveConstruct _ source => state.owners.owner source ≠ some .fresh
  | .moveAssign _ source => state.owners.owner source ≠ some .fresh
  | _ => True

/-- If there are no polymorphs any more, every value that was stored was destroyed once. -/
def Settled (state : Polymorphs α τ) : Prop :=
  (∀ address, state.polymorphs address = none) →
    ∀ value < state.stored, state.destroyed.count value = 1

section Owned

variable {canContainLocally : τ → Bool} {state : Polymorphs α τ} {address : α}

theorem settled_of_balanced (balanced : state.owners.Balanced) : state.Settled := by
  intro none_alive
  apply balanced.count_destroyed
  intro address
  exact owner_of_none (none_alive address)

/-- Of an action that is not possible nothing is asked. -/
theorem moveAllowed_of_not_possible {action : PolymorphAction α τ}
    (impossible : ¬ state.Possible action) : state.owners.MoveAllowed action := by
  cases action with
  | moveConstruct target source =>
      intro vacant fresh
      rw [owner_owners, Option.map_eq_none_iff] at vacant
      apply impossible
      refine ⟨vacant, ?_⟩
      rw [← Option.isSome_map, ← owner_owners, fresh]
      rfl
  | moveAssign target source =>
      intro targetAlive
      rw [owner_owners, Option.isSome_map] at targetAlive
      have vacant : state.polymorphs source = none := by
        apply Option.not_isSome_iff_eq_none.mp
        intro alive
        exact impossible ⟨targetAlive, alive⟩
      have ownerEq := owner_of_none vacant
      constructor
      · rw [ownerEq]
        rintro ⟨⟩
      · intro _
        rw [Owners.value, ownerEq]
        rfl
  | _ => trivial

theorem not_moveAllowed_of_not_given {action : PolymorphAction α τ}
    (possible : state.Possible action) (fresh : ¬ state.SourceGiven action) :
    ¬ state.owners.MoveAllowed action := by
  intro allowed
  cases action with
  | moveConstruct target source => exact fresh (allowed (owner_of_none possible.1))
  | moveAssign target source =>
      apply fresh
      apply (allowed _).1
      rw [owner_owners, Option.isSome_map]
      exact possible.1
  | _ => exact fresh trivial

/-! ## Every action -/

variable [DecidableEq α]

/-- The polymorphs go on, and do to their owners what the action should. -/
def Refines (canContainLocally : τ → Bool) (state : Polymorphs α τ)
    (action : PolymorphAction α τ) : Prop :=
  ∃ next, state.step canContainLocally action = some next ∧ next.Formed canContainLocally ∧
    state.owners.step action = some next.owners

section Step

/-- Every construction begins with the members' initial values. -/
theorem Formed.write_null (formed : state.Formed canContainLocally) :
    (state.write address (some StackPolymorph.null)).Formed canContainLocally := by
  apply formed.update
  rintro _ ⟨⟩
  exact StackPolymorph.formed_null

theorem defaultConstruct_refines (formed : state.Formed canContainLocally)
    (vacant : state.polymorphs address = none) :
    state.Refines canContainLocally (.defaultConstruct address) := by
  refine ⟨state.write address (some StackPolymorph.null), ?_, formed.write_null, ?_⟩
  · simp only [step, vacant, Option.isSome_none, Bool.false_eq_true, if_false]
  · simp only [Owners.step, owner_of_none vacant]
    rw [write, owners_update, Owners.discard, value_owners, value, vacant]
    simp only [Option.bind_none, Option.toList_none, List.append_nil]
    rfl

theorem construct_refines (formed : state.Formed canContainLocally)
    (vacant : state.polymorphs address = none) (type : τ) :
    state.Refines canContainLocally (.construct address type) := by
  rcases assign_spec formed.write_null (Function.update_self _ _ _) type with
    ⟨filled, filledFormed, filledOwner, assignEq⟩
  rw [write, Function.update_idem, StackPolymorph.value_of_not_hasValue rfl, Option.toList_none,
    List.append_nil] at assignEq
  have constructEq : state.step canContainLocally (.construct address type) = some
      ⟨Function.update state.polymorphs address (some filled), state.stored + 1,
        state.destroyed⟩ := by
    simp only [step, vacant, Option.isSome_none, Bool.false_eq_true, if_false]
    exact assignEq
  refine ⟨_, constructEq, formed.update ?_ _ _, ?_⟩
  · rintro _ ⟨⟩
    exact filledFormed
  · simp only [Owners.step, owner_of_none vacant]
    rw [owners_update, Owners.store, Option.map_some, filledOwner]
    rfl

theorem assign_refines (formed : state.Formed canContainLocally)
    (alive : (state.polymorphs address).isSome = true) (type : τ) :
    state.Refines canContainLocally (.assign address type) := by
  rcases Option.isSome_iff_exists.mp alive with ⟨polymorph, found⟩
  rcases assign_spec formed found type with ⟨filled, filledFormed, filledOwner, assignEq⟩
  refine ⟨_, assignEq, formed.update ?_ _ _, ?_⟩
  · rintro _ ⟨⟩
    exact filledFormed
  · simp only [Owners.step, owner_of_found found]
    rw [owners_update, Owners.store, Owners.discard, value_of_found found, Option.map_some,
      filledOwner, Function.update_idem]
    rfl

/-- Both moves write the target and the source. -/
theorem moved_refines (formed : state.Formed canContainLocally) {target source : α}
    {moved filled left : StackPolymorph τ} {gone : List Nat}
    (filledFormed : filled.Formed canContainLocally)
    (leftFormed : left.Formed canContainLocally) (filledOwner : filled.owner = moved.owner)
    (leftOwner : left.owner = moved.owner.cleared)
    (goneEq : gone = (state.owners.value target).toList) :
    (⟨Function.update (Function.update state.polymorphs target (some filled)) source (some left),
        state.stored, state.destroyed ++ gone⟩ : Polymorphs α τ).Formed canContainLocally ∧
      state.owners.move target source moved.owner =
        (⟨Function.update (Function.update state.polymorphs target (some filled)) source
          (some left), state.stored, state.destroyed ++ gone⟩ : Polymorphs α τ).owners := by
  have targetFormed : (⟨Function.update state.polymorphs target (some filled), state.stored,
      state.destroyed⟩ : Polymorphs α τ).Formed canContainLocally := by
    apply formed.update
    rintro _ ⟨⟩
    exact filledFormed
  constructor
  · apply targetFormed.update
    rintro _ ⟨⟩
    exact leftFormed
  · rw [owners_update, Function.comp_update, Option.map_some, Option.map_some, filledOwner,
      leftOwner, goneEq]
    rfl

theorem moveConstruct_refines (formed : state.Formed canContainLocally) {target source : α}
    (vacant : state.polymorphs target = none) (alive : (state.polymorphs source).isSome = true)
    (given : state.owners.owner source ≠ some .fresh) :
    state.Refines canContainLocally (.moveConstruct target source) := by
  rcases Option.isSome_iff_exists.mp alive with ⟨moved, sourceEq⟩
  have source_ne : source ≠ target := by
    rintro rfl
    rw [vacant] at sourceEq
    cases sourceEq
  have keptEq : (state.write target (some StackPolymorph.null)).polymorphs source = some moved :=
    (Function.update_of_ne source_ne _ _).trans sourceEq
  rcases move_spec formed.write_null keptEq (Function.update_self _ _ _)
    (moved_given sourceEq given) with
    ⟨filled, left, filledFormed, leftFormed, filledOwner, leftOwner, moveEq⟩
  rw [write, Function.update_idem, StackPolymorph.value_of_not_hasValue rfl] at moveEq
  have goneEq : (none : Option Nat).toList = (state.owners.value target).toList := by
    rw [value_owners, value, vacant]
    rfl
  rcases moved_refines formed filledFormed leftFormed filledOwner leftOwner goneEq with
    ⟨nextFormed, ownersEq⟩
  refine ⟨_, ?_, nextFormed, ?_⟩
  · simp only [step, vacant, Option.isSome_none, Bool.false_eq_true, if_false]
    exact moveEq
  · simp only [Owners.step, owner_of_none vacant, owner_of_found sourceEq]
    rw [ownersEq]

theorem moveAssign_refines (formed : state.Formed canContainLocally) {target source : α}
    (targetAlive : (state.polymorphs target).isSome = true)
    (sourceAlive : (state.polymorphs source).isSome = true)
    (given : state.owners.owner source ≠ some .fresh) :
    state.Refines canContainLocally (.moveAssign target source) := by
  rcases Option.isSome_iff_exists.mp targetAlive with ⟨old, targetEq⟩
  rcases Option.isSome_iff_exists.mp sourceAlive with ⟨moved, sourceEq⟩
  rcases move_spec formed sourceEq targetEq (moved_given sourceEq given) with
    ⟨filled, left, filledFormed, leftFormed, filledOwner, leftOwner, moveEq⟩
  have goneEq : old.value.toList = (state.owners.value target).toList := by
    rw [value_of_found targetEq]
  rcases moved_refines formed filledFormed leftFormed filledOwner leftOwner goneEq with
    ⟨nextFormed, ownersEq⟩
  refine ⟨_, ?_, nextFormed, ?_⟩
  · simp only [step, targetAlive, if_true]
    exact moveEq
  · simp only [Owners.step, owner_of_found targetEq, owner_of_found sourceEq]
    rw [ownersEq]

theorem deleteValue_refines (formed : state.Formed canContainLocally)
    (alive : (state.polymorphs address).isSome = true) :
    state.Refines canContainLocally (.deleteValue address) := by
  rcases Option.isSome_iff_exists.mp alive with ⟨polymorph, found⟩
  refine ⟨_, deleteValue_eq formed found, formed.update ?_ _ _, ?_⟩
  · rintro _ ⟨⟩
    exact StackPolymorph.formed_of_not_hasValue rfl
  · simp only [Owners.step, owner_of_found found]
    rw [owners_update, Owners.discard, value_of_found found, Option.map_some,
      (formed address polymorph found).owner_cleared]
    rfl

theorem destroy_refines (formed : state.Formed canContainLocally)
    (alive : (state.polymorphs address).isSome = true) :
    state.Refines canContainLocally (.destroy address) := by
  rcases Option.isSome_iff_exists.mp alive with ⟨polymorph, found⟩
  have destroyEq : state.step canContainLocally (.destroy address) = some
      ⟨Function.update state.polymorphs address none, state.stored,
        state.destroyed ++ polymorph.value.toList⟩ := by
    simp only [step, destroy, deleteValue_eq formed found, Option.map_some, write,
      Function.update_idem]
  refine ⟨_, destroyEq, formed.update ?_ _ _, ?_⟩
  · rintro _ ⟨⟩
  · simp only [Owners.step, owner_of_found found]
    rw [owners_update, Owners.discard, value_of_found found, Option.map_none]
    rfl

theorem step_refines {action : PolymorphAction α τ} (formed : state.Formed canContainLocally)
    (possible : state.Possible action) (given : state.SourceGiven action) :
    state.Refines canContainLocally action := by
  cases action with
  | defaultConstruct address => exact defaultConstruct_refines formed possible
  | construct address type => exact construct_refines formed possible type
  | assign address type => exact assign_refines formed possible type
  | moveConstruct target source => exact moveConstruct_refines formed possible.1 possible.2 given
  | moveAssign target source => exact moveAssign_refines formed possible.1 possible.2 given
  | deleteValue address => exact deleteValue_refines formed possible
  | destroy address => exact destroy_refines formed possible

/-! ## What is not possible, or undefined -/

theorem deleteValue_eq_none (vacant : state.polymorphs address = none) :
    state.deleteValue address = none := by
  rw [deleteValue, vacant]
  rfl

/-- There is nothing to move from, or its mover is not set. -/
theorem move_eq_none {source target : α}
    (unset : ∀ moved, state.polymorphs source = some moved → moved.moveValue = none) :
    state.move canContainLocally source target = none := by
  rw [move]
  cases sourceEq : state.polymorphs source with
  | none => rfl
  | some moved =>
      rw [Option.bind_eq_bind, Option.bind_some, unset moved sourceEq]
      rfl

theorem moveConstruct_eq_none {source target : α}
    (unset : state.polymorphs target = none →
      ∀ moved, state.polymorphs source = some moved → moved.moveValue = none) :
    state.step canContainLocally (.moveConstruct target source) = none := by
  cases targetEq : state.polymorphs target with
  | some old => simp only [step, targetEq, Option.isSome_some, if_true]
  | none =>
      simp only [step, targetEq, Option.isSome_none, Bool.false_eq_true, if_false]
      apply move_eq_none
      intro moved found
      by_cases same : source = target
      · have begun : (state.write target (some StackPolymorph.null)).polymorphs source =
            some StackPolymorph.null := by
          rw [same]
          exact Function.update_self _ _ _
        rw [begun] at found
        cases found
        rfl
      · have kept : (state.write target (some StackPolymorph.null)).polymorphs source =
            state.polymorphs source := Function.update_of_ne same _ _
        rw [kept] at found
        exact unset targetEq moved found

theorem moveAssign_eq_none {source target : α}
    (unset : (state.polymorphs target).isSome = true →
      ∀ moved, state.polymorphs source = some moved → moved.moveValue = none) :
    state.step canContainLocally (.moveAssign target source) = none := by
  cases alive : (state.polymorphs target).isSome with
  | false => simp only [step, alive, Bool.false_eq_true, if_false]
  | true =>
      simp only [step, alive, if_true]
      exact move_eq_none (unset alive)

/-- An action that is not possible is not taken, and not by the owners either. -/
theorem step_eq_none {action : PolymorphAction α τ} (impossible : ¬ state.Possible action) :
    state.step canContainLocally action = none ∧ state.owners.step action = none := by
  cases action with
  | defaultConstruct address =>
      rcases Option.ne_none_iff_exists'.mp impossible with ⟨polymorph, found⟩
      simp only [step, Owners.step, found, owner_of_found found, Option.isSome_some, if_true,
        and_self]
  | construct address type =>
      rcases Option.ne_none_iff_exists'.mp impossible with ⟨polymorph, found⟩
      simp only [step, Owners.step, found, owner_of_found found, Option.isSome_some, if_true,
        and_self]
  | assign address type =>
      have vacant := Option.not_isSome_iff_eq_none.mp impossible
      simp only [step, Owners.step, owner_of_none vacant, assign, deleteValue_eq_none vacant,
        and_true]
      rfl
  | moveConstruct target source =>
      have nothing : state.polymorphs target = none → state.polymorphs source = none := by
        intro vacant
        apply Option.not_isSome_iff_eq_none.mp
        intro alive
        exact impossible ⟨vacant, alive⟩
      constructor
      · apply moveConstruct_eq_none
        intro vacant moved found
        rw [nothing vacant] at found
        cases found
      · cases targetEq : state.polymorphs target with
        | none =>
            simp only [Owners.step, owner_of_none targetEq, owner_of_none (nothing targetEq)]
        | some old => simp only [Owners.step, owner_of_found targetEq]
  | moveAssign target source =>
      have nothing : (state.polymorphs target).isSome = true → state.polymorphs source = none := by
        intro targetAlive
        apply Option.not_isSome_iff_eq_none.mp
        intro alive
        exact impossible ⟨targetAlive, alive⟩
      constructor
      · apply moveAssign_eq_none
        intro targetAlive moved found
        rw [nothing targetAlive] at found
        cases found
      · cases targetEq : state.polymorphs target with
        | none => simp only [Owners.step, owner_of_none targetEq]
        | some old =>
            have sourceEq := nothing (by rw [targetEq]; rfl)
            simp only [Owners.step, owner_of_found targetEq, owner_of_none sourceEq]
  | deleteValue address =>
      have vacant := Option.not_isSome_iff_eq_none.mp impossible
      simp only [step, Owners.step, owner_of_none vacant, deleteValue_eq_none vacant, and_self]
  | destroy address =>
      have vacant := Option.not_isSome_iff_eq_none.mp impossible
      simp only [step, Owners.step, owner_of_none vacant, destroy, deleteValue_eq_none vacant,
        Option.map_none, and_self]

/-- Nothing is moved out of a polymorph that has been given nothing. -/
theorem step_eq_none_of_not_given {action : PolymorphAction α τ}
    (formed : state.Formed canContainLocally) (fresh : ¬ state.SourceGiven action) :
    state.step canContainLocally action = none := by
  have unset : ∀ source, state.owners.owner source = some .fresh →
      ∀ moved, state.polymorphs source = some moved → moved.moveValue = none := by
    intro source ownerEq moved found
    rw [owner_of_found found] at ownerEq
    exact (formed source moved found).owner_eq_fresh_iff.mp (Option.some.inj ownerEq)
  cases action with
  | moveConstruct target source =>
      exact moveConstruct_eq_none fun _ => unset source (not_not.mp fresh)
  | moveAssign target source =>
      exact moveAssign_eq_none fun _ => unset source (not_not.mp fresh)
  | _ => exact absurd trivial fresh

/-! ## Which actions are safe -/

/-- If an action is possible, it is defined and does what it has to do. -/
def Safe (canContainLocally : τ → Bool) (state : Polymorphs α τ)
    (action : PolymorphAction α τ) : Prop :=
  state.Possible action →
    ∃ next, state.step canContainLocally action = some next ∧ Achieved state next action

/-- As long as something was given to the source, a move fails only if a value is moved to
itself. -/
theorem moved_iff {next : Polymorphs α τ} {target source : α} {given : Owner}
    (sourceEq : state.owners.owner source = some given)
    (nextEq : state.owners.move target source given = next.owners) :
    Moved state next target source ↔ (target = source → state.value source = none) := by
  have givenEq : given.value = state.value source := by
    rw [← value_owners, Owners.value, sourceEq]
    rfl
  have nextValue : ∀ address, next.value address =
      Function.update (Function.update state.owners.value target given.value) source none
        address := by
    intro address
    rw [← value_owners, ← nextEq, Owners.value_move]
  rw [Moved, nextValue, nextValue, Function.update_self, and_iff_left fun _ => rfl]
  by_cases same : target = source
  · rw [same, Function.update_self]
    exact ⟨fun noneEq _ => noneEq.symm, fun noneEq => (noneEq rfl).symm⟩
  · rw [Function.update_of_ne same, Function.update_self, givenEq]
    exact iff_of_true rfl fun sameEq => absurd sameEq same

theorem safe_iff_achieved {action : PolymorphAction α τ} {next : Polymorphs α τ}
    (possible : state.Possible action)
    (stepEq : state.step canContainLocally action = some next) :
    state.Safe canContainLocally action ↔ Achieved state next action := by
  constructor
  · intro safe
    rcases safe possible with ⟨other, otherEq, achieved⟩
    rw [stepEq] at otherEq
    cases otherEq
    exact achieved
  · intro achieved _
    exact ⟨next, stepEq, achieved⟩

theorem achieved_iff {action : PolymorphAction α τ} {next : Polymorphs α τ}
    (possible : state.Possible action) (given : state.SourceGiven action)
    (ownersEq : state.owners.step action = some next.owners) :
    Achieved state next action ↔ state.owners.MoveAllowed action := by
  cases action with
  | moveConstruct target source =>
      rcases Option.isSome_iff_exists.mp possible.2 with ⟨moved, sourceEq⟩
      have ownerEq := owner_of_found sourceEq
      simp only [Owners.step, owner_of_none possible.1, ownerEq, Option.some.injEq] at ownersEq
      apply iff_of_true
      · apply (moved_iff ownerEq ownersEq).mpr
        rintro rfl
        rw [possible.1] at sourceEq
        cases sourceEq
      · exact fun _ => given
  | moveAssign target source =>
      rcases Option.isSome_iff_exists.mp possible.1 with ⟨old, targetEq⟩
      rcases Option.isSome_iff_exists.mp possible.2 with ⟨moved, sourceEq⟩
      have ownerEq := owner_of_found sourceEq
      simp only [Owners.step, owner_of_found targetEq, ownerEq, Option.some.injEq] at ownersEq
      apply (moved_iff ownerEq ownersEq).trans
      rw [← value_owners]
      constructor
      · exact fun empty _ => ⟨given, empty⟩
      · intro allowed
        apply (allowed _).2
        rw [owner_of_found targetEq]
        rfl
  | _ => exact Iff.rfl

theorem safe_iff {action : PolymorphAction α τ} (formed : state.Formed canContainLocally) :
    state.Safe canContainLocally action ↔ state.owners.MoveAllowed action := by
  by_cases possible : state.Possible action
  · by_cases given : state.SourceGiven action
    · rcases step_refines formed possible given with ⟨next, stepEq, _, ownersEq⟩
      exact (safe_iff_achieved possible stepEq).trans (achieved_iff possible given ownersEq)
    · apply iff_of_false
      · intro safe
        rcases safe possible with ⟨next, stepEq, _⟩
        rw [step_eq_none_of_not_given formed given] at stepEq
        cases stepEq
      · exact not_moveAllowed_of_not_given possible given
  · apply iff_of_true
    · exact fun isPossible => absurd isPossible possible
    · exact moveAllowed_of_not_possible possible

/-- The owners that the polymorphs have. -/
def Related (canContainLocally : τ → Bool) (state : Polymorphs α τ) (owners : Owners α) : Prop :=
  state.Formed canContainLocally ∧ owners = state.owners

theorem stepsTogether_of_safe {action : PolymorphAction α τ} {owners : Owners α}
    (related : Related canContainLocally state owners)
    (safe : state.Safe canContainLocally action) :
    StepsTogether (step canContainLocally) Owners.step (Related canContainLocally) state owners
      action := by
  rcases related with ⟨formed, rfl⟩
  rw [StepsTogether]
  by_cases possible : state.Possible action
  · by_cases given : state.SourceGiven action
    · rcases step_refines formed possible given with ⟨next, stepEq, nextFormed, ownersEq⟩
      rw [stepEq, ownersEq]
      exact Option.Rel.some ⟨nextFormed, rfl⟩
    · exact absurd ((safe_iff formed).mp safe) (not_moveAllowed_of_not_given possible given)
  · rcases @step_eq_none _ _ canContainLocally _ _ _ possible with ⟨stepEq, ownersEq⟩
    rw [stepEq, ownersEq]
    exact Option.Rel.none

/-- Every step that is taken is one of the owners. -/
theorem step_sound {action : PolymorphAction α τ} {next : Polymorphs α τ}
    (formed : state.Formed canContainLocally)
    (stepEq : state.step canContainLocally action = some next) :
    next.Formed canContainLocally ∧ state.owners.step action = some next.owners := by
  by_cases possible : state.Possible action
  · by_cases given : state.SourceGiven action
    · rcases step_refines formed possible given with ⟨other, otherEq, otherFormed, ownersEq⟩
      rw [stepEq] at otherEq
      cases otherEq
      exact ⟨otherFormed, ownersEq⟩
    · rw [step_eq_none_of_not_given formed given] at stepEq
      cases stepEq
  · rw [(step_eq_none possible).1] at stepEq
    cases stepEq

end Step

end Owned

/-! ## Whole programs -/

section Program

variable [DecidableEq α] {canContainLocally : τ → Bool} {actions : List (PolymorphAction α τ)}

/-- All actions of a program are safe, and every value is destroyed once. -/
def OwnsValues (canContainLocally : τ → Bool) (actions : List (PolymorphAction α τ)) : Prop :=
  (∀ before action after state, actions = before ++ action :: after →
    run (step canContainLocally) start before = some state →
      state.Safe canContainLocally action) ∧
  ∀ before after state, actions = before ++ after →
    run (step canContainLocally) start before = some state → state.Settled

theorem settled_of_run {state : Polymorphs α τ}
    (runEq : run (step canContainLocally) start actions = some state) : state.Settled := by
  have sound : state.Formed canContainLocally ∧ state.owners.Balanced := by
    apply @run_invariant _ _ _ (fun _ _ => True)
      (fun current => current.Formed canContainLocally ∧ current.owners.Balanced) _ _ _ _
      ⟨formed_start, Owners.balanced_start⟩ (guarded_true _ _ actions) runEq
    rintro current action next ⟨formed, balanced⟩ _ stepEq
    rcases step_sound formed stepEq with ⟨nextFormed, ownersEq⟩
    exact ⟨nextFormed, balanced.step ownersEq⟩
  exact settled_of_balanced sound.2

/-- The values of the polymorphs of a program are owned as they should be exactly if nothing is
moved out of a polymorph that has been given nothing, and no value is moved to itself. -/
theorem ownsValues_iff :
    OwnsValues canContainLocally actions ↔
      Guarded Owners.step Owners.MoveAllowed Owners.start actions := by
  have taken := @taken_iff_guarded_of_simulation _ _ _ (step canContainLocally) Owners.step
    (Related canContainLocally) start Owners.start (Safe canContainLocally) Owners.MoveAllowed
    (by
      rintro state _ action ⟨formed, rfl⟩
      exact safe_iff formed)
    (fun _ _ _ related safe => stepsTogether_of_safe related safe)
    actions ⟨formed_start, rfl⟩
  rw [OwnsValues, taken]
  apply and_iff_left
  intro before after state _ runEq
  exact settled_of_run runEq

/-- A default constructed polymorph is moved to another one. -/
theorem not_ownsValues_fresh :
    ¬ OwnsValues (fun _ : Unit => true)
      [.defaultConstruct 0, .defaultConstruct 1, .moveAssign 1 0] := by
  rintro ⟨safe, _⟩
  rcases safe [.defaultConstruct 0, .defaultConstruct 1] (.moveAssign 1 0) [] _ rfl rfl
    ⟨rfl, rfl⟩ with ⟨next, stepEq, _⟩
  cases stepEq

end Program

end Polymorphs

end VoxelEngine.Utility
