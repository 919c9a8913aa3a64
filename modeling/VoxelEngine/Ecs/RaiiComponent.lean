import VoxelEngine.Data.Holdings
import VoxelEngine.Transition.Run
import Mathlib.Algebra.Order.Group.Multiset
import Mathlib.Tactic.Abel

/-!
# Components that invoke a function at their end

The destructor of a component invokes the function that is stored in it, unless the function
was moved out.  Assigning to a component writes over its storage, so that a function that is
still there is destroyed without being invoked.
-/

namespace VoxelEngine.Ecs

open VoxelEngine.Data VoxelEngine.Transition

/-- `stack_polymorph`, for values of one type.  The storage is the buffer or the pointer that was
written last, and the mover knows whether the type is stored locally. -/
structure StackPolymorph (F : Type) where
  isLocal : Bool
  hasValue : Bool
  storage : Option F
  moveValue : Option Bool
  deriving DecidableEq

namespace StackPolymorph

variable {F : Type}

/-- `stack_polymorph::stack_polymorph()` -/
def null : StackPolymorph F :=
  ⟨false, false, none, none⟩

/-- `stack_polymorph::delete_value` -/
def deleteValue (self : StackPolymorph F) : StackPolymorph F :=
  { self with hasValue := false }

/-- `stack_polymorph::operator=(Derived&&)` -/
def assign (self : StackPolymorph F) (canContainLocally : Bool) (value : F) :
    StackPolymorph F :=
  { self.deleteValue with
    hasValue := true
    moveValue := some canContainLocally
    storage := some value
    isLocal := canContainLocally }

/-- `stack_polymorph::get` -/
def get (self : StackPolymorph F) : Option F :=
  if self.hasValue then self.storage else none

/-- The storage can be moved, and contains a value if it says so. -/
structure Formed (polymorph : StackPolymorph F) : Prop where
  movable : polymorph.moveValue.isSome = true
  filled : polymorph.hasValue = true → polymorph.storage.isSome = true

end StackPolymorph

/-- The components that are alive, by their addresses, and the functions that were invoked. -/
structure RaiiComponents (α F : Type) where
  components : α → Option (StackPolymorph F)
  invoked : List F

/-- What is done to components. -/
inductive RaiiAction (α F : Type) where
  | construct (address : α) (fn : F)
  | moveConstruct (address other : α)
  | moveAssign (target other : α)
  | destroy (address : α)

namespace RaiiAction

variable {α F : Type}

/-- The function that is given to a new component. -/
def given : RaiiAction α F → List F
  | .construct _ fn => [fn]
  | .moveConstruct .. | .moveAssign .. | .destroy _ => []

/-- `registry::set_component`, where the entity has the component `stored` already, or gets it. -/
def setComponent (stored component : α) (hasComponent : Bool) : List (RaiiAction α F) :=
  if hasComponent then [.moveAssign stored component] else [.moveConstruct stored component]

/-- `registry::remove_component`, whose result is not used. -/
def removeComponent (stored component : α) : List (RaiiAction α F) :=
  [.moveConstruct component stored, .destroy stored, .destroy component]

/-- `registry::destroy_entity`, for one component of the entity. -/
def destroyEntity (stored : α) : List (RaiiAction α F) :=
  [.destroy stored]

end RaiiAction

namespace RaiiComponents

variable {α F : Type}

/-- No components. -/
def initial : RaiiComponents α F :=
  ⟨fun _ => none, []⟩

/-- The functions that are stored in components. -/
def function (state : RaiiComponents α F) (address : α) : Option F :=
  (state.components address).bind StackPolymorph.get

variable [DecidableEq α]

/-- Write to the storage of a component. -/
def write (state : RaiiComponents α F) (address : α) (storage : Option (StackPolymorph F)) :
    RaiiComponents α F :=
  { state with components := Function.update state.components address storage }

/-- The function that `stack_polymorph::make_mover` returns.  The storage that is moved may be the
one it is moved to. -/
def mover (state : RaiiComponents α F) (source target : α) : Option (RaiiComponents α F) := do
  let old ← state.components target
  let cleared := state.write target (some old.deleteValue)
  let moved ← cleared.components source
  let emptied ← cleared.components target
  let begun := cleared.write target (some { emptied with moveValue := moved.moveValue })
  if moved.hasValue then
    let filled := begun.write target (some
      { emptied with
        moveValue := moved.moveValue
        storage := moved.storage
        isLocal := moved.isLocal
        hasValue := moved.hasValue })
    return filled.write source (some moved.deleteValue)
  else return begun

/-- `stack_polymorph::operator=(stack_polymorph&&)` -/
def moveValue (state : RaiiComponents α F) (source target : α) : Option (RaiiComponents α F) := do
  let moved ← state.components source
  let _ ← moved.moveValue
  state.mover source target

/-- `raii_component::~raii_component` -/
def destroy (state : RaiiComponents α F) (address : α) : Option (RaiiComponents α F) :=
  (state.components address).map fun storage =>
    { state.write address none with invoked := state.invoked ++ storage.get.toList }

/-- One action, on components that exist. -/
def step (canContainLocally : Bool) : Step (RaiiComponents α F) (RaiiAction α F)
  | state, .construct address fn =>
      if (state.components address).isSome then none
      else some (state.write address (some (StackPolymorph.null.assign canContainLocally fn)))
  | state, .moveConstruct address other =>
      if (state.components address).isSome then none
      else (state.write address (some StackPolymorph.null)).moveValue other address
  | state, .moveAssign target other => state.moveValue other target
  | state, .destroy address => state.destroy address

/-! ## Moving a function -/

variable {state next : RaiiComponents α F} {address source target : α}

/-- The storage of every component is as the functions of `stack_polymorph` leave it. -/
def Formed (state : RaiiComponents α F) : Prop :=
  ∀ address, ∀ storage ∈ state.components address, storage.Formed

omit [DecidableEq α] in
theorem formed_initial : (initial : RaiiComponents α F).Formed := by
  intro address storage mem
  cases mem

@[simp]
theorem components_write (state : RaiiComponents α F) (address : α)
    (storage : Option (StackPolymorph F)) (other : α) :
    (state.write address storage).components other =
      if other = address then storage else state.components other :=
  Function.update_apply _ _ _ _

theorem Formed.write (formed : state.Formed) (address : α)
    {written : Option (StackPolymorph F)} (each : ∀ storage ∈ written, storage.Formed) :
    (state.write address written).Formed := by
  intro other storage mem
  rw [components_write] at mem
  split at mem
  · exact each storage mem
  · exact formed other storage mem

@[simp]
theorem function_write (state : RaiiComponents α F) (address : α)
    (storage : Option (StackPolymorph F)) :
    (state.write address storage).function =
      Function.update state.function address (storage.bind StackPolymorph.get) := by
  funext other
  simp only [function, components_write, Function.update_apply]
  split
  · rfl
  · rfl

/-- The mover clears the target, and moves the value unless it was in the target. -/
theorem mover_eq_some {old moved : StackPolymorph F}
    (targetEq : state.components target = some old)
    (sourceEq : state.components source = some moved) :
    state.mover source target = some (
      if source ≠ target ∧ moved.hasValue = true then
        (state.write target (some moved)).write source (some moved.deleteValue)
      else state.write target (some { old.deleteValue with moveValue := moved.moveValue })) := by
  have twice : ∀ first second, (state.write target first).write target second =
      state.write target second := by
    intro first second
    simp only [write, Function.update_idem]
  by_cases same : source = target
  · subst same
    cases targetEq.symm.trans sourceEq
    simp [mover, targetEq, components_write, twice, StackPolymorph.deleteValue]
  · cases hasValue : moved.hasValue with
    | false =>
        simp [mover, targetEq, sourceEq, components_write, twice, same, hasValue]
    | true =>
        simp [mover, targetEq, sourceEq, components_write, twice, same, hasValue]

/-- Moving needs two components, the first of which can be moved. -/
theorem moveValue_eq_some_iff :
    state.moveValue source target = some next ↔
      ∃ old moved, state.components target = some old ∧ state.components source = some moved ∧
        moved.moveValue.isSome = true ∧ state.mover source target = some next := by
  simp only [moveValue, Option.bind_eq_bind, Option.bind_eq_some_iff]
  constructor
  · rintro ⟨moved, sourceEq, kind, kindEq, nextEq⟩
    have targetAlive : (state.components target).isSome = true := by
      cases targetEq : state.components target with
      | none =>
          simp only [mover, targetEq, Option.bind_eq_bind, Option.bind_none] at nextEq
          cases nextEq
      | some old => rfl
    rcases Option.isSome_iff_exists.mp targetAlive with ⟨old, targetEq⟩
    exact ⟨old, moved, targetEq, sourceEq, by rw [kindEq]; rfl, nextEq⟩
  · rintro ⟨old, moved, _, sourceEq, movable, nextEq⟩
    rcases Option.isSome_iff_exists.mp movable with ⟨kind, kindEq⟩
    exact ⟨moved, sourceEq, kind, kindEq, nextEq⟩

/-- Everything moving a storage does: the function goes from one component to the other, and
what the other one contained is gone. -/
theorem moveValue_spec (moved : state.moveValue source target = some next)
    (formed : ∀ address, address ≠ target → ∀ storage ∈ state.components address,
      storage.Formed) :
    next.Formed ∧ next.invoked = state.invoked ∧
      (∀ address, (next.components address).isSome = (state.components address).isSome) ∧
      next.function =
        Function.update (Function.update state.function target (state.function source))
          source none := by
  rcases moveValue_eq_some_iff.mp moved with ⟨old, storage, targetEq, sourceEq, movable, nextEq⟩
  have sourceFunction : state.function source = storage.get := by
    rw [function, sourceEq, Option.bind_some]
  rw [mover_eq_some targetEq sourceEq] at nextEq
  rw [← Option.some.inj nextEq]
  have elsewhere : ∀ {written : StackPolymorph F}, written.Formed →
      (state.write target (some written)).Formed := by
    intro written writtenFormed address present mem
    rw [components_write] at mem
    split at mem
    · cases mem
      exact writtenFormed
    · rename_i notTarget
      exact formed address notTarget present mem
  split
  · rename_i moves
    rcases moves with ⟨different, hasValue⟩
    have storageFormed := formed source different storage sourceEq
    refine ⟨?_, rfl, ?_, ?_⟩
    · apply (elsewhere storageFormed).write
      rintro _ ⟨rfl⟩
      exact ⟨movable, fun full => Bool.noConfusion full⟩
    · intro address
      simp only [components_write]
      split
      · rename_i isSource
        rw [isSource, sourceEq]
        rfl
      · split
        · rename_i isTarget
          rw [isTarget, targetEq]
          rfl
        · rfl
    · rw [function_write, function_write, sourceFunction]
      rfl
  · rename_i stays
    refine ⟨elsewhere ⟨movable, fun full => Bool.noConfusion full⟩, rfl, ?_, ?_⟩
    · intro address
      rw [components_write]
      split
      · rename_i isTarget
        rw [isTarget, targetEq]
        rfl
      · rfl
    · rw [function_write, sourceFunction]
      change Function.update state.function target none = _
      by_cases same : source = target
      · rw [same, Function.update_idem]
      · have empty : storage.get = none := by
          rw [StackPolymorph.get, if_neg]
          exact fun hasValue => stays ⟨same, hasValue⟩
        have cleared : Function.update state.function target none source = none := by
          rw [Function.update_apply, sourceFunction, empty, ite_self]
        rw [empty, eq_comm, Function.update_eq_self_iff, cleared]

/-! ## Accounting -/

/-- The function that an action destroys without invoking it. -/
def lostBy (state : RaiiComponents α F) : RaiiAction α F → List F
  | .moveAssign target _ => (state.function target).toList
  | .construct .. | .moveConstruct .. | .destroy _ => []

/-- Every function that was given was invoked, or is held by a component, or was lost. -/
structure Accounts (state : RaiiComponents α F) (given lost : List F) : Prop where
  formed : state.Formed
  balance : ∃ held, Holds state.function held ∧
    (given : Multiset F) = state.invoked + held + lost

omit [DecidableEq α] in
theorem accounts_initial : (initial : RaiiComponents α F).Accounts [] [] :=
  ⟨formed_initial, [], Holds.empty, rfl⟩

variable {given lost : List F} {other : α}

/-- Moving loses what the target held. -/
theorem balance_moveValue {held : List F} (holds : Holds state.function held)
    (balance : (given : Multiset F) = state.invoked + held + lost)
    (moved : next.invoked = state.invoked)
    (function_eq : next.function =
      Function.update (Function.update state.function target (state.function source))
        source none) :
    ∃ kept, Holds next.function kept ∧ (given : Multiset F) =
      next.invoked + kept + (lost ++ (state.function target).toList : List F) := by
  rcases holds.move source target with ⟨kept, keptHolds, perm⟩
  refine ⟨kept, function_eq ▸ keptHolds, ?_⟩
  have heldEq : (held : Multiset F) = (state.function target).toList + kept := by
    rw [Multiset.coe_add]
    exact Multiset.coe_eq_coe.mpr perm
  rw [balance, heldEq, moved, ← Multiset.coe_add]
  abel

/-- Every action keeps the accounts. -/
theorem Accounts.step (accounts : state.Accounts given lost) {canContainLocally : Bool}
    {action : RaiiAction α F} (stepEq : step canContainLocally state action = some next) :
    next.Accounts (given ++ action.given) (lost ++ state.lostBy action) := by
  rcases accounts with ⟨formed, held, holds, balance⟩
  cases action with
  | construct address fn =>
      rcases Option.ite_none_left_eq_some.mp stepEq with ⟨unused, nextEq⟩
      rw [← Option.some.inj nextEq]
      have vacant : state.function address = none := by
        rw [function, Option.not_isSome_iff_eq_none.mp unused, Option.bind_none]
      refine ⟨formed.write address ?_, fn :: held, ?_, ?_⟩
      · rintro _ ⟨rfl⟩
        exact ⟨rfl, fun _ => rfl⟩
      · rw [function_write]
        exact holds.put vacant fn
      · rw [← Multiset.coe_add, balance, ← Multiset.cons_coe, lostBy, List.append_nil]
        change _ = (state.invoked : Multiset F) + _ + _
        rw [← Multiset.singleton_add]
        change _ + ({fn} : Multiset F) = _
        abel
  | moveConstruct address other =>
      rcases Option.ite_none_left_eq_some.mp stepEq with ⟨unused, moved⟩
      have vacant : state.function address = none := by
        rw [function, Option.not_isSome_iff_eq_none.mp unused, Option.bind_none]
      have begun : (state.write address (some StackPolymorph.null)).function =
          state.function := by
        rw [function_write, Function.update_eq_self_iff, vacant]
        rfl
      have elsewhere : ∀ any, any ≠ address →
          ∀ storage ∈ (state.write address (some StackPolymorph.null)).components any,
            storage.Formed := by
        intro any any_ne storage mem
        rw [components_write, if_neg any_ne] at mem
        exact formed any storage mem
      rcases moveValue_spec moved elsewhere with ⟨nextFormed, invoked, _, function_eq⟩
      rw [begun] at function_eq
      rcases balance_moveValue holds balance invoked function_eq with ⟨kept, keptHolds, keptEq⟩
      refine ⟨nextFormed, kept, keptHolds, ?_⟩
      rw [RaiiAction.given, List.append_nil]
      rw [vacant] at keptEq
      exact keptEq
  | moveAssign target other =>
      rcases moveValue_spec stepEq fun address _ => formed address with
        ⟨nextFormed, invoked, _, function_eq⟩
      rcases balance_moveValue holds balance invoked function_eq with ⟨kept, keptHolds, keptEq⟩
      refine ⟨nextFormed, kept, keptHolds, ?_⟩
      rw [RaiiAction.given, List.append_nil]
      exact keptEq
  | destroy address =>
      rcases Option.map_eq_some_iff.mp stepEq with ⟨storage, storageEq, rfl⟩
      have functionEq : state.function address = storage.get := by
        rw [function, storageEq, Option.bind_some]
      rcases holds.clear address with ⟨rest, restHolds, perm⟩
      refine ⟨formed.write address (by simp), rest, ?_, ?_⟩
      · change Holds (state.write address none).function rest
        rw [function_write]
        exact restHolds
      · have heldEq : (held : Multiset F) = storage.get.toList + rest := by
          rw [Multiset.coe_add, ← functionEq]
          exact Multiset.coe_eq_coe.mpr perm
        rw [RaiiAction.given, List.append_nil, lostBy, List.append_nil, balance, heldEq]
        change _ = ((state.invoked ++ storage.get.toList : List F) : Multiset F) + _ + _
        rw [← Multiset.coe_add]
        abel

/-- The functions that the actions of a run destroy without invoking them. -/
def lostIn (canContainLocally : Bool) : RaiiComponents α F → List (RaiiAction α F) → List F
  | _, [] => []
  | state, action :: rest =>
      state.lostBy action ++
        match RaiiComponents.step canContainLocally state action with
        | some next => lostIn canContainLocally next rest
        | none => []

/-- The functions that are given to new components. -/
def givenIn (actions : List (RaiiAction α F)) : List F :=
  actions.flatMap RaiiAction.given

theorem Accounts.run {canContainLocally : Bool} {actions : List (RaiiAction α F)}
    {given lost : List F} (accounts : state.Accounts given lost)
    (runEq : run (RaiiComponents.step canContainLocally) state actions = some next) :
    next.Accounts (given ++ givenIn actions)
      (lost ++ lostIn canContainLocally state actions) := by
  induction actions generalizing state given lost with
  | nil =>
      cases runEq
      rw [givenIn, lostIn, List.flatMap_nil, List.append_nil, List.append_nil]
      exact accounts
  | cons action rest ih =>
      rcases (run_cons_eq_some_iff _ _ _ _ _).mp runEq with ⟨middle, stepEq, restRun⟩
      have later := ih (accounts.step stepEq) restRun
      rw [List.append_assoc, List.append_assoc] at later
      rw [givenIn, List.flatMap_cons, lostIn, stepEq]
      exact later

/-- An assignment is made to a component whose function was moved out. -/
def OntoEmpty (state : RaiiComponents α F) : RaiiAction α F → Prop
  | .moveAssign target _ => state.function target = none
  | .construct .. | .moveConstruct .. | .destroy _ => True

omit [DecidableEq α] in
@[simp]
theorem lostBy_eq_nil_iff (action : RaiiAction α F) :
    state.lostBy action = [] ↔ state.OntoEmpty action := by
  cases action with
  | construct address fn => exact iff_of_true rfl trivial
  | moveConstruct address other => exact iff_of_true rfl trivial
  | moveAssign target other => exact Option.toList_eq_nil_iff
  | destroy address => exact iff_of_true rfl trivial

@[simp]
theorem lostIn_eq_nil_iff {canContainLocally : Bool} (state : RaiiComponents α F)
    (actions : List (RaiiAction α F)) :
    lostIn canContainLocally state actions = [] ↔
      Guarded (step canContainLocally) OntoEmpty state actions := by
  induction actions generalizing state with
  | nil => exact iff_of_true rfl trivial
  | cons action rest ih =>
      rw [lostIn, List.append_eq_nil_iff, lostBy_eq_nil_iff, Guarded]
      apply and_congr_right
      intro _
      cases step canContainLocally state action with
      | none => exact iff_of_true rfl trivial
      | some middle => exact ih middle

/-- Once all components are gone, every function that was given was invoked exactly once, if
and only if every assignment was made to a component without a function. -/
theorem invoked_once_iff (canContainLocally : Bool) (actions : List (RaiiAction α F))
    (final : RaiiComponents α F)
    (runEq : run (step canContainLocally) initial actions = some final)
    (gone : ∀ address, final.components address = none) :
    final.invoked.Perm (givenIn actions) ↔
      Guarded (step canContainLocally) OntoEmpty initial actions := by
  rcases accounts_initial.run runEq with ⟨_, held, holds, balance⟩
  have none_held : held = [] := by
    apply holds.eq_nil
    intro address
    rw [function, gone address, Option.bind_none]
  rw [← lostIn_eq_nil_iff]
  rw [none_held, Multiset.coe_nil, add_zero, List.nil_append, List.nil_append] at balance
  constructor
  · intro perm
    have sizes := congrArg Multiset.card balance
    rw [Multiset.card_add, Multiset.coe_card, Multiset.coe_card, Multiset.coe_card,
      perm.length_eq] at sizes
    exact List.eq_nil_of_length_eq_zero (Nat.left_eq_add.mp sizes)
  · intro nothing
    rw [nothing, Multiset.coe_nil, add_zero] at balance
    exact (Multiset.coe_eq_coe.mp balance).symm

/-- A component that is set once and removed invokes its function once. -/
theorem invoked_once_removed :
    ∃ final,
      run (step true) (initial : RaiiComponents Bool Nat)
          ([.construct false 1] ++ RaiiAction.setComponent true false false ++
            [.destroy false] ++ RaiiAction.removeComponent true false) = some final ∧
        final.invoked.Perm [1] := by
  have reached : (run (step true) (initial : RaiiComponents Bool Nat)
      ([.construct false 1] ++ RaiiAction.setComponent true false false ++
        [.destroy false] ++ RaiiAction.removeComponent true false)).map (fun final =>
          decide (∀ address, final.components address = none)) = some true := by
    decide
  rcases Option.map_eq_some_iff.mp reached with ⟨final, runEq, gone⟩
  refine ⟨final, runEq, (invoked_once_iff true _ final runEq (of_decide_eq_true gone)).mpr ?_⟩
  exact ⟨trivial, trivial, trivial, trivial, trivial, trivial, trivial⟩

/-- When the component of an entity is set for the second time, the first function is lost. -/
theorem overwritten_not_invoked :
    ∃ final,
      run (step true) (initial : RaiiComponents Bool Nat)
          ([.construct false 1] ++ RaiiAction.setComponent true false false ++
            [.destroy false, .construct false 2] ++ RaiiAction.setComponent true false true ++
            [.destroy false] ++ RaiiAction.destroyEntity true) = some final ∧
        (∀ address, final.components address = none) ∧ ¬final.invoked.Perm [1, 2] := by
  have reached : (run (step true) (initial : RaiiComponents Bool Nat)
      ([.construct false 1] ++ RaiiAction.setComponent true false false ++
        [.destroy false, .construct false 2] ++ RaiiAction.setComponent true false true ++
        [.destroy false] ++ RaiiAction.destroyEntity true)).map (fun final =>
          (decide (∀ address, final.components address = none), final.invoked)) =
            some (true, [2]) := by
    decide
  rcases Option.map_eq_some_iff.mp reached with ⟨final, runEq, found⟩
  rw [Prod.mk.injEq, decide_eq_true_eq] at found
  refine ⟨final, runEq, found.1, ?_⟩
  rw [found.2]
  exact fun perm => absurd perm.length_eq (by decide)

end RaiiComponents

end VoxelEngine.Ecs
