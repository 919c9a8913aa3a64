import VoxelEngine.Data.SlotVector
import VoxelEngine.Ecs.ChangeValidator
import VoxelEngine.Transition.Run

/-!
# Adding and removing rules

Rules are added to a change validator and removed by the handle that adding them gave.
Its decisions ought to depend on the rules that were added and not removed since, and on
the defaults where there are none.  They do, except for component types all of whose rules
were removed, for which everything is allowed.
-/

namespace VoxelEngine.Ecs

open VoxelEngine.ClientServer VoxelEngine.Data VoxelEngine.Transition

variable {V : Type}

/-- `change_validator::per_component_data`, with the handles that may be used again. -/
structure RuleStore (V : Type) extends PerComponentData V where
  tombstones : List Nat

/-- The entry that is made when a component type is first mentioned. -/
def RuleStore.empty : RuleStore V :=
  ⟨⟨[], none⟩, []⟩

/-- `change_validator` -/
structure RuleSet (V : Type) where
  stores : TypeHash → Option (RuleStore V)
  defaultBehaviour : ChangeResult
  checkVisibility : Option (Entity → InstanceId → Bool)

namespace RuleSet

/-- A validator without rules. -/
def create (defaultBehaviour : ChangeResult)
    (checkVisibility : Option (Entity → InstanceId → Bool)) : RuleSet V :=
  ⟨fun _ => none, defaultBehaviour, checkVisibility⟩

/-- What decides about changes; the handles that may be used again do not. -/
def validator (ruleSet : RuleSet V) : ChangeValidator V where
  rules := fun type => (ruleSet.stores type).map RuleStore.toPerComponentData
  defaultBehaviour := ruleSet.defaultBehaviour
  checkVisibility := ruleSet.checkVisibility

/-- The entry of a component type, which is made if there is none. -/
def store (ruleSet : RuleSet V) (type : TypeHash) : RuleStore V :=
  (ruleSet.stores type).getD RuleStore.empty

/-- Replace the entry of a component type. -/
def setStore (ruleSet : RuleSet V) (type : TypeHash) (store : RuleStore V) : RuleSet V :=
  { ruleSet with stores := Function.update ruleSet.stores type (some store) }

/-- `change_validator::add_rule`, which returns the handle of the rule. -/
def addRule (ruleSet : RuleSet V) (type : TypeHash) (rule : Rule V) : Nat × RuleSet V :=
  let store := ruleSet.store type
  match store.tombstones.getLast? with
  | none =>
      (store.rulesForComponent.length,
        ruleSet.setStore type
          { store with rulesForComponent := store.rulesForComponent ++ [some rule] })
  | some handle =>
      (handle,
        ruleSet.setStore type
          { store with
            rulesForComponent := store.rulesForComponent.set handle (some rule)
            tombstones := store.tombstones.dropLast })

/-- `change_validator::remove_rule`, which is not defined for handles that were never
given out. -/
def removeRule (ruleSet : RuleSet V) (type : TypeHash) (handle : Nat) : Option (RuleSet V) :=
  let store := ruleSet.store type
  if handle < store.rulesForComponent.length then
    some (ruleSet.setStore type
      { store with rulesForComponent := SlotVector.vacate store.rulesForComponent handle })
  else none

/-- `change_validator::allow_by_default` for all component types. -/
def allowByDefault (ruleSet : RuleSet V) (value : ChangeResult) : RuleSet V :=
  { ruleSet with defaultBehaviour := value }

/-- `change_validator::allow_by_default` for one component type, and
`change_validator::clear_allow_default`. -/
def setAllowDefault (ruleSet : RuleSet V) (type : TypeHash) (value : Option ChangeResult) :
    RuleSet V :=
  ruleSet.setStore type { ruleSet.store type with defaultBehaviour := value }

end RuleSet

/-- What the calls say: the rules that were added and not removed since with their handles,
whether rules were ever added, and the defaults. -/
structure RuleBook (V : Type) where
  live : TypeHash → List (Nat × Rule V)
  everAdded : TypeHash → Bool
  defaults : TypeHash → Option ChangeResult
  otherwise : ChangeResult

namespace RuleBook

/-- Nothing was said but what happens otherwise. -/
def create (otherwise : ChangeResult) : RuleBook V :=
  ⟨fun _ => [], fun _ => false, fun _ => none, otherwise⟩

/-- The decision if there are no rules. -/
def byDefault (book : RuleBook V) (type : TypeHash) : ChangeResult :=
  (book.defaults type).getD book.otherwise

/-- The decision that the rules and the defaults ask for. -/
def decision (book : RuleBook V) (remote : InstanceId) (registry : Registry V)
    (type : TypeHash) (entity : Entity) (oldValue newValue : Option V) : ChangeResult :=
  if (book.live type).isEmpty then book.byDefault type
  else if (book.live type).all fun entry => entry.2 remote registry entity oldValue newValue then
    ChangeResult.allowed
  else ChangeResult.forbidden

/-- The rules that are live at the same time have different handles. -/
def Distinct (book : RuleBook V) : Prop :=
  ∀ type, ((book.live type).map Prod.fst).Nodup

/-- Write down a rule. -/
def add (book : RuleBook V) (type : TypeHash) (handle : Nat) (rule : Rule V) : RuleBook V :=
  { book with
    live := Function.update book.live type (book.live type ++ [(handle, rule)])
    everAdded := Function.update book.everAdded type true }

/-- Strike a rule. -/
def remove (book : RuleBook V) (type : TypeHash) (handle : Nat) : RuleBook V :=
  { book with
    live := Function.update book.live type
      ((book.live type).filter fun entry => entry.1 ≠ handle) }

end RuleBook

/-- The calls that change rules and defaults. -/
inductive RuleAction (V : Type) where
  | addRule (type : TypeHash) (rule : Rule V)
  | removeRule (type : TypeHash) (handle : Nat)
  | allowByDefault (value : ChangeResult)
  | setAllowDefault (type : TypeHash) (value : Option ChangeResult)

/-- A change validator and what was said to it. -/
structure RuleKeeping (V : Type) where
  ruleSet : RuleSet V
  book : RuleBook V

namespace RuleKeeping

/-- A change validator that has just been made. -/
def start (otherwise : ChangeResult) (checkVisibility : Option (Entity → InstanceId → Bool)) :
    RuleKeeping V :=
  ⟨RuleSet.create otherwise checkVisibility, RuleBook.create otherwise⟩

/-- The transition relation of a change validator. -/
def step : Step (RuleKeeping V) (RuleAction V)
  | state, .addRule type rule =>
      let added := state.ruleSet.addRule type rule
      some ⟨added.2, state.book.add type added.1 rule⟩
  | state, .removeRule type handle =>
      (state.ruleSet.removeRule type handle).map fun ruleSet =>
        ⟨ruleSet, state.book.remove type handle⟩
  | state, .allowByDefault value =>
      some ⟨state.ruleSet.allowByDefault value, { state.book with otherwise := value }⟩
  | state, .setAllowDefault type value =>
      some
        ⟨state.ruleSet.setAllowDefault type value,
          { state.book with defaults := Function.update state.book.defaults type value }⟩

/-- The entry of a component type agrees with what was said about the type. -/
structure Kept (store : RuleStore V) (live : List (Nat × Rule V)) (everAdded : Bool)
    (default : Option ChangeResult) : Prop where
  noneFree : store.tombstones = []
  mem_iff : ∀ handle rule,
    (handle, rule) ∈ live ↔ SlotVector.occupant store.rulesForComponent handle = some rule
  distinct : (live.map Prod.fst).Nodup
  added : everAdded = !store.rulesForComponent.isEmpty
  default : store.defaultBehaviour = default

/-- All entries agree with what was said. -/
structure Inv (state : RuleKeeping V) : Prop where
  kept : ∀ type, Kept (state.ruleSet.store type) (state.book.live type)
    (state.book.everAdded type) (state.book.defaults type)
  otherwise : state.ruleSet.defaultBehaviour = state.book.otherwise

variable {store : RuleStore V} {live : List (Nat × Rule V)} {everAdded : Bool}
  {default : Option ChangeResult}

theorem Kept.empty : Kept (RuleStore.empty : RuleStore V) [] false none :=
  ⟨rfl, fun _ _ => ⟨nofun, nofun⟩, List.nodup_nil, rfl, rfl⟩

/-- A rule that is added gets a handle that no other rule has. -/
theorem Kept.addRule (kept : Kept store live everAdded default) (rule : Rule V) :
    Kept { store with rulesForComponent := store.rulesForComponent ++ [some rule] }
      (live ++ [(store.rulesForComponent.length, rule)]) true default := by
  have fresh : ∀ other, (store.rulesForComponent.length, other) ∉ live := by
    intro other mem
    exact absurd (SlotVector.lt_of_occupant ((kept.mem_iff _ _).mp mem)) (Nat.lt_irrefl _)
  constructor
  · exact kept.noneFree
  · intro handle other
    rw [List.mem_append, List.mem_singleton, SlotVector.occupant_concat, Prod.mk.injEq]
    by_cases last : handle = store.rulesForComponent.length
    · rw [if_pos last, Option.some.injEq]
      constructor
      · rintro (mem | ⟨_, rfl⟩)
        · rw [last] at mem
          exact absurd mem (fresh other)
        · rfl
      · intro same
        exact Or.inr ⟨last, same.symm⟩
    · rw [if_neg last, ← kept.mem_iff]
      constructor
      · rintro (mem | ⟨same, _⟩)
        · exact mem
        · exact absurd same last
      · exact Or.inl
  · rw [List.map_append, List.nodup_append']
    refine ⟨kept.distinct, List.nodup_singleton _, ?_⟩
    intro handle mem last
    rcases List.mem_map.mp mem with ⟨⟨used, other⟩, entryMem, rfl⟩
    have same : used = store.rulesForComponent.length := List.mem_singleton.mp last
    rw [same] at entryMem
    exact fresh other entryMem
  · simp
  · exact kept.default

/-- Removing a rule removes just this rule. -/
theorem Kept.removeRule (kept : Kept store live everAdded default) (handle : Nat) :
    Kept { store with rulesForComponent := SlotVector.vacate store.rulesForComponent handle }
      (live.filter fun entry => entry.1 ≠ handle) everAdded default := by
  constructor
  · exact kept.noneFree
  · intro other rule
    rw [List.mem_filter, SlotVector.occupant_vacate]
    by_cases other_eq : other = handle
    · simp [other_eq]
    · simp [other_eq, kept.mem_iff]
  · exact kept.distinct.sublist (List.filter_sublist.map Prod.fst)
  · rw [kept.added]
    cases store.rulesForComponent with
    | nil => rfl
    | cons first rest => cases handle <;> rfl
  · exact kept.default

variable {state next : RuleKeeping V}

@[simp]
theorem store_setStore (ruleSet : RuleSet V) (type other : TypeHash) (store : RuleStore V) :
    (ruleSet.setStore type store).store other =
      if other = type then store else ruleSet.store other := by
  unfold RuleSet.setStore RuleSet.store
  by_cases other_eq : other = type
  · simp [other_eq]
  · simp [other_eq]

theorem inv_start (otherwise : ChangeResult)
    (checkVisibility : Option (Entity → InstanceId → Bool)) :
    Inv (start otherwise checkVisibility : RuleKeeping V) :=
  ⟨fun _ => Kept.empty, rfl⟩

/-- Every call keeps the entries and what was said in agreement. -/
theorem Inv.step {action : RuleAction V} (inv : Inv state)
    (stepEq : RuleKeeping.step state action = some next) : Inv next := by
  cases action with
  | addRule type rule =>
      rw [← Option.some.inj stepEq]
      have noneFree : (state.ruleSet.store type).tombstones.getLast? = none := by
        rw [(inv.kept type).noneFree]
        rfl
      rw [RuleSet.addRule, noneFree]
      refine ⟨?_, inv.otherwise⟩
      intro other
      rw [store_setStore]
      by_cases other_eq : other = type
      · subst other_eq
        simp only [RuleBook.add, if_true, Function.update_self]
        exact (inv.kept other).addRule rule
      · simp only [RuleBook.add, if_neg other_eq, Function.update_of_ne other_eq]
        exact inv.kept other
  | removeRule type handle =>
      simp only [RuleKeeping.step, RuleSet.removeRule, Option.map_eq_some_iff,
        Option.ite_none_right_eq_some, Option.some.injEq] at stepEq
      rcases stepEq with ⟨_, ⟨_, rfl⟩, rfl⟩
      refine ⟨?_, inv.otherwise⟩
      intro other
      rw [store_setStore]
      by_cases other_eq : other = type
      · subst other_eq
        simp only [RuleBook.remove, if_true, Function.update_self]
        exact (inv.kept other).removeRule handle
      · simp only [RuleBook.remove, if_neg other_eq, Function.update_of_ne other_eq]
        exact inv.kept other
  | allowByDefault value =>
      rw [← Option.some.inj stepEq]
      exact ⟨inv.kept, rfl⟩
  | setAllowDefault type value =>
      rw [← Option.some.inj stepEq]
      refine ⟨?_, inv.otherwise⟩
      intro other
      rw [RuleSet.setAllowDefault, store_setStore]
      by_cases other_eq : other = type
      · subst other_eq
        simp only [if_true, Function.update_self]
        have kept := inv.kept other
        exact ⟨kept.noneFree, kept.mem_iff, kept.distinct, kept.added, rfl⟩
      · simp only [if_neg other_eq, Function.update_of_ne other_eq]
        exact inv.kept other

/-- All rules in the entry pass if and only if all live rules do. -/
theorem Kept.passes_iff (kept : Kept store live everAdded default) (remote : InstanceId)
    (registry : Registry V) (entity : Entity) (oldValue newValue : Option V) :
    store.passes remote registry entity oldValue newValue =
      live.all fun entry => entry.2 remote registry entity oldValue newValue := by
  rw [Bool.eq_iff_iff, PerComponentData.passes, List.all_eq_true, List.all_eq_true]
  constructor
  · rintro passes ⟨handle, rule⟩ mem
    exact passes (some rule) (SlotVector.mem_of_occupant ((kept.mem_iff handle rule).mp mem))
  · intro passes slot mem
    cases slot with
    | none => rfl
    | some rule =>
        rcases SlotVector.occupant_of_mem mem with ⟨handle, occupied⟩
        exact passes (handle, rule) ((kept.mem_iff handle rule).mpr occupied)

/-- The decision of a change validator whose entries agree with what was said.  Once rules
were added, it follows the live rules, even if there are none left. -/
theorem Inv.isAllowed_eq (inv : Inv state) {remote : InstanceId} {registry : Registry V}
    {type : TypeHash} {entity : Entity} {oldValue newValue : Option V}
    (seen : state.ruleSet.validator.hides remote entity = false) :
    state.ruleSet.validator.isAllowed remote registry type entity oldValue newValue =
      if state.book.everAdded type = false then state.book.byDefault type
      else if (state.book.live type).all fun entry =>
          entry.2 remote registry entity oldValue newValue then ChangeResult.allowed
      else ChangeResult.forbidden := by
  have kept := inv.kept type
  have passes := kept.passes_iff remote registry entity oldValue newValue
  have added := kept.added
  have defaults := kept.default
  rw [ChangeValidator.isAllowed, seen, if_neg Bool.false_ne_true]
  unfold RuleSet.store at passes added defaults
  simp only [RuleSet.validator]
  cases stored : state.ruleSet.stores type with
  | none =>
      rw [stored] at added defaults
      rw [if_pos (by rw [added]; rfl), Option.map_none, RuleBook.byDefault, ← defaults]
      exact inv.otherwise
  | some store =>
      rw [stored] at passes added defaults
      rw [Option.map_some, ← passes, added, RuleBook.byDefault, ← defaults, ← inv.otherwise]
      by_cases noRules : store.rulesForComponent = []
      · simp [noRules, PerComponentData.behaviour]
      · simp [noRules]

/-- After any sequence of calls, handles of live rules are distinct, and the decision about
a change that is not hidden is the one that the live rules and the defaults ask for, if and
only if there is a live rule, no rule was ever added, or the default allows the change
anyway. -/
theorem decision_followed_iff (otherwise : ChangeResult)
    (checkVisibility : Option (Entity → InstanceId → Bool)) (actions : List (RuleAction V))
    (final : RuleKeeping V)
    (runEq : run RuleKeeping.step (start otherwise checkVisibility) actions = some final)
    (remote : InstanceId) (registry : Registry V) (type : TypeHash) (entity : Entity)
    (oldValue newValue : Option V)
    (seen : final.ruleSet.validator.hides remote entity = false) :
    (final.book.Distinct ∧
      final.ruleSet.validator.isAllowed remote registry type entity oldValue newValue =
        final.book.decision remote registry type entity oldValue newValue) ↔
      final.book.live type ≠ [] ∨ final.book.everAdded type = false ∨
        final.book.byDefault type = ChangeResult.allowed := by
  have inv : Inv final :=
    run_invariant (fun _ _ _ inv _ stepEq => inv.step stepEq)
      (inv_start otherwise checkVisibility) (guarded_true _ _ _) runEq
  have distinct : final.book.Distinct := fun other => (inv.kept other).distinct
  rw [inv.isAllowed_eq seen, RuleBook.decision]
  cases live : final.book.live type with
  | nil =>
      cases added : final.book.everAdded type with
      | false => simp [distinct]
      | true => simp [distinct, eq_comm]
  | cons first rest =>
      have added : final.book.everAdded type = true := by
        have kept := inv.kept type
        rw [kept.added]
        have mem : first ∈ final.book.live type := by
          rw [live]
          exact List.mem_cons_self
        have occupied := (kept.mem_iff first.1 first.2).mp mem
        have inside := SlotVector.lt_of_occupant occupied
        cases rules : (final.ruleSet.store type).rulesForComponent with
        | nil =>
            rw [rules] at inside
            exact absurd inside (Nat.not_lt_zero _)
        | cons _ _ => rfl
      simp [distinct, added]

/-- A rule that forbids everything. -/
def forbidAll : Rule Unit :=
  fun _ _ _ _ _ => false

/-- A registry without entities. -/
def emptyRegistry : Registry Unit :=
  ⟨EntityPool.empty, fun _ _ => none⟩

/-- The decision follows the one rule that is left. -/
theorem decision_followed_replaced :
    ∃ final, run step (start ChangeResult.unobservable none)
        [.addRule 5 fun _ _ _ _ _ => true, .addRule 5 forbidAll, .removeRule 5 0] = some final ∧
      final.ruleSet.validator.isAllowed 0 emptyRegistry 5 ⟨0, 0⟩ none none =
        ChangeResult.forbidden ∧
      final.book.Distinct ∧
      final.ruleSet.validator.isAllowed 0 emptyRegistry 5 ⟨0, 0⟩ none none =
        final.book.decision 0 emptyRegistry 5 ⟨0, 0⟩ none none := by
  refine ⟨_, rfl, rfl, ?_⟩
  exact (decision_followed_iff ChangeResult.unobservable none
    [.addRule 5 fun _ _ _ _ _ => true, .addRule 5 forbidAll, .removeRule 5 0] _ rfl 0
    emptyRegistry 5 ⟨0, 0⟩ none none rfl).mpr (Or.inl (List.cons_ne_nil _ _))

/-- Without its only rule a component type is open to all changes, although changes are
unobservable by default. -/
theorem default_not_restored :
    ∃ final, run step (start ChangeResult.unobservable none)
        [.addRule 5 forbidAll, .removeRule 5 0] = some final ∧
      final.ruleSet.validator.hides 0 ⟨0, 0⟩ = false ∧
      final.ruleSet.validator.isAllowed 0 emptyRegistry 5 ⟨0, 0⟩ none none =
        ChangeResult.allowed ∧
      final.book.decision 0 emptyRegistry 5 ⟨0, 0⟩ none none = ChangeResult.unobservable :=
  ⟨_, rfl, rfl, rfl, rfl⟩

end RuleKeeping

end VoxelEngine.Ecs
