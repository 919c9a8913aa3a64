import Mathlib.Algebra.Order.BigOperators.Group.List
import Mathlib.Algebra.Order.Group.Nat
import Mathlib.Algebra.Ring.Nat
import VoxelEngine.Plugin.LoadWalk

/-!
# Nested loads come to an end

A call that begins to load a plugin marks it, and no call that is nested in it takes the mark
away.  So there are never more nested calls than plugins, whatever the plugins say about their
dependencies.
-/

namespace VoxelEngine.Plugin.PluginRegistry

/-- The index of names leads to plugins that are there, and all of these are listed. -/
structure Grounded (registry : PluginRegistry) : Prop where
  indexed : ∀ name address, registry.pluginsByName name = some address →
    ∃ plugin, registry.data address = some plugin ∧ plugin.info.internalName = name
  listed : ∀ address, (registry.data address).isSome → address ∈ registry.plugins

theorem SameEntries.grounded {before after : PluginRegistry} (same : SameEntries before after)
    (grounded : before.Grounded) : after.Grounded where
  indexed name address indexEq := by
    rw [same.pluginsByName] at indexEq
    rcases grounded.indexed name address indexEq with ⟨plugin, dataEq, name_eq⟩
    have names := same.map_eq (fun identity => identity.1.internalName) address
    rw [dataEq, Option.map_some, Option.map_eq_some_iff] at names
    rcases names with ⟨current, currentEq, current_eq⟩
    exact ⟨current, currentEq, current_eq.trans name_eq⟩
  listed address alive := by
    have identity := congrArg Option.isSome (same.map_eq id address)
    rw [Option.isSome_map, Option.isSome_map] at identity
    rw [same.plugins]
    apply grounded.listed
    rw [← identity]
    exact alive

/-! ## Measuring states -/

/-- Add up the weights of the states of some plugins. -/
def tally (weight : PluginState → Nat) (plugins : List Address) (states : States) : Nat :=
  (plugins.map fun address => ((states address).map weight).getD 0).sum

section Tally

variable {weight : PluginState → Nat} {plugins : List Address} {before after : States}
  {address : Address}

theorem tally_le_of
    (each : ∀ address, ((after address).map weight).getD 0 ≤ ((before address).map weight).getD 0) :
    tally weight plugins after ≤ tally weight plugins before :=
  List.sum_le_sum fun address _ => each address

theorem tally_lt_of
    (each : ∀ address, ((after address).map weight).getD 0 ≤ ((before address).map weight).getD 0)
    (mem : address ∈ plugins)
    (less : ((after address).map weight).getD 0 < ((before address).map weight).getD 0) :
    tally weight plugins after < tally weight plugins before :=
  List.sum_lt_sum _ _ (fun other _ => each other) ⟨address, mem, less⟩

theorem tally_le_length {bound : Nat} (bounded : ∀ state, weight state ≤ bound)
    (plugins : List Address) (states : States) :
    tally weight plugins states ≤ bound * plugins.length := by
  induction plugins with
  | nil => simp [tally]
  | cons address rest ih =>
      have here : ((states address).map weight).getD 0 ≤ bound := by
        cases states address with
        | none => exact Nat.zero_le _
        | some state => exact bounded state
      unfold tally at ih ⊢
      rw [List.map_cons, List.sum_cons, List.length_cons, Nat.mul_succ, Nat.add_comm]
      exact Nat.add_le_add ih here

end Tally

/-- A plugin can still begin to be loaded. -/
def canBegin : PluginState → Nat
  | .available => 1
  | _ => 0

/-- Fewer plugins are available. -/
theorem tally_canBegin_le {plugins : List Address} {before after : States}
    (each : ∀ address, after address = some .available → before address = some .available) :
    tally canBegin plugins after ≤ tally canBegin plugins before := by
  apply tally_le_of
  intro address
  cases afterEq : after address with
  | none => exact Nat.zero_le _
  | some state =>
      cases state with
      | available => rw [each address afterEq]
      | _ => exact Nat.zero_le _

theorem tally_begin_lt {plugins : List Address} {states : States} {address : Address}
    (mem : address ∈ plugins) (available : states address = some .available) :
    tally canBegin plugins (Function.update states address (some .loading)) <
      tally canBegin plugins states := by
  apply tally_lt_of _ mem
  · rw [Function.update_self, available]
    exact Nat.zero_lt_one
  · intro other
    by_cases same : other = address
    · rw [same, Function.update_self]
      exact Nat.zero_le _
    · rw [Function.update_of_ne same]

/-! ## Loading -/

section Loading

variable {registry next : PluginRegistry} {name : String} {parent : Address}
  {dependencies : List Dependency} {dependency : Dependency} {text : Option String} {depth : Nat}

/-- A dependency that is refused is looked at once. -/
theorem exists_loadDependency_refused (grounded : registry.Grounded)
    (refused : standing registry.known registry.stateOf dependency = .refused) :
    ∃ text, loadDependency (loadPlugin (depth + 1)) parent dependency registry =
      some (registry, text) := by
  unfold loadDependency
  cases existsEq : registry.checkErrors [.pluginExists] dependency.internalName .load none
      (some dependency) with
  | some message =>
      simp only [existsEq]
      exact ⟨_, rfl⟩
  | none =>
      rcases Option.isSome_iff_exists.mp
        ((checkErrors_pluginExists registry _ .load _).mp existsEq) with ⟨address, indexEq⟩
      rcases grounded.indexed _ _ indexEq with ⟨plugin, dataEq, _⟩
      cases versionEq : registry.checkErrors [.versionAllowed] dependency.internalName .load
          (some plugin) (some dependency) with
      | some message =>
          simp only [existsEq, find_eq indexEq dataEq, versionEq]
          exact ⟨_, rfl⟩
      | none =>
          rcases not_begins_of_refused refused indexEq dataEq
            ((checkErrors_versionAllowed registry _ .load plugin dependency).mp versionEq) with
            ⟨notLoaded, notBegins⟩
          rcases loadPlugin_refused depth indexEq dataEq notBegins with ⟨message, loadEq⟩
          simp only [existsEq, find_eq indexEq dataEq, versionEq, ne_eq, notLoaded,
            not_false_eq_true, if_true, loadEq]
          exact ⟨_, rfl⟩

/-- Plugins in different states can be recorded. -/
theorem exists_record {address : Address} {state other : PluginState}
    (parentState : registry.stateOf parent = some state)
    (otherState : registry.stateOf address = some other) (different : state ≠ other) :
    ∃ next, registry.record parent address = some next := by
  rcases Option.map_eq_some_iff.mp parentState with ⟨plugin, dataEq, _⟩
  rcases Option.map_eq_some_iff.mp otherState with ⟨dependency, otherEq, _⟩
  have other_ne : address ≠ parent := by
    rintro rfl
    exact different (Option.some.inj (parentState.symm.trans otherState))
  exact ⟨_, record_eq dataEq otherEq other_ne⟩

/-- The loop over the dependencies ends if the calls in it do. -/
theorem exists_loadDependencies
    (ends : ∀ {current : PluginRegistry} {called : String}, current.Grounded →
      tally canBegin current.plugins current.stateOf < depth + 1 →
        ∃ outcome, loadPlugin (depth + 1) current called = some outcome)
    (grounded : registry.Grounded) (indexed : ∃ name, registry.pluginsByName name = some parent)
    (loading : registry.stateOf parent = some .loading)
    (enough : tally canBegin registry.plugins registry.stateOf < depth + 1) :
    ∃ outcome, loadDependencies (loadPlugin (depth + 1)) parent dependencies registry =
      some outcome := by
  induction dependencies generalizing registry with
  | nil => exact ⟨_, rfl⟩
  | cons dependency rest ih =>
      -- One round is enough, as the rest ends wherever the round gets.
      have oneRound : (∃ outcome, loadDependency (loadPlugin (depth + 1)) parent dependency
          registry = some outcome) → ∃ outcome, loadDependencies (loadPlugin (depth + 1)) parent
            (dependency :: rest) registry = some outcome := by
        rintro ⟨⟨reached, message⟩, oneEq⟩
        rw [loadDependencies, oneEq]
        cases message with
        | some content => exact ⟨_, rfl⟩
        | none =>
            have single : loadDependencies (loadPlugin (depth + 1)) parent [dependency] registry =
                some (reached, none) := by
              rw [loadDependencies, oneEq]
              rfl
            rcases walk_of_loadDependencies (fun loadEq => callFollows loadEq) indexed loading
              single with ⟨walk, moved⟩
            apply ih (moved.same.grounded grounded)
            · rwa [moved.same.pluginsByName]
            · rw [walk.state_eq (by rw [loading]; simp), loading]
            · rw [moved.same.plugins]
              apply Nat.lt_of_le_of_lt _ enough
              apply tally_canBegin_le
              intro address available
              by_contra notAvailable
              rw [walk.state_eq notAvailable] at available
              exact notAvailable available
      apply oneRound
      cases standingEq : standing registry.known registry.stateOf dependency with
      | refused =>
          rcases @exists_loadDependency_refused registry parent dependency depth grounded
            standingEq with ⟨text, oneEq⟩
          exact ⟨_, oneEq⟩
      | loaded address =>
          rcases standing_eq_loaded_iff.mp standingEq with ⟨_, _, _, stateEq⟩
          rcases exists_record loading stateEq (by simp) with ⟨recorded, recordEq⟩
          rw [loadDependency_loaded standingEq, recordEq]
          exact ⟨_, rfl⟩
      | begins address info =>
          rcases standing_eq_begins_iff.mp standingEq with ⟨knownEq, _, stateEq, allowed⟩
          rcases known_eq_some_iff.mp knownEq with ⟨plugin, indexEq, dataEq, rfl⟩
          rw [loadDependency_begins standingEq]
          rcases @ends registry dependency.internalName grounded enough with
            ⟨⟨reached, message⟩, callEq⟩
          rw [callEq]
          cases message with
          | some content => exact ⟨_, rfl⟩
          | none =>
              have available := stateEq
              rw [stateOf_eq dataEq, Option.some.injEq] at available
              rcases (callFollows callEq).begun address plugin indexEq dataEq available allowed with
                ⟨middle, nested, state_eq⟩
              rw [if_pos (show (none : Option String).isNone = true from rfl)] at state_eq
              have other_ne : address ≠ parent := by
                rintro rfl
                rw [stateEq] at loading
                cases loading
              have kept : middle parent = some .loading := by
                have began : Function.update registry.stateOf address (some .loading) parent =
                    some .loading := by
                  rw [Function.update_of_ne (Ne.symm other_ne), loading]
                rw [nested.state_eq (by rw [began]; simp), began]
              have loadingNow : reached.stateOf parent = some .loading := by
                rw [state_eq, Function.update_of_ne (Ne.symm other_ne), kept]
              have loadedNow : reached.stateOf address = some .loaded := by
                rw [state_eq, Function.update_self]
              rcases exists_record loadingNow loadedNow (by simp) with ⟨recorded, recordEq⟩
              simp only [recordEq, Option.map_some]
              exact ⟨_, rfl⟩

/-- Every load ends if there are more calls to nest than plugins that can begin. -/
theorem exists_loadPlugin (grounded : registry.Grounded)
    (enough : tally canBegin registry.plugins registry.stateOf < depth) :
    ∃ outcome, loadPlugin depth registry name = some outcome := by
  induction depth generalizing registry name with
  | zero => exact absurd enough (Nat.not_lt_zero _)
  | succ depth ih =>
      cases indexEq : registry.pluginsByName name with
      | none =>
          rcases loadPlugin_unknown depth indexEq with ⟨text, loadEq⟩
          exact ⟨_, loadEq⟩
      | some address =>
          rcases grounded.indexed name address indexEq with ⟨plugin, dataEq, _⟩
          by_cases begins : plugin.state = .available ∧ plugin.info.allowDynamicLoad = true
          · rcases begins with ⟨available, allowed⟩
            have states := @stateOf_beginLoading registry address plugin
            have stateEq : registry.stateOf address = some .available := by
              rw [stateOf_eq dataEq, available]
            have fewer := tally_begin_lt (grounded.listed address (by rw [dataEq]; rfl)) stateEq
            rw [← states] at fewer
            have enoughNested := Nat.lt_of_lt_of_le fewer (Nat.le_of_lt_succ enough)
            cases depth with
            | zero => exact absurd enoughNested (Nat.not_lt_zero _)
            | succ below =>
                have begun := moved_beginLoading dataEq
                have stillLoading := @stateOf_beginLoading_self registry address plugin
                rcases @exists_loadDependencies (registry.beginLoading address plugin) address
                    plugin.info.dependencies below ih (begun.same.grounded grounded)
                    ⟨name, indexEq⟩ stillLoading enoughNested with ⟨⟨reached, message⟩, nestedEq⟩
                rw [loadPlugin_begins indexEq dataEq available allowed, nestedEq]
                cases message with
                | some content => exact ⟨_, rfl⟩
                | none =>
                    rcases @walk_of_loadDependencies (registry.beginLoading address plugin) _ _ _ _
                      _ (fun loadEq => callFollows loadEq) ⟨name, indexEq⟩ stillLoading nestedEq with
                      ⟨walk, _⟩
                    have still : reached.stateOf address =
                        (registry.beginLoading address plugin).stateOf address :=
                      walk.state_eq (by rw [stillLoading]; simp)
                    rw [stillLoading] at still
                    rcases Option.map_eq_some_iff.mp still with ⟨current, currentEq, _⟩
                    simp only [currentEq, Option.map_some]
                    exact ⟨_, rfl⟩
          · rcases loadPlugin_refused depth indexEq dataEq begins with ⟨text, loadEq⟩
            exact ⟨_, loadEq⟩

end Loading

end VoxelEngine.Plugin.PluginRegistry
