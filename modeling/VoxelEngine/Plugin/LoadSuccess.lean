import VoxelEngine.Plugin.LoadOrder
import VoxelEngine.Plugin.Termination

/-!
# Plugins that can be loaded

The registry loads the plugins that can be loaded, but for those that are only meant to be loaded
at startup, and those of which an optional dependency gets in the way.
-/

namespace VoxelEngine.Plugin.PluginRegistry

open Relation VoxelEngine.Transition

/-- `plugin_registry::load_plugin` with both of its parameters.  The second one is passed on to
the plugin and to the loads of its dependencies, and `check_errors` is not told of it. -/
def loadAs (registry : PluginRegistry) (name : String) (_dynamic : Bool) : Outcome :=
  registry.perform (.load name)

/-- All plugins that a plugin requires are loaded at the time when it is about to be. -/
def LoadedBefore (registry : PluginRegistry) (name : String) (next : PluginRegistry) : Prop :=
  ∃ address plugin reached current, registry.find name = some (address, plugin) ∧
    loadDependencies (loadPlugin (registry.nesting - 1)) address plugin.info.dependencies
      (registry.beginLoading address plugin) = some (reached, none) ∧
    reached.data address = some current ∧ current.state = .loading ∧
    next = reached.finishLoading address current ∧
    ∀ dependency ∈ plugin.info.dependencies, dependency.required = true →
      ∃ other found, reached.find dependency.internalName = some (other, found) ∧
        found.state = .loaded

section Loads

variable {registry next : PluginRegistry} {name : String} {dynamic : Bool}

theorem Grounded.distinct (grounded : registry.Grounded) : Distinct registry.known := by
  intro name other plugin info otherInfo knownEq otherEq
  rcases known_eq_some_iff.mp knownEq with ⟨_, indexEq, _, _⟩
  rcases known_eq_some_iff.mp otherEq with ⟨_, otherIndex, _, _⟩
  rcases grounded.indexed name plugin indexEq with ⟨found, foundEq, name_eq⟩
  rcases grounded.indexed other plugin otherIndex with ⟨same, sameEq, other_eq⟩
  cases foundEq.symm.trans sameEq
  exact name_eq.symm.trans other_eq

theorem find_eq_of_known {address : Address} {info : PluginInfo}
    (knownEq : registry.known name = some (address, info)) :
    ∃ plugin, registry.find name = some (address, plugin) ∧ plugin.info = info ∧
      registry.stateOf address = some plugin.state := by
  rcases known_eq_some_iff.mp knownEq with ⟨plugin, indexEq, dataEq, info_eq⟩
  exact ⟨plugin, find_eq indexEq dataEq, info_eq, stateOf_eq dataEq⟩

/-- What a load that succeeds has gone through. -/
theorem exists_begun (callEq : registry.perform (.load name) = some (next, none)) :
    ∃ address plugin, registry.pluginsByName name = some address ∧
      registry.data address = some plugin ∧ plugin.state = .available ∧
        plugin.info.allowDynamicLoad = true := by
  by_contra none_begins
  have refused := (callFollows callEq).refused fun address plugin indexEq dataEq able =>
    none_begins ⟨address, plugin, indexEq, dataEq, able⟩
  cases refused.2

/-- A load that succeeds loads a plugin that can be loaded, without being hindered. -/
theorem Grounded.of_loads (grounded : registry.Grounded)
    (callEq : registry.perform (.load name) = some (next, none)) :
    Loadable registry.known registry.stateOf true name ∧
      Unhindered registry.known registry.stateOf name := by
  rcases exists_begun callEq with ⟨address, plugin, indexEq, dataEq, available, allowed⟩
  rcases (callFollows callEq).begun address plugin indexEq dataEq available allowed with
    ⟨middle, walk, _⟩
  have knownEq := known_eq_some_iff.mpr ⟨plugin, indexEq, dataEq, rfl⟩
  have stateEq : registry.stateOf address = some .available := by
    rw [stateOf_eq dataEq, available]
  exact ⟨walk.loadable grounded.distinct knownEq stateEq allowed,
    walk.unhindered grounded.distinct knownEq stateEq allowed⟩

/-- A plugin that can be loaded is loaded if that is not hindered. -/
theorem Traced.loads (traced : registry.Traced)
    (loadable : Loadable registry.known registry.stateOf dynamic name)
    (unhindered : Unhindered registry.known registry.stateOf name) :
    ∃ next, registry.perform (.load name) = some (next, none) := by
  rcases traced.exists_load name with ⟨⟨next, text⟩, callEq⟩
  have able := loadable
  rcases able with ⟨knownEq, stateEq, _, _, _⟩
  have allowed := unhindered.allowed name _ _ ReflTransGen.refl knownEq
  rcases known_eq_some_iff.mp knownEq with ⟨plugin, indexEq, dataEq, rfl⟩
  have available := stateEq
  rw [stateOf_eq dataEq, Option.some.injEq] at available
  rcases (callFollows callEq).begun _ plugin indexEq dataEq available allowed with
    ⟨middle, walk, _⟩
  have succeeded := unhindered.succeeds traced.layered.grounded.distinct loadable knownEq walk
  rw [Option.isNone_iff_eq_none.mp succeeded] at callEq
  exact ⟨next, callEq⟩

/-- What a plugin requires is loaded before the plugin itself. -/
theorem Grounded.loadedBefore (grounded : registry.Grounded)
    (callEq : registry.perform (.load name) = some (next, none)) :
    registry.LoadedBefore name next := by
  rcases exists_begun callEq with ⟨address, plugin, indexEq, dataEq, available, allowed⟩
  have nestingEq : registry.nesting = registry.nesting - 1 + 1 :=
    (Nat.sub_add_cancel registry.nesting_pos).symm
  have loadEq : loadPlugin (registry.nesting - 1 + 1) registry name = some (next, none) := by
    rw [← nestingEq]
    exact callEq
  have begun := moved_beginLoading dataEq
  have states := @stateOf_beginLoading registry address plugin
  have stillLoading := @stateOf_beginLoading_self registry address plugin
  rcases loadPlugin_begun indexEq dataEq available allowed loadEq with
    ⟨reached, nestedEq, ⟨_, threw, _⟩ | ⟨_, current, currentEq, rfl⟩⟩
  · cases threw
  · rcases @walk_of_loadDependencies (registry.beginLoading address plugin) _ _ _ _ _
      (fun loadEq => callFollows loadEq) ⟨name, indexEq⟩ stillLoading nestedEq with
      ⟨walk, moved⟩
    have stateEq := walk.loading stillLoading
    rw [stateOf_eq currentEq, Option.some.injEq] at stateEq
    refine ⟨address, plugin, reached, current, find_eq indexEq dataEq, nestedEq, currentEq,
      stateEq, rfl, ?_⟩
    intro dependency mem required
    have known_eq := (begun.same.trans moved.same).known
    rw [begun.same.known] at walk
    have begins : Progress registry.known registry.stateOf
        (registry.beginLoading address plugin).stateOf := by
      rw [states]
      apply (Progress.refl registry.known registry.stateOf).begin
      rw [stateOf_eq dataEq, available]
    rcases (walk.progress grounded.distinct begins).2 rfl dependency mem required with
      ⟨other, standingEq⟩
    rcases standing_eq_loaded_iff.mp standingEq with ⟨info, knownEq, _, loaded⟩
    rw [← known_eq] at knownEq
    rcases find_eq_of_known knownEq with ⟨found, findEq, _, state_eq⟩
    rw [loaded, Option.some.injEq] at state_eq
    exact ⟨other, found, findEq, state_eq.symm⟩

end Loads

/-- Whether a load succeeds is as one would expect if it is not hindered, and otherwise only if
the plugin cannot be loaded anyway. -/
theorem loads_as_expected_iff {firstId : ActorId} {calls : List Call} {registry : PluginRegistry}
    (runEq : run step (create firstId) calls = some registry) (name : String)
    (dynamic : Bool) :
    (((∃ next, registry.loadAs name dynamic = some (next, none)) ↔
        Loadable registry.known registry.stateOf dynamic name) ∧
      ∀ next, registry.loadAs name dynamic = some (next, none) →
        registry.LoadedBefore name next) ↔
      (Loadable registry.known registry.stateOf dynamic name →
        Unhindered registry.known registry.stateOf name) := by
  have traced := traced_of_run runEq
  have grounded := traced.layered.grounded
  constructor
  · rintro ⟨loads, _⟩ loadable
    rcases loads.mpr loadable with ⟨next, callEq⟩
    exact (grounded.of_loads callEq).2
  · intro unhindered
    refine ⟨⟨?_, ?_⟩, fun next callEq => grounded.loadedBefore callEq⟩
    · rintro ⟨next, callEq⟩
      exact (grounded.of_loads callEq).1.weaken dynamic
    · intro loadable
      exact traced.loads loadable (unhindered loadable)

/-- A plugin that needs one that is there, and would like one that is not. -/
theorem loads_as_expected_extra :
    ∃ registry, run step (create 1)
        [.preload "/base" (.ok basePlugin), .preload "/extra" (.ok extraPlugin)] = some registry ∧
      ((((∃ next, registry.loadAs "extra" true = some (next, none)) ↔
          Loadable registry.known registry.stateOf true "extra") ∧
        ∀ next, registry.loadAs "extra" true = some (next, none) →
          registry.LoadedBefore "extra" next) ↔
        (Loadable registry.known registry.stateOf true "extra" →
          Unhindered registry.known registry.stateOf "extra")) :=
  ⟨_, rfl, @loads_as_expected_iff 1
    [.preload "/base" (.ok basePlugin), .preload "/extra" (.ok extraPlugin)] _ rfl "extra" true⟩

/-- A plugin that may only be loaded at startup. -/
def startupPlugin : PluginInfo where
  internalName := "startup"
  version := ⟨1, 0, 0, ""⟩
  allowDynamicLoad := false

/-- A plugin with its dependencies, which may have any version. -/
def plainPlugin (name : String) (dependencies : List (String × Bool)) : PluginInfo where
  internalName := name
  version := ⟨1, 0, 0, ""⟩
  dependencies := dependencies.map fun (other, required) => ⟨other, ⟨none, none⟩, required⟩

/-- The game requires the world and the maps, and these require the items.  The items require the
world, which would like to have them. -/
def tangledCalls : List Call :=
  [.preload "/game" (.ok (plainPlugin "game" [("world", true), ("maps", true)])),
    .preload "/world" (.ok (plainPlugin "world" [("items", false)])),
    .preload "/maps" (.ok (plainPlugin "maps" [("items", true)])),
    .preload "/items" (.ok (plainPlugin "items" [("world", true)]))]

/-- A plugin without requirements, or with one that can be loaded. -/
theorem loadable_plainPlugin {known : String → Option (Address × PluginInfo)} {states : States}
    {name : String} {plugin : Address} {dependencies : List (String × Bool)}
    (knownEq : known name = some (plugin, plainPlugin name dependencies))
    (available : states plugin = some .available)
    (required : ∀ other, (other, true) ∈ dependencies → Loadable known states true other) :
    Loadable known states true name := by
  have entry : ∀ dependency ∈ (plainPlugin name dependencies).dependencies,
      dependency.required = true →
        dependency.requiredVersion = ⟨none, none⟩ ∧
          (dependency.internalName, true) ∈ dependencies := by
    intro dependency mem isRequired
    rcases List.mem_map.mp mem with ⟨⟨other, required⟩, otherMem, rfl⟩
    cases isRequired
    exact ⟨rfl, otherMem⟩
  refine Loadable.intro knownEq available (Or.inl rfl) ?_ ?_
  · intro dependency mem isRequired
    rcases entry dependency mem isRequired with ⟨any, otherMem⟩
    rcases required _ otherMem with ⟨otherEq, _, _, _, _⟩
    refine ⟨_, _, otherEq, ?_⟩
    rw [any]
    rfl
  · intro dependency mem isRequired _
    exact required _ (entry dependency mem isRequired).2

theorem loadable_game {known : String → Option (Address × PluginInfo)} {states : States}
    (game : known "game" = some (0, plainPlugin "game" [("world", true), ("maps", true)]))
    (world : known "world" = some (1, plainPlugin "world" [("items", false)]))
    (maps : known "maps" = some (2, plainPlugin "maps" [("items", true)]))
    (items : known "items" = some (3, plainPlugin "items" [("world", true)]))
    (available : ∀ plugin ∈ [0, 1, 2, 3], states plugin = some .available) :
    Loadable known states true "game" := by
  have worldLoadable : Loadable known states true "world" :=
    loadable_plainPlugin world (available 1 (by simp)) (by simp)
  have itemsLoadable : Loadable known states true "items" :=
    loadable_plainPlugin items (available 3 (by simp)) (by simpa using worldLoadable)
  have mapsLoadable : Loadable known states true "maps" :=
    loadable_plainPlugin maps (available 2 (by simp)) (by simpa using itemsLoadable)
  exact loadable_plainPlugin game (available 0 (by simp)) (by simp [worldLoadable, mapsLoadable])

/-- A plugin is refused at startup because it may only be loaded then.  And a plugin is not loaded
because the world tries to load the items, which require the world, and leaves them half way. -/
theorem loadable_not_loaded :
    (∃ registry, run step (create 1) [.preload "/startup" (.ok startupPlugin)] =
        some registry ∧
      Loadable registry.known registry.stateOf false "startup" ∧
      ∀ next, registry.loadAs "startup" false ≠ some (next, none)) ∧
    ∃ registry, run step (create 1) tangledCalls = some registry ∧
      Loadable registry.known registry.stateOf true "game" ∧
      ∀ next, registry.loadAs "game" true ≠ some (next, none) := by
  have refused : ∀ outcome : Outcome, outcome.map (fun reached => reached.2.isSome) = some true →
      ∀ next, outcome ≠ some (next, none) := by
    rintro outcome failed next rfl
    cases failed
  constructor
  · refine ⟨_, rfl, ?_, refused _ (by decide +kernel)⟩
    exact @Loadable.intro _ _ _ "startup" 0 startupPlugin (by decide +kernel) (by decide +kernel)
      (Or.inr rfl) (fun _ mem => by cases mem) (fun _ mem => by cases mem)
  · refine ⟨_, rfl, ?_, refused _ (by decide +kernel)⟩
    exact loadable_game (by decide +kernel) (by decide +kernel) (by decide +kernel)
      (by decide +kernel) (by decide +kernel)

end VoxelEngine.Plugin.PluginRegistry
