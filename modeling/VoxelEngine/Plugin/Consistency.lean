import VoxelEngine.Plugin.Registry
import Mathlib.Data.List.Perm.Subperm

/-!
# Consistency of the plugin registry

Between calls the adjacency lists of the plugins mirror each other, the two sets split the
plugins by their state, and the indices lead to exactly the plugins that are listed.
While a plugin is being loaded this holds of a registry with some plugins half way.
-/

namespace VoxelEngine.Plugin.PluginRegistry

open VoxelEngine.Data VoxelEngine.Transition

/-! ## Views -/

/-- The state of the plugin at an address, if there is one. -/
def stateOf (registry : PluginRegistry) (address : Address) : Option PluginState :=
  (registry.data address).map PluginData.state

/-- The dependencies of the plugin at an address. -/
def dependenciesOf (registry : PluginRegistry) (address : Address) : List Address :=
  ((registry.data address).map PluginData.dependencies).getD []

/-- The dependents of the plugin at an address. -/
def dependentsOf (registry : PluginRegistry) (address : Address) : List Address :=
  ((registry.data address).map PluginData.dependents).getD []

/-- What does not change about a plugin while it is listed. -/
def identityOf (registry : PluginRegistry) (address : Address) :
    Option (PluginInfo × ActorId × String) :=
  (registry.data address).map fun plugin => (plugin.info, plugin.id, plugin.path)

/-- The plugin of a name, and what it says about itself. -/
def known (registry : PluginRegistry) (name : String) : Option (Address × PluginInfo) :=
  (registry.find name).map fun found => (found.1, found.2.info)

/-- The indices lead to exactly the plugins of the list. -/
structure Indexed (registry : PluginRegistry) : Prop where
  nodup : registry.plugins.Nodup
  listed : ∀ address, address ∈ registry.plugins ↔ (registry.data address).isSome
  byName : Indexes registry.data (fun plugin => plugin.info.internalName) registry.pluginsByName
  byPath : Indexes registry.data PluginData.path registry.pluginsByPath
  byId : Indexes registry.data PluginData.id registry.pluginsById

/-- What is promised between calls. -/
structure Consistent (registry : PluginRegistry) : Prop where
  indexed : registry.Indexed
  mirrored : ∀ plugin other,
    other ∈ registry.dependenciesOf plugin ↔ plugin ∈ registry.dependentsOf other
  dependency_loaded : ∀ plugin, ∀ other ∈ registry.dependenciesOf plugin,
    other ∈ registry.plugins ∧ registry.stateOf other = some .loaded
  dependent_loaded : ∀ plugin, ∀ other ∈ registry.dependentsOf plugin,
    other ∈ registry.plugins ∧ registry.stateOf other = some .loaded
  nodup_dependencies : ∀ plugin, (registry.dependenciesOf plugin).Nodup
  nodup_dependents : ∀ plugin, (registry.dependentsOf plugin).Nodup
  unloaded_iff : ∀ plugin,
    plugin ∈ registry.unloadedPlugins ↔ registry.stateOf plugin = some .available
  loaded_iff : ∀ plugin,
    plugin ∈ registry.loadedPlugins ↔ registry.stateOf plugin = some .loaded
  settled : ∀ plugin ∈ registry.plugins,
    plugin ∈ registry.unloadedPlugins ∨ plugin ∈ registry.loadedPlugins

/-- What holds while the plugins `loading` are being loaded. -/
structure Underway (registry : PluginRegistry) (loading : List Address) : Prop where
  indexed : registry.Indexed
  mirrored : ∀ plugin other,
    other ∈ registry.dependenciesOf plugin ↔ plugin ∈ registry.dependentsOf other
  dependency_loaded : ∀ plugin, ∀ other ∈ registry.dependenciesOf plugin,
    registry.stateOf other = some .loaded
  dependent_loaded : ∀ plugin, ∀ other ∈ registry.dependentsOf plugin,
    registry.stateOf other = some .loaded ∨ other ∈ loading
  nodup_dependencies : ∀ plugin, (registry.dependenciesOf plugin).Nodup
  nodup_dependents : ∀ plugin, (registry.dependentsOf plugin).Nodup
  unloaded_iff : ∀ plugin, plugin ∈ registry.unloadedPlugins ↔
    registry.stateOf plugin = some .available ∨ plugin ∈ loading
  loaded_iff : ∀ plugin,
    plugin ∈ registry.loadedPlugins ↔ registry.stateOf plugin = some .loaded
  loading_iff : ∀ plugin, plugin ∈ loading ↔ registry.stateOf plugin = some .loading
  not_unloading : ∀ plugin, registry.stateOf plugin ≠ some .unloading
  nodup_loading : loading.Nodup

/-- Between calls no plugin is half way. -/
theorem consistent_iff {registry : PluginRegistry} :
    registry.Consistent ↔ registry.Underway [] := by
  have listed_of_state (indexed : registry.Indexed) {plugin : Address} {state : PluginState}
      (stateEq : registry.stateOf plugin = some state) : plugin ∈ registry.plugins := by
    rw [indexed.listed]
    rcases Option.map_eq_some_iff.mp stateEq with ⟨current, dataEq, -⟩
    rw [dataEq]
    rfl
  constructor
  · intro consistent
    have two : ∀ plugin state, registry.stateOf plugin = some state →
        state = .available ∨ state = .loaded := by
      intro plugin state stateEq
      have mem := listed_of_state consistent.indexed stateEq
      rcases consistent.settled plugin mem with unloaded | loaded
      · rw [consistent.unloaded_iff, stateEq] at unloaded
        exact Or.inl (Option.some.inj unloaded)
      · rw [consistent.loaded_iff, stateEq] at loaded
        exact Or.inr (Option.some.inj loaded)
    constructor
    · exact consistent.indexed
    · exact consistent.mirrored
    · intro plugin other mem
      exact (consistent.dependency_loaded plugin other mem).2
    · intro plugin other mem
      exact Or.inl (consistent.dependent_loaded plugin other mem).2
    · exact consistent.nodup_dependencies
    · exact consistent.nodup_dependents
    · intro plugin
      rw [consistent.unloaded_iff]
      simp
    · exact consistent.loaded_iff
    · intro plugin
      constructor
      · intro mem
        cases mem
      · intro stateEq
        rcases two plugin .loading stateEq with absurd | absurd <;> cases absurd
    · intro plugin stateEq
      rcases two plugin .unloading stateEq with absurd | absurd <;> cases absurd
    · exact List.nodup_nil
  · intro underway
    constructor
    · exact underway.indexed
    · exact underway.mirrored
    · intro plugin other mem
      have stateEq := underway.dependency_loaded plugin other mem
      exact ⟨listed_of_state underway.indexed stateEq, stateEq⟩
    · intro plugin other mem
      rcases underway.dependent_loaded plugin other mem with stateEq | absurd
      · exact ⟨listed_of_state underway.indexed stateEq, stateEq⟩
      · cases absurd
    · exact underway.nodup_dependencies
    · exact underway.nodup_dependents
    · intro plugin
      rw [underway.unloaded_iff]
      simp
    · exact underway.loaded_iff
    · intro plugin mem
      rw [underway.indexed.listed] at mem
      rcases Option.isSome_iff_exists.mp mem with ⟨current, dataEq⟩
      have stateEq : registry.stateOf plugin = some current.state := by rw [stateOf, dataEq]; rfl
      rw [underway.unloaded_iff, underway.loaded_iff, stateEq]
      cases state : current.state with
      | available => exact Or.inl (Or.inl rfl)
      | loaded => exact Or.inr rfl
      | loading =>
          rw [state] at stateEq
          cases (underway.loading_iff plugin).mpr stateEq
      | unloading =>
          rw [state] at stateEq
          exact absurd stateEq (underway.not_unloading plugin)

/-! ## What calls leave as it is -/

/-- The same plugins are listed and indexed. -/
structure SameEntries (before after : PluginRegistry) : Prop where
  plugins : after.plugins = before.plugins
  pluginsByName : after.pluginsByName = before.pluginsByName
  pluginsByPath : after.pluginsByPath = before.pluginsByPath
  pluginsById : after.pluginsById = before.pluginsById
  nextAddress : after.nextAddress = before.nextAddress
  identityOf : ∀ address, after.identityOf address = before.identityOf address

namespace SameEntries

variable {first second third : PluginRegistry}

theorem refl (registry : PluginRegistry) : SameEntries registry registry :=
  ⟨rfl, rfl, rfl, rfl, rfl, fun _ => rfl⟩

theorem trans (one : SameEntries first second) (two : SameEntries second third) :
    SameEntries first third where
  plugins := two.plugins.trans one.plugins
  pluginsByName := two.pluginsByName.trans one.pluginsByName
  pluginsByPath := two.pluginsByPath.trans one.pluginsByPath
  pluginsById := two.pluginsById.trans one.pluginsById
  nextAddress := two.nextAddress.trans one.nextAddress
  identityOf address := (two.identityOf address).trans (one.identityOf address)

/-- Whatever only depends on the identity of a plugin stays. -/
theorem map_eq {K : Type} (same : SameEntries first second)
    (part : PluginInfo × ActorId × String → K) (address : Address) :
    (second.data address).map (fun plugin => part (plugin.info, plugin.id, plugin.path)) =
      (first.data address).map fun plugin => part (plugin.info, plugin.id, plugin.path) := by
  have identity := congrArg (Option.map part) (same.identityOf address)
  rw [PluginRegistry.identityOf, PluginRegistry.identityOf, Option.map_map, Option.map_map]
    at identity
  exact identity

theorem indexed (same : SameEntries first second) (indexed : first.Indexed) :
    second.Indexed where
  nodup := by
    rw [same.plugins]
    exact indexed.nodup
  listed address := by
    have alive := congrArg Option.isSome (same.map_eq id address)
    rw [Option.isSome_map, Option.isSome_map] at alive
    rw [same.plugins, indexed.listed, alive]
  byName := by
    rw [same.pluginsByName]
    exact indexed.byName.congr (same.map_eq fun identity => identity.1.internalName)
  byPath := by
    rw [same.pluginsByPath]
    exact indexed.byPath.congr (same.map_eq fun identity => identity.2.2)
  byId := by
    rw [same.pluginsById]
    exact indexed.byId.congr (same.map_eq fun identity => identity.2.1)

theorem known (same : SameEntries first second) : second.known = first.known := by
  funext name
  have by_identity : ∀ registry : PluginRegistry, registry.known name =
      (registry.pluginsByName name).bind fun address =>
        (registry.identityOf address).map fun identity => (address, identity.1) := by
    intro registry
    rw [PluginRegistry.known, find]
    cases registry.pluginsByName name with
    | none => rfl
    | some address => cases dataEq : registry.data address <;> simp [PluginRegistry.identityOf, dataEq]
  rw [by_identity, by_identity, same.pluginsByName]
  simp only [same.identityOf]

end SameEntries

/-! ## Single changes -/

section Write

variable (registry : PluginRegistry) (address other : Address) (plugin : PluginData)

@[simp]
theorem stateOf_write : (registry.write address plugin).stateOf other =
    if other = address then some plugin.state else registry.stateOf other := by
  rw [stateOf, data_write]
  split <;> rfl

@[simp]
theorem dependenciesOf_write : (registry.write address plugin).dependenciesOf other =
    if other = address then plugin.dependencies else registry.dependenciesOf other := by
  rw [dependenciesOf, data_write]
  split <;> rfl

@[simp]
theorem dependentsOf_write : (registry.write address plugin).dependentsOf other =
    if other = address then plugin.dependents else registry.dependentsOf other := by
  rw [dependentsOf, data_write]
  split <;> rfl

variable {registry address other plugin}

theorem stateOf_eq (dataEq : registry.data address = some plugin) :
    registry.stateOf address = some plugin.state := by
  rw [stateOf, dataEq, Option.map_some]

theorem dependenciesOf_eq (dataEq : registry.data address = some plugin) :
    registry.dependenciesOf address = plugin.dependencies := by
  rw [dependenciesOf, dataEq, Option.map_some, Option.getD_some]

theorem dependentsOf_eq (dataEq : registry.data address = some plugin) :
    registry.dependentsOf address = plugin.dependents := by
  rw [dependentsOf, dataEq, Option.map_some, Option.getD_some]

theorem dependenciesOf_write_state (dataEq : registry.data address = some plugin)
    (state : PluginState) (other : Address) :
    (registry.write address { plugin with state := state }).dependenciesOf other =
      registry.dependenciesOf other := by
  rw [dependenciesOf_write]
  split
  · rename_i other_eq
    rw [other_eq, dependenciesOf_eq dataEq]
  · rfl

theorem dependentsOf_write_state (dataEq : registry.data address = some plugin)
    (state : PluginState) (other : Address) :
    (registry.write address { plugin with state := state }).dependentsOf other =
      registry.dependentsOf other := by
  rw [dependentsOf_write]
  split
  · rename_i other_eq
    rw [other_eq, dependentsOf_eq dataEq]
  · rfl

/-- Writing what differs in state and adjacency only. -/
theorem sameEntries_write (changed : PluginData) (dataEq : registry.data address = some plugin)
    (info : changed.info = plugin.info) (id : changed.id = plugin.id)
    (path : changed.path = plugin.path) :
    SameEntries registry (registry.write address changed) where
  plugins := rfl
  pluginsByName := rfl
  pluginsByPath := rfl
  pluginsById := rfl
  nextAddress := rfl
  identityOf other := by
    rw [identityOf, data_write]
    split
    · rename_i other_eq
      rw [other_eq, identityOf, dataEq, Option.map_some, Option.map_some, info, id, path]
    · rfl

theorem sameEntries_beginLoading (dataEq : registry.data address = some plugin) :
    SameEntries registry (registry.beginLoading address plugin) :=
  sameEntries_write _ dataEq rfl rfl rfl

theorem sameEntries_finishLoading (dataEq : registry.data address = some plugin) :
    SameEntries registry (registry.finishLoading address plugin) where
  plugins := rfl
  pluginsByName := rfl
  pluginsByPath := rfl
  pluginsById := rfl
  nextAddress := rfl
  identityOf := (sameEntries_write { plugin with state := .loaded } dataEq rfl rfl rfl).identityOf

theorem sameEntries_finishUnloading (dataEq : registry.data address = some plugin) :
    let current := { plugin with state := .unloading }
    SameEntries registry
      ((registry.write address current).finishUnloading address current) := by
  intro current
  have currentEq : (registry.write address current).data address = some current := by
    rw [data_write, if_pos rfl]
  have begun : SameEntries registry (registry.write address current) :=
    sameEntries_write _ dataEq rfl rfl rfl
  have ended := sameEntries_write { current with state := .available } currentEq rfl rfl rfl
  exact begun.trans ⟨rfl, rfl, rfl, rfl, rfl, ended.identityOf⟩

end Write

/-- An insertion shows at the address that is inserted. -/
theorem mem_insert_iff_ite (plugins : Finset Address) (address other : Address) {holds : Prop}
    (here : holds) :
    other ∈ insert address plugins ↔ if other = address then holds else other ∈ plugins := by
  rw [Finset.mem_insert]
  split
  · rename_i other_eq
    simp [other_eq, here]
  · rename_i other_ne
    simp [other_ne]

/-- A removal shows at the address that is removed. -/
theorem mem_erase_iff_ite (plugins : Finset Address) (address other : Address) {holds : Prop}
    (notHere : ¬holds) :
    other ∈ plugins.erase address ↔ if other = address then holds else other ∈ plugins := by
  rw [Finset.mem_erase]
  split
  · rename_i other_eq
    simp [other_eq, notHere]
  · rename_i other_ne
    simp [other_ne]

namespace Underway

variable {registry : PluginRegistry} {loading : List Address} {address other : Address}
  {plugin : PluginData}

theorem mem_plugins (underway : registry.Underway loading) {state : PluginState}
    (stateEq : registry.stateOf address = some state) : address ∈ registry.plugins := by
  rw [underway.indexed.listed]
  rcases Option.map_eq_some_iff.mp stateEq with ⟨current, dataEq, -⟩
  rw [dataEq]
  rfl

/-- What is not loaded is nobody's dependency. -/
theorem dependentsOf_eq_nil (underway : registry.Underway loading)
    (notLoaded : registry.stateOf address ≠ some .loaded) :
    registry.dependentsOf address = [] := by
  rw [List.eq_nil_iff_forall_not_mem]
  intro other mem
  exact notLoaded (underway.dependency_loaded other address ((underway.mirrored _ _).mpr mem))

/-- What nobody has begun to load depends on nothing. -/
theorem dependenciesOf_eq_nil (underway : registry.Underway loading)
    (available : registry.stateOf address = some .available) :
    registry.dependenciesOf address = [] := by
  rw [List.eq_nil_iff_forall_not_mem]
  intro other mem
  rcases underway.dependent_loaded other address ((underway.mirrored _ _).mp mem) with
    loaded | mem_loading
  · rw [available] at loaded
    cases loaded
  · rw [underway.loading_iff, available] at mem_loading
    cases mem_loading

theorem length_loading_le (underway : registry.Underway loading) :
    loading.length ≤ registry.plugins.length := by
  apply (List.subperm_of_subset underway.nodup_loading _).length_le
  intro plugin mem
  exact underway.mem_plugins ((underway.loading_iff plugin).mp mem)

/-- A plugin is available unless it is loaded or being loaded. -/
theorem available_of (underway : registry.Underway loading)
    (dataEq : registry.data address = some plugin)
    (notLoaded : address ∉ registry.loadedPlugins) (notLoading : address ∉ loading) :
    plugin.state = .available := by
  have stateEq := stateOf_eq dataEq
  rw [underway.loaded_iff, stateEq] at notLoaded
  rw [underway.loading_iff, stateEq] at notLoading
  have notUnloading := underway.not_unloading address
  rw [stateEq] at notUnloading
  cases state : plugin.state with
  | available => rfl
  | loading => exact absurd (congrArg some state) notLoading
  | loaded => exact absurd (congrArg some state) notLoaded
  | unloading => exact absurd (congrArg some state) notUnloading

/-- The state of one plugin changes, and what is kept by state follows. -/
theorem changeState {after : PluginRegistry} {others : List Address}
    (underway : registry.Underway loading) (address : Address) (state : Option PluginState)
    (indexed : after.Indexed)
    (stateOf_eq : ∀ other, after.stateOf other =
      if other = address then state else registry.stateOf other)
    (dependencies_eq : ∀ other, after.dependenciesOf other = registry.dependenciesOf other)
    (dependents_eq : ∀ other, after.dependentsOf other = registry.dependentsOf other)
    (needed : ∀ other, address ∈ registry.dependenciesOf other → state = some .loaded)
    (needing : ∀ other, address ∈ registry.dependentsOf other →
      state = some .loaded ∨ state = some .loading)
    (unloaded : ∀ other, other ∈ after.unloadedPlugins ↔
      if other = address then state = some .available ∨ state = some .loading
      else other ∈ registry.unloadedPlugins)
    (loaded : ∀ other, other ∈ after.loadedPlugins ↔
      if other = address then state = some .loaded else other ∈ registry.loadedPlugins)
    (others_iff : ∀ other, other ∈ others ↔
      if other = address then state = some .loading else other ∈ loading)
    (nodup : others.Nodup) (settling : state ≠ some .unloading) : after.Underway others := by
  constructor
  · exact indexed
  · intro first second
    rw [dependencies_eq, dependents_eq]
    exact underway.mirrored first second
  · intro first second mem
    rw [dependencies_eq] at mem
    rw [stateOf_eq]
    split
    · rename_i second_eq
      rw [needed first (second_eq ▸ mem)]
    · exact underway.dependency_loaded first second mem
  · intro first second mem
    rw [dependents_eq] at mem
    rw [stateOf_eq, others_iff]
    split
    · rename_i second_eq
      exact needing first (second_eq ▸ mem)
    · exact underway.dependent_loaded first second mem
  · intro first
    rw [dependencies_eq]
    exact underway.nodup_dependencies first
  · intro first
    rw [dependents_eq]
    exact underway.nodup_dependents first
  · intro first
    rw [stateOf_eq, unloaded, others_iff]
    split
    · exact Iff.rfl
    · exact underway.unloaded_iff first
  · intro first
    rw [stateOf_eq, loaded]
    split
    · exact Iff.rfl
    · exact underway.loaded_iff first
  · intro first
    rw [stateOf_eq, others_iff]
    split
    · exact Iff.rfl
    · exact underway.loading_iff first
  · intro first
    rw [stateOf_eq]
    split
    · exact settling
    · exact underway.not_unloading first
  · exact nodup

/-- Loading begins with a plugin that is available. -/
theorem beginLoading (underway : registry.Underway loading)
    (dataEq : registry.data address = some plugin) (available : plugin.state = .available) :
    (registry.beginLoading address plugin).Underway (address :: loading) := by
  have stateEq : registry.stateOf address = some .available := by
    rw [stateOf_eq dataEq, available]
  have fresh : address ∉ loading := by
    rw [underway.loading_iff, stateEq]
    simp
  have notLoaded : address ∉ registry.loadedPlugins := by
    rw [underway.loaded_iff, stateEq]
    simp
  apply underway.changeState address (some .loading)
  · exact (sameEntries_beginLoading dataEq).indexed underway.indexed
  · intro other
    exact stateOf_write registry address other _
  · intro other
    exact dependenciesOf_write_state dataEq _ other
  · intro other
    exact dependentsOf_write_state dataEq _ other
  · intro other mem
    have loaded := underway.dependency_loaded other address mem
    rw [stateEq] at loaded
    cases loaded
  · intro other _
    exact Or.inr rfl
  · intro other
    split
    · rename_i other_eq
      have mem := (underway.unloaded_iff address).mpr (Or.inl stateEq)
      simpa [other_eq, PluginRegistry.beginLoading] using mem
    · exact Iff.rfl
  · intro other
    split
    · rename_i other_eq
      simpa [other_eq, PluginRegistry.beginLoading] using notLoaded
    · exact Iff.rfl
  · intro other
    rw [List.mem_cons]
    split
    · rename_i other_eq
      simp [other_eq]
    · rename_i other_ne
      simp [other_ne]
  · exact List.nodup_cons.mpr ⟨fresh, underway.nodup_loading⟩
  · simp

/-- Loading ends with a plugin that nobody depends on yet. -/
theorem finishLoading (underway : registry.Underway (address :: loading))
    (dataEq : registry.data address = some plugin) :
    (registry.finishLoading address plugin).Underway loading := by
  have nodup := List.nodup_cons.mp underway.nodup_loading
  apply underway.changeState address (some .loaded)
  · exact (sameEntries_finishLoading dataEq).indexed underway.indexed
  · intro other
    exact stateOf_write registry address other _
  · intro other
    exact dependenciesOf_write_state dataEq _ other
  · intro other
    exact dependentsOf_write_state dataEq _ other
  · intro other _
    rfl
  · intro other _
    exact Or.inl rfl
  · intro other
    exact mem_erase_iff_ite _ _ other (by simp)
  · intro other
    exact mem_insert_iff_ite _ _ other rfl
  · intro other
    rw [List.mem_cons]
    split
    · rename_i other_eq
      simpa [other_eq] using nodup.1
    · rename_i other_ne
      simp [other_ne]
  · exact nodup.2
  · simp

/-- Unloading ends with a plugin that has no part in any dependency. -/
theorem finishUnloading (underway : registry.Underway loading)
    (dataEq : registry.data address = some plugin) (loaded : plugin.state = .loaded)
    (noDependents : plugin.dependents = []) (noDependencies : plugin.dependencies = []) :
    let current := { plugin with state := .unloading }
    ((registry.write address current).finishUnloading address current).Underway loading := by
  intro current
  have stateEq : registry.stateOf address = some .loaded := by
    rw [stateOf_eq dataEq, loaded]
  have currentEq : (registry.write address current).data address = some current := by
    rw [data_write, if_pos rfl]
  apply underway.changeState address (some .available)
  · exact (sameEntries_finishUnloading dataEq).indexed underway.indexed
  · intro other
    apply (stateOf_write (registry.write address current) address other _).trans
    rw [stateOf_write]
    split
    · rfl
    · rfl
  · intro other
    exact (dependenciesOf_write_state currentEq _ other).trans
      (dependenciesOf_write_state dataEq _ other)
  · intro other
    exact (dependentsOf_write_state currentEq _ other).trans
      (dependentsOf_write_state dataEq _ other)
  · intro other mem
    rw [underway.mirrored, dependentsOf_eq dataEq, noDependents] at mem
    cases mem
  · intro other mem
    rw [← underway.mirrored, dependenciesOf_eq dataEq, noDependencies] at mem
    cases mem
  · intro other
    exact mem_insert_iff_ite _ _ other (Or.inl rfl)
  · intro other
    exact mem_erase_iff_ite _ _ other (by simp)
  · intro other
    split
    · rename_i other_eq
      simp [other_eq, underway.loading_iff, stateEq]
    · exact Iff.rfl
  · exact underway.nodup_loading
  · simp

end Underway

/-! ## Recording a dependency -/

section Record

variable {registry : PluginRegistry} {loading : List Address} {address other : Address}
  {plugin dependency : PluginData}

theorem record_eq (dataEq : registry.data address = some plugin)
    (otherEq : registry.data other = some dependency) (other_ne : other ≠ address) :
    registry.record address other =
      some ((registry.write address
          { plugin with dependencies := plugin.dependencies ++ [other] }).write other
        { dependency with dependents := dependency.dependents ++ [address] }) := by
  simp [record, modify, dataEq, otherEq, other_ne]

/-- Everything that recording a dependency between two plugins does: one entry more in two
adjacency lists. -/
theorem record_spec (dataEq : registry.data address = some plugin)
    (otherEq : registry.data other = some dependency) (other_ne : other ≠ address) :
    ∃ next, registry.record address other = some next ∧ SameEntries registry next ∧
      next.loadedPlugins = registry.loadedPlugins ∧
      next.unloadedPlugins = registry.unloadedPlugins ∧
      (∀ any, next.stateOf any = registry.stateOf any) ∧
      (∀ any, next.dependenciesOf any =
        registry.dependenciesOf any ++ if any = address then [other] else []) ∧
      ∀ any, next.dependentsOf any =
        registry.dependentsOf any ++ if any = other then [address] else [] := by
  refine ⟨_, record_eq dataEq otherEq other_ne, ?_, rfl, rfl, ?_, ?_, ?_⟩
  · have otherEq_after : (registry.write address
        { plugin with dependencies := plugin.dependencies ++ [other] }).data other =
          some dependency := by
      rw [data_write, if_neg other_ne, otherEq]
    have first := sameEntries_write
      { plugin with dependencies := plugin.dependencies ++ [other] } dataEq rfl rfl rfl
    exact first.trans (sameEntries_write _ otherEq_after rfl rfl rfl)
  · intro any
    rw [stateOf_write, stateOf_write]
    split
    · rename_i any_eq
      rw [any_eq, stateOf_eq otherEq]
    · split
      · rename_i any_eq
        rw [any_eq, stateOf_eq dataEq]
      · rfl
  · intro any
    rw [dependenciesOf_write, dependenciesOf_write]
    split
    · rename_i any_eq
      rw [any_eq, if_neg other_ne, List.append_nil, dependenciesOf_eq otherEq]
    · split
      · rename_i any_eq
        rw [any_eq, dependenciesOf_eq dataEq]
      · rw [List.append_nil]
  · intro any
    rw [dependentsOf_write, dependentsOf_write]
    split
    · rename_i any_eq
      rw [any_eq, dependentsOf_eq otherEq]
    · rw [List.append_nil]
      split
      · rename_i any_eq
        rw [any_eq, dependentsOf_eq dataEq]
      · rfl

@[simp]
theorem mem_entry_if_iff {item entry any place : Address} :
    item ∈ (if any = place then [entry] else []) ↔ any = place ∧ item = entry := by
  split <;> simp_all

theorem nodup_append_entry_if {entries : List Address} {entry any place : Address}
    (nodup : entries.Nodup) (fresh : any = place → entry ∉ entries) :
    (entries ++ if any = place then [entry] else []).Nodup := by
  split
  · rename_i any_eq
    rw [← List.concat_eq_append]
    exact nodup.concat (fresh any_eq)
  · rwa [List.append_nil]

/-- A plugin that is being loaded comes to depend on one that is loaded. -/
theorem Underway.record (underway : registry.Underway loading) (mem : address ∈ loading)
    (dataEq : registry.data address = some plugin)
    (otherEq : registry.data other = some dependency) (loaded : dependency.state = .loaded)
    (fresh : other ∉ registry.dependenciesOf address) :
    ∃ next, registry.record address other = some next ∧ next.Underway loading ∧
      SameEntries registry next ∧ next.loadedPlugins = registry.loadedPlugins ∧
      ∀ any, next.dependenciesOf any =
        registry.dependenciesOf any ++ if any = address then [other] else [] := by
  have stateEq : registry.stateOf other = some .loaded := by rw [stateOf_eq otherEq, loaded]
  have loadingEq : registry.stateOf address = some .loading :=
    (underway.loading_iff address).mp mem
  have other_ne : other ≠ address := by
    rintro rfl
    rw [stateEq] at loadingEq
    cases loadingEq
  obtain ⟨next, recordEq, same, loadedEq, unloadedEq, state_eq, dependencies_eq,
    dependents_eq⟩ := record_spec dataEq otherEq other_ne
  refine ⟨next, recordEq, ?_, same, loadedEq, dependencies_eq⟩
  constructor
  · exact same.indexed underway.indexed
  · intro first second
    rw [dependencies_eq, dependents_eq, List.mem_append, List.mem_append, mem_entry_if_iff,
      mem_entry_if_iff, underway.mirrored]
    exact or_congr_right and_comm
  · intro first second secondMem
    rw [dependencies_eq, List.mem_append, mem_entry_if_iff] at secondMem
    rw [state_eq]
    rcases secondMem with before | ⟨-, rfl⟩
    · exact underway.dependency_loaded first second before
    · exact stateEq
  · intro first second secondMem
    rw [dependents_eq, List.mem_append, mem_entry_if_iff] at secondMem
    rw [state_eq]
    rcases secondMem with before | ⟨-, rfl⟩
    · exact underway.dependent_loaded first second before
    · exact Or.inr mem
  · intro first
    rw [dependencies_eq]
    apply nodup_append_entry_if (underway.nodup_dependencies first)
    rintro rfl
    exact fresh
  · intro first
    rw [dependents_eq]
    apply nodup_append_entry_if (underway.nodup_dependents first)
    rintro rfl before
    exact fresh ((underway.mirrored _ _).mpr before)
  · intro first
    rw [state_eq, ← underway.unloaded_iff, unloadedEq]
  · intro first
    rw [state_eq, ← underway.loaded_iff, loadedEq]
  · intro first
    rw [state_eq]
    exact underway.loading_iff first
  · intro first
    rw [state_eq]
    exact underway.not_unloading first
  · exact underway.nodup_loading

end Record

end VoxelEngine.Plugin.PluginRegistry
