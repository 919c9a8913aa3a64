import VoxelEngine.Plugin.Consistency

/-!
# Resolving dependencies

Which plugins a plugin brings along only depends on what the plugins say about themselves,
on what is loaded, and on the order of the dependency lists.  If all of it resolves, then
loading succeeds and leaves the registry consistent.
-/

namespace VoxelEngine.Plugin.PluginRegistry

open VoxelEngine.Transition

/-- A dependency that is not followed.  Its plugin is not known, has the wrong version, or
is not loaded and cannot begin to be. -/
def Refused (known : String → Option (Address × PluginInfo)) (loading : List Address)
    (loaded : Finset Address) (dependency : Dependency) : Prop :=
  ∀ plugin info, known dependency.internalName = some (plugin, info) →
    dependency.requiredVersion.contains info.version = true →
      plugin ∉ loaded ∧ (plugin ∈ loading ∨ info.allowDynamicLoad = false)

/-- The dependencies of the innermost of the plugins `loading` resolve from left to right.
Those `recorded` are behind it already, and what is loaded grows from the one set to the
other. -/
inductive Resolves (known : String → Option (Address × PluginInfo)) :
    List Address → Finset Address → List Address → List Dependency → Finset Address → Prop
  | done {loading loaded recorded} : Resolves known loading loaded recorded [] loaded
  | skip {loading loaded recorded dependency rest final} :
      dependency.required = false →
      Refused known loading loaded dependency →
      Resolves known loading loaded recorded rest final →
      Resolves known loading loaded recorded (dependency :: rest) final
  | use {loading loaded recorded dependency rest final plugin info} :
      known dependency.internalName = some (plugin, info) →
      dependency.requiredVersion.contains info.version = true →
      plugin ∈ loaded →
      plugin ∉ recorded →
      Resolves known loading loaded (plugin :: recorded) rest final →
      Resolves known loading loaded recorded (dependency :: rest) final
  | load {loading loaded recorded dependency rest middle final plugin info} :
      known dependency.internalName = some (plugin, info) →
      dependency.requiredVersion.contains info.version = true →
      plugin ∉ loaded →
      plugin ∉ loading →
      info.allowDynamicLoad = true →
      Resolves known (plugin :: loading) loaded [] info.dependencies middle →
      Resolves known loading (insert plugin middle) (plugin :: recorded) rest final →
      Resolves known loading loaded recorded (dependency :: rest) final

section Checks

variable {registry : PluginRegistry} {name : String} {address : Address} {plugin : PluginData}
  {info : PluginInfo} {loading : List Address}

theorem known_eq_some_iff : registry.known name = some (address, info) ↔
    ∃ plugin, registry.pluginsByName name = some address ∧
      registry.data address = some plugin ∧ plugin.info = info := by
  simp only [known, find, Option.map_eq_some_iff, Option.bind_eq_some_iff]
  constructor
  · rintro ⟨found, ⟨target, indexEq, current, dataEq, rfl⟩, pair_eq⟩
    cases pair_eq
    exact ⟨current, indexEq, dataEq, rfl⟩
  · rintro ⟨current, indexEq, dataEq, rfl⟩
    exact ⟨(address, current), ⟨address, indexEq, current, dataEq, rfl⟩, rfl⟩

theorem find_eq (indexEq : registry.pluginsByName name = some address)
    (dataEq : registry.data address = some plugin) :
    registry.find name = some (address, plugin) := by
  rw [find, indexEq, Option.bind_some, dataEq, Option.map_some]

variable (registry name)

@[simp]
theorem checkErrors_pluginExists (action : Action) (loadedFrom : Option Dependency) :
    registry.checkErrors [.pluginExists] name action none loadedFrom = none ↔
      (registry.pluginsByName name).isSome = true := by
  cases indexEq : registry.pluginsByName name <;> simp [checkErrors, indexEq]

variable {registry name} in
theorem plugin_exists {action : Action} {loadedFrom : Option Dependency}
    (indexEq : registry.pluginsByName name = some address) :
    registry.checkErrors [.pluginExists] name action none loadedFrom = none :=
  (checkErrors_pluginExists registry name action loadedFrom).mpr (by rw [indexEq]; rfl)

variable {registry name} in
theorem plugin_unknown (unknown : registry.pluginsByName name = none) (action : Action)
    (loadedFrom : Option Dependency) :
    ∃ text, registry.checkErrors [.pluginExists] name action none loadedFrom = some text := by
  have check := checkErrors_pluginExists registry name action loadedFrom
  rw [unknown] at check
  exact Option.ne_none_iff_exists'.mp (mt check.mp nofun)

@[simp]
theorem checkErrors_versionAllowed (action : Action) (plugin : PluginData)
    (dependency : Dependency) :
    registry.checkErrors [.versionAllowed] name action (some plugin) (some dependency) = none ↔
      dependency.requiredVersion.contains plugin.info.version = true := by
  cases allowed : dependency.requiredVersion.contains plugin.info.version <;>
    simp [checkErrors, allowed]

/-- A plugin may be loaded if it is available and does not refuse. -/
@[simp]
theorem checkErrors_load (plugin : PluginData) :
    registry.checkErrors [.circularDependency, .alreadyLoaded, .dynamicAllowed] name .load
        (some plugin) none = none ↔
      plugin.state = .available ∧ plugin.info.allowDynamicLoad = true := by
  cases state : plugin.state <;> cases allowed : plugin.info.allowDynamicLoad <;>
    simp [checkErrors, state, allowed]

/-- A plugin may be unloaded if it is not available and does not refuse. -/
@[simp]
theorem checkErrors_unload (plugin : PluginData) :
    registry.checkErrors [.alreadyLoaded, .dynamicAllowed] name .unload (some plugin) none =
        none ↔
      plugin.state ≠ .available ∧ plugin.info.allowDynamicUnload = true := by
  cases state : plugin.state <;> cases allowed : plugin.info.allowDynamicUnload <;>
    simp [checkErrors, state, allowed]

variable {registry name}

/-- A call for a plugin that is not known ends with an exception and changes nothing. -/
theorem loadPlugin_unknown (depth : Nat) (unknown : registry.pluginsByName name = none) :
    ∃ text, loadPlugin (depth + 1) registry name = some (registry, some text) := by
  rcases plugin_unknown unknown .load none with ⟨text, checkEq⟩
  rw [loadPlugin, checkEq]
  exact ⟨text, rfl⟩

/-- A plugin that cannot begin to be loaded is left alone. -/
theorem loadPlugin_refused (depth : Nat) (indexEq : registry.pluginsByName name = some address)
    (dataEq : registry.data address = some plugin)
    (refused : ¬(plugin.state = .available ∧ plugin.info.allowDynamicLoad = true)) :
    ∃ text, loadPlugin (depth + 1) registry name = some (registry, some text) := by
  rw [loadPlugin, plugin_exists indexEq, find_eq indexEq dataEq]
  cases checkEq : registry.checkErrors [.circularDependency, .alreadyLoaded, .dynamicAllowed]
      name .load (some plugin) none with
  | none => exact absurd ((checkErrors_load registry name plugin).mp checkEq) refused
  | some text => exact ⟨text, by simp only [checkEq]⟩

/-- A plugin that begins to be loaded. -/
theorem loadPlugin_begins {depth : Nat} (indexEq : registry.pluginsByName name = some address)
    (dataEq : registry.data address = some plugin) (available : plugin.state = .available)
    (allowed : plugin.info.allowDynamicLoad = true) :
    loadPlugin (depth + 1) registry name =
      match loadDependencies (loadPlugin depth) address plugin.info.dependencies
        (registry.beginLoading address plugin) with
      | some (reached, none) =>
          (reached.data address).map fun current => (reached.finishLoading address current, none)
      | stopped => stopped := by
  have load_ok := (checkErrors_load registry name plugin).mpr ⟨available, allowed⟩
  rw [loadPlugin, plugin_exists indexEq, find_eq indexEq dataEq]
  dsimp only
  generalize registry.checkErrors [.circularDependency, .alreadyLoaded, .dynamicAllowed] name
    .load (some plugin) none = refused at load_ok ⊢
  subst load_ok
  rfl

/-- Loading a plugin is loading its dependencies in between. -/
theorem loadPlugin_eq {depth : Nat} {reached : PluginRegistry} {current : PluginData}
    (indexEq : registry.pluginsByName name = some address)
    (dataEq : registry.data address = some plugin) (available : plugin.state = .available)
    (allowed : plugin.info.allowDynamicLoad = true)
    (dependenciesEq : loadDependencies (loadPlugin depth) address plugin.info.dependencies
      (registry.beginLoading address plugin) = some (reached, none))
    (currentEq : reached.data address = some current) :
    loadPlugin (depth + 1) registry name =
      some (reached.finishLoading address current, none) := by
  rw [loadPlugin_begins indexEq dataEq available allowed, dependenciesEq]
  simp only [currentEq, Option.map_some]

/-- An optional dependency that is refused is passed over. -/
theorem loadDependency_refused {depth : Nat} {dependency : Dependency} {parent : Address}
    (underway : registry.Underway loading) (optional : dependency.required = false)
    (refused : Refused registry.known loading registry.loadedPlugins dependency) :
    loadDependency (loadPlugin (depth + 1)) parent dependency registry =
      some (registry, none) := by
  cases indexEq : registry.pluginsByName dependency.internalName with
  | none =>
      rcases plugin_unknown indexEq .load (some dependency) with ⟨text, checkEq⟩
      simp [loadDependency, checkEq, optional]
  | some address =>
      rcases (underway.indexed.byName _ address).mp indexEq with ⟨plugin, dataEq, -⟩
      have findEq := find_eq indexEq dataEq
      cases versionEq : registry.checkErrors [.versionAllowed] dependency.internalName .load
          (some plugin) (some dependency) with
      | some text => simp [loadDependency, plugin_exists indexEq, findEq, versionEq, optional]
      | none =>
          have version_ok := (checkErrors_versionAllowed registry _ .load plugin dependency).mp
            versionEq
          have knownEq := known_eq_some_iff.mpr ⟨plugin, indexEq, dataEq, rfl⟩
          rcases refused address plugin.info knownEq version_ok with ⟨notLoaded, cannot⟩
          rw [underway.loaded_iff, stateOf_eq dataEq, Option.some.injEq] at notLoaded
          have not_begun : ¬(plugin.state = .available ∧ plugin.info.allowDynamicLoad = true) := by
            rintro ⟨available, allowed⟩
            rcases cannot with mem | denied
            · rw [underway.loading_iff, stateOf_eq dataEq, available] at mem
              cases mem
            · rw [allowed] at denied
              cases denied
          rcases loadPlugin_refused depth indexEq dataEq not_begun with ⟨text, loadEq⟩
          simp [loadDependency, plugin_exists indexEq, findEq, versionEq, optional, notLoaded,
            loadEq]

/-- A dependency that is loaded, or gets loaded, is recorded. -/
theorem loadDependency_eq {load : PluginRegistry → String → Outcome} {dependency : Dependency}
    {parent : Address} {reached : PluginRegistry}
    (indexEq : registry.pluginsByName dependency.internalName = some address)
    (dataEq : registry.data address = some plugin)
    (version_ok : dependency.requiredVersion.contains plugin.info.version = true)
    (loadEq : (if plugin.state ≠ .loaded then load registry dependency.internalName
      else some (registry, none)) = some (reached, none)) :
    loadDependency load parent dependency registry =
      (reached.record parent address).map fun next => (next, none) := by
  have allowed := (checkErrors_versionAllowed registry dependency.internalName .load plugin
    dependency).mpr version_ok
  simp only [loadDependency, plugin_exists indexEq, find_eq indexEq dataEq, allowed, loadEq]

end Checks

/-! ## Whole dependency lists -/

/-- What loading the dependencies of the innermost plugin comes to. -/
structure Advanced (before after : PluginRegistry) (loading : List Address)
    (loaded : Finset Address) (parent : Address) : Prop where
  underway : after.Underway loading
  loadedPlugins : after.loadedPlugins = loaded
  same : SameEntries before after
  dependencies_eq : ∀ other ∈ loading, other ≠ parent →
    after.dependenciesOf other = before.dependenciesOf other

theorem Advanced.trans {first second third : PluginRegistry} {loading : List Address}
    {middle final : Finset Address} {parent : Address}
    (one : Advanced first second loading middle parent)
    (two : Advanced second third loading final parent) :
    Advanced first third loading final parent where
  underway := two.underway
  loadedPlugins := two.loadedPlugins
  same := one.same.trans two.same
  dependencies_eq other mem other_ne :=
    (two.dependencies_eq other mem other_ne).trans (one.dependencies_eq other mem other_ne)

/-- Recording a dependency on what is loaded brings the innermost plugin one step further. -/
theorem Underway.exists_record {registry : PluginRegistry} {loading : List Address}
    {parent address : Address} (underway : registry.Underway loading)
    (parentMem : parent ∈ loading) (loaded : address ∈ registry.loadedPlugins)
    (fresh : address ∉ registry.dependenciesOf parent) :
    ∃ next, registry.record parent address = some next ∧
      Advanced registry next loading registry.loadedPlugins parent ∧
      next.dependenciesOf parent = registry.dependenciesOf parent ++ [address] := by
  rcases Option.map_eq_some_iff.mp ((underway.loading_iff parent).mp parentMem) with
    ⟨plugin, dataEq, -⟩
  rcases Option.map_eq_some_iff.mp ((underway.loaded_iff address).mp loaded) with
    ⟨dependency, otherEq, loadedEq⟩
  rcases underway.record parentMem dataEq otherEq loadedEq fresh with
    ⟨next, recordEq, nextUnderway, same, loadedPlugins, dependencies_eq⟩
  refine ⟨next, recordEq, ⟨nextUnderway, loadedPlugins, same, ?_⟩, ?_⟩
  · intro other _ other_ne
    rw [dependencies_eq, if_neg other_ne, List.append_nil]
  · rw [dependencies_eq, if_pos rfl]

/-- Between beginning and finishing to load a plugin its dependencies get loaded. -/
theorem Underway.exists_load {registry : PluginRegistry} {loading : List Address}
    {parent address : Address} {plugin : PluginData} {middle : Finset Address} {name : String}
    {depth : Nat} (underway : registry.Underway loading) (parentMem : parent ∈ loading)
    (indexEq : registry.pluginsByName name = some address)
    (dataEq : registry.data address = some plugin) (available : plugin.state = .available)
    (allowed : plugin.info.allowDynamicLoad = true)
    (nested : ∃ reached, loadDependencies (loadPlugin depth) address plugin.info.dependencies
        (registry.beginLoading address plugin) = some (reached, none) ∧
      Advanced (registry.beginLoading address plugin) reached (address :: loading) middle
        address) :
    ∃ next, loadPlugin (depth + 1) registry name = some (next, none) ∧
      Advanced registry next loading (insert address middle) parent ∧
      next.dependenciesOf parent = registry.dependenciesOf parent := by
  rcases nested with ⟨reached, dependenciesEq, advanced⟩
  have addressMem : address ∈ address :: loading := List.mem_cons_self
  rcases Option.map_eq_some_iff.mp ((advanced.underway.loading_iff address).mp addressMem) with
    ⟨current, currentEq, -⟩
  have fresh : address ∉ loading := by
    rw [underway.loading_iff, stateOf_eq dataEq, available]
    simp
  have dependencies_eq : ∀ other ∈ loading,
      (reached.finishLoading address current).dependenciesOf other =
        registry.dependenciesOf other := by
    intro other mem
    have other_ne : other ≠ address := by
      rintro rfl
      exact fresh mem
    have later := advanced.dependencies_eq other (List.mem_cons_of_mem _ mem) other_ne
    exact (dependenciesOf_write_state currentEq _ other).trans
      (later.trans (dependenciesOf_write_state dataEq _ other))
  refine ⟨reached.finishLoading address current,
    loadPlugin_eq indexEq dataEq available allowed dependenciesEq currentEq, ?_,
    dependencies_eq parent parentMem⟩
  constructor
  · exact advanced.underway.finishLoading currentEq
  · rw [PluginRegistry.finishLoading, advanced.loadedPlugins]
  · have begun := sameEntries_beginLoading dataEq
    exact begun.trans (advanced.same.trans (sameEntries_finishLoading currentEq))
  · intro other mem _
    exact dependencies_eq other mem

theorem recorded_concat {registry next : PluginRegistry} {parent address : Address}
    {recorded : List Address}
    (ownEq : next.dependenciesOf parent = registry.dependenciesOf parent ++ [address])
    (recorded_of : ∀ other ∈ registry.dependenciesOf parent, other ∈ recorded) :
    ∀ other ∈ next.dependenciesOf parent, other ∈ address :: recorded := by
  intro other otherMem
  rw [ownEq, List.mem_append, List.mem_singleton] at otherMem
  exact List.mem_cons.mpr (otherMem.symm.imp_right (recorded_of other))

/-- Dependencies that resolve get loaded and recorded. -/
theorem Resolves.loadDependencies_eq {known : String → Option (Address × PluginInfo)}
    {loading : List Address} {loaded final : Finset Address} {recorded : List Address}
    {dependencies : List Dependency}
    (resolves : Resolves known loading loaded recorded dependencies final)
    {registry : PluginRegistry} {parent : Address} {depth : Nat}
    (knownEq : registry.known = known) (underway : registry.Underway loading)
    (loadedEq : registry.loadedPlugins = loaded) (parentMem : parent ∈ loading)
    (recorded_of : ∀ other ∈ registry.dependenciesOf parent, other ∈ recorded)
    (enough : registry.plugins.length < depth + loading.length) :
    ∃ next, loadDependencies (loadPlugin depth) parent dependencies registry =
        some (next, none) ∧ Advanced registry next loading final parent := by
  -- Every nested call has one more plugin half way, which is why the depth suffices.
  induction resolves generalizing registry parent depth with
  | done => exact ⟨registry, rfl, underway, loadedEq, SameEntries.refl registry, fun _ _ _ => rfl⟩
  | skip optional refused _ ih =>
      subst knownEq loadedEq
      have positive : 0 < depth := by
        have := underway.length_loading_le
        omega
      rcases Nat.exists_eq_succ_of_ne_zero positive.ne' with ⟨before, rfl⟩
      rw [loadDependencies, loadDependency_refused underway optional refused]
      exact ih rfl underway rfl parentMem recorded_of enough
  | @use loading loaded recorded dependency rest final address info found version_ok mem
      notRecorded _ ih =>
      subst knownEq loadedEq
      rcases known_eq_some_iff.mp found with ⟨plugin, indexEq, dataEq, rfl⟩
      have state : plugin.state = .loaded := by
        have stateEq := (underway.loaded_iff _).mp mem
        rw [stateOf_eq dataEq] at stateEq
        exact Option.some.inj stateEq
      have fresh : address ∉ registry.dependenciesOf parent := fun dependencyMem =>
        notRecorded (recorded_of _ dependencyMem)
      rcases underway.exists_record parentMem mem fresh with ⟨next, recordEq, advanced, ownEq⟩
      have enoughNext : next.plugins.length < depth + loading.length := by
        rw [advanced.same.plugins]
        exact enough
      rcases ih advanced.same.known advanced.underway advanced.loadedPlugins parentMem
        (recorded_concat ownEq recorded_of) enoughNext with ⟨last, restEq, rest⟩
      rw [loadDependencies, loadDependency_eq indexEq dataEq version_ok (if_neg (not_not.mpr state)),
        recordEq, Option.map_some]
      exact ⟨last, restEq, advanced.trans rest⟩
  | @load loading loaded recorded dependency rest middle final address info found version_ok
      notLoaded notLoading allowed _ _ nestedIh ih =>
      subst knownEq loadedEq
      rcases known_eq_some_iff.mp found with ⟨plugin, indexEq, dataEq, rfl⟩
      have available := underway.available_of dataEq notLoaded notLoading
      have length_le := (underway.beginLoading dataEq available).length_loading_le
      have begun := sameEntries_beginLoading dataEq
      rw [begun.plugins, List.length_cons] at length_le
      have positive : depth ≠ 0 := by omega
      rcases Nat.exists_eq_succ_of_ne_zero positive with ⟨before, rfl⟩
      have noneYet : (registry.beginLoading address plugin).dependenciesOf address = [] := by
        have stateEq := stateOf_eq dataEq
        rw [available] at stateEq
        exact (dependenciesOf_write_state dataEq _ _).trans
          (underway.dependenciesOf_eq_nil stateEq)
      have enoughNested : (registry.beginLoading address plugin).plugins.length <
          before + (address :: loading).length := by
        rw [begun.plugins, List.length_cons]
        omega
      have nested := nestedIh begun.known (underway.beginLoading dataEq available) rfl
        List.mem_cons_self (by simp [noneYet]) enoughNested
      rcases underway.exists_load parentMem indexEq dataEq available allowed nested with
        ⟨loadedNow, loadEq, advanced, sameEq⟩
      have nowLoaded : address ∈ loadedNow.loadedPlugins := by
        rw [advanced.loadedPlugins]
        exact Finset.mem_insert_self _ _
      have fresh : address ∉ loadedNow.dependenciesOf parent := by
        rw [sameEq]
        intro dependencyMem
        exact notLoaded ((underway.loaded_iff _).mpr
          (underway.dependency_loaded parent address dependencyMem))
      rcases advanced.underway.exists_record parentMem nowLoaded fresh with
        ⟨next, recordEq, recorded_advanced, ownEq⟩
      have reached := advanced.trans recorded_advanced
      rw [sameEq] at ownEq
      have enoughNext : next.plugins.length < before + 1 + loading.length := by
        rw [reached.same.plugins]
        exact enough
      have loadedNext : next.loadedPlugins = insert address middle :=
        recorded_advanced.loadedPlugins.trans advanced.loadedPlugins
      rcases ih reached.same.known reached.underway loadedNext parentMem
        (recorded_concat ownEq recorded_of) enoughNext with ⟨last, restEq, rest⟩
      have notLoadedState : plugin.state ≠ .loaded := by
        rw [available]
        simp
      rw [loadDependencies, loadDependency_eq indexEq dataEq version_ok
        ((if_pos notLoadedState).trans loadEq), recordEq, Option.map_some]
      exact ⟨last, restEq, reached.trans rest⟩

end VoxelEngine.Plugin.PluginRegistry
