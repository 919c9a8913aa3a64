import VoxelEngine.Plugin.Loading

/-!
# The plugin registry over whole runs

The registry ought to be consistent after any sequence of calls.  It is as long as no
plugin is announced twice, only known plugins are taken out, whatever is loaded resolves,
and nothing is unloaded that ever had a part in a dependency.
-/

namespace VoxelEngine.Plugin.PluginRegistry

open VoxelEngine.Data VoxelEngine.Transition

/-- The calls that the registry gets right.

* A plugin is announced under a name, a path and an identifier that are not in use.
* Only a plugin that is known is taken out.
* The dependencies of a plugin that begins to be loaded resolve.
* A plugin that begins to be unloaded has neither dependencies nor dependents. -/
def Orderly (registry : PluginRegistry) : Call → Prop
  | .preload path library => ∀ info, library = .ok info →
      registry.pluginsByName info.internalName = none ∧
        registry.pluginsByPath path = none ∧
        registry.pluginsById registry.nextActorId = none
  | .unscan name => (registry.pluginsByName name).isSome
  | .load name => ∀ plugin info, registry.known name = some (plugin, info) →
      plugin ∉ registry.loadedPlugins → info.allowDynamicLoad = true →
        ∃ final, Resolves registry.known [plugin] registry.loadedPlugins [] info.dependencies final
  | .unload name => ∀ plugin info, registry.known name = some (plugin, info) →
      plugin ∈ registry.loadedPlugins → info.allowDynamicUnload = true →
        registry.dependenciesOf plugin = [] ∧ registry.dependentsOf plugin = []

/-- Every plugin lies below the next address. -/
def Allocated (registry : PluginRegistry) : Prop :=
  ∀ address, (registry.data address).isSome → address < registry.nextAddress

theorem SameEntries.allocated {before after : PluginRegistry} (same : SameEntries before after)
    (allocated : before.Allocated) : after.Allocated := by
  intro address alive
  have identity := congrArg Option.isSome (same.map_eq id address)
  rw [Option.isSome_map, Option.isSome_map] at identity
  rw [same.nextAddress]
  apply allocated
  rw [← identity]
  exact alive

/-- Between calls the registry is consistent. -/
def Sound (registry : PluginRegistry) : Prop :=
  registry.Underway [] ∧ registry.Allocated

theorem sound_create (firstId : ActorId) : (create firstId).Sound := by
  constructor
  · constructor
    case indexed =>
      constructor
      · exact List.nodup_nil
      · intro address
        simp [create]
      · intro name address
        simp [create]
      · intro path address
        simp [create]
      · intro id address
        simp [create]
    case nodup_loading => exact List.nodup_nil
    all_goals simp [create, stateOf, dependenciesOf, dependentsOf]
  · intro address alive
    cases alive

section Scanning

variable {registry : PluginRegistry} {address : Address} {plugin : PluginData} {name : String}

/-- The search stops at the plugin of that name. -/
theorem findNamed_eq (byName : Indexes registry.data (fun plugin => plugin.info.internalName)
      registry.pluginsByName) (dataEq : registry.data address = some plugin)
    (name_eq : plugin.info.internalName = name) {addresses : List Address}
    (alive : ∀ other ∈ addresses, (registry.data other).isSome) (mem : address ∈ addresses) :
    registry.findNamed name addresses = some (address, plugin) := by
  induction addresses with
  | nil => cases mem
  | cons first rest ih =>
      rcases Option.isSome_iff_exists.mp (alive first List.mem_cons_self) with ⟨current, currentEq⟩
      rw [findNamed, currentEq]
      by_cases current_eq : current.info.internalName = name
      · have first_eq : first = address :=
          byName.place_unique dataEq currentEq (current_eq.trans name_eq.symm)
        subst first_eq
        rw [dataEq] at currentEq
        simp [current_eq, Option.some.inj currentEq]
      · have mem_rest : address ∈ rest := by
          rcases List.mem_cons.mp mem with rfl | mem_rest
          · rw [dataEq] at currentEq
            cases currentEq
            exact absurd name_eq current_eq
          · exact mem_rest
        simp only [ne_eq, current_eq, not_false_eq_true, if_true]
        exact ih (fun other otherMem => alive other (List.mem_cons_of_mem _ otherMem)) mem_rest

/-- The search for a name that no plugin has does not stop within the list. -/
theorem findNamed_eq_none (absent : ∀ address plugin, registry.data address = some plugin →
      plugin.info.internalName ≠ name) (addresses : List Address) :
    registry.findNamed name addresses = none := by
  induction addresses with
  | nil => rfl
  | cons first rest ih =>
      rw [findNamed]
      cases currentEq : registry.data first with
      | none => rfl
      | some current => simp [absent first current currentEq, ih]

/-- Taking out a plugin that is not known reads past the end of the list. -/
theorem unscanPlugin_unknown (indexed : registry.Indexed)
    (unknown : registry.pluginsByName name = none) : registry.unscanPlugin name = none := by
  have absent : ∀ address plugin, registry.data address = some plugin →
      plugin.info.internalName ≠ name := by
    rintro address plugin dataEq rfl
    rw [indexed.byName.index_key dataEq] at unknown
    cases unknown
  rw [unscanPlugin, findNamed_eq_none absent]

end Scanning

section Calls

variable {registry : PluginRegistry} {address : Address} {plugin : PluginData} {name : String}

theorem Sound.preloadPlugin (sound : registry.Sound) {path : String}
    {library : Except String PluginInfo}
    (unused : ∀ info, library = .ok info → registry.pluginsByName info.internalName = none ∧
      registry.pluginsByPath path = none ∧ registry.pluginsById registry.nextActorId = none) :
    ∃ next text, registry.preloadPlugin path library = some (next, text) ∧ next.Sound := by
  cases library with
  | error text => exact ⟨registry, some text, rfl, sound⟩
  | ok info =>
      rcases sound with ⟨underway, allocated⟩
      rcases unused info rfl with ⟨nameUnused, pathUnused, idUnused⟩
      have fresh : registry.data registry.nextAddress = none := by
        cases dataEq : registry.data registry.nextAddress with
        | none => rfl
        | some plugin =>
            have below := allocated registry.nextAddress (by rw [dataEq]; rfl)
            exact absurd below (Nat.lt_irrefl _)
      have freshState : registry.stateOf registry.nextAddress = none := by
        rw [stateOf, fresh]
        rfl
      have notLoaded : registry.stateOf registry.nextAddress ≠ some .loaded := by
        rw [freshState]
        simp
      generalize nextEq : registry.preloadPlugin path (.ok info) = outcome
      rw [PluginRegistry.preloadPlugin] at nextEq
      subst nextEq
      refine ⟨_, _, rfl, ?_, ?_⟩
      · apply underway.changeState registry.nextAddress (some .available)
        · constructor
          · have unlisted : registry.nextAddress ∉ registry.plugins := by
              rw [underway.indexed.listed, fresh]
              simp
            exact List.nodup_cons.mpr ⟨unlisted, underway.indexed.nodup⟩
          · intro other
            simp only [List.mem_cons, data_write, underway.indexed.listed]
            split
            · rename_i other_eq
              simp [other_eq]
            · rename_i other_ne
              simp [other_ne]
          · simp only [emplace_of_eq_none nameUnused]
            exact underway.indexed.byName.insert fresh nameUnused
          · simp only [emplace_of_eq_none pathUnused]
            exact underway.indexed.byPath.insert fresh pathUnused
          · simp only [emplace_of_eq_none idUnused]
            exact underway.indexed.byId.insert fresh idUnused
        · intro other
          exact stateOf_write registry registry.nextAddress other _
        · intro other
          apply (dependenciesOf_write registry registry.nextAddress other _).trans
          split
          · rename_i other_eq
            rw [other_eq, dependenciesOf, fresh]
            rfl
          · rfl
        · intro other
          apply (dependentsOf_write registry registry.nextAddress other _).trans
          split
          · rename_i other_eq
            rw [other_eq, dependentsOf, fresh]
            rfl
          · rfl
        · intro other mem
          exact absurd (underway.dependency_loaded other _ mem) notLoaded
        · intro other mem
          rw [← underway.mirrored, dependenciesOf, fresh] at mem
          cases mem
        · intro other
          exact mem_insert_iff_ite _ _ other (Or.inl rfl)
        · intro other
          split
          · rename_i other_eq
            rw [other_eq]
            simp [underway.loaded_iff, freshState]
          · exact Iff.rfl
        · intro other
          split <;> simp
        · exact List.nodup_nil
        · simp
      · intro other alive
        simp only [data_write] at alive
        split at alive
        · rename_i other_eq
          exact other_eq ▸ Nat.lt_succ_self _
        · exact Nat.lt_succ_of_lt (allocated other alive)

/-- A plugin that is known and available is taken out, and any other one is kept. -/
theorem Sound.unscanPlugin (sound : registry.Sound)
    (indexed : (registry.pluginsByName name).isSome) :
    ∃ next text, registry.unscanPlugin name = some (next, text) ∧ next.Sound := by
  rcases sound with ⟨underway, allocated⟩
  rcases Option.isSome_iff_exists.mp indexed with ⟨address, indexEq⟩
  rcases (underway.indexed.byName name address).mp indexEq with ⟨plugin, dataEq, rfl⟩
  have foundEq := findNamed_eq underway.indexed.byName dataEq rfl
    (fun other => (underway.indexed.listed other).mp)
    ((underway.indexed.listed address).mpr (by rw [dataEq]; rfl))
  rw [PluginRegistry.unscanPlugin, foundEq]
  simp only
  split
  · exact ⟨registry, _, rfl, underway, allocated⟩
  · rename_i state
    rw [not_not] at state
    have stateEq : registry.stateOf address = some .available := by
      rw [stateOf_eq dataEq, state]
    have notLoaded : registry.stateOf address ≠ some .loaded := by
      rw [stateEq]
      simp
    refine ⟨_, _, rfl, ?_, ?_⟩
    · apply underway.changeState address none
      · constructor
        · exact underway.indexed.nodup.erase address
        · intro other
          rw [data_remove]
          apply (underway.indexed.nodup.mem_erase_iff).trans
          rw [underway.indexed.listed]
          split
          · rename_i other_eq
            simp [other_eq]
          · rename_i other_ne
            simp [other_ne]
        · exact underway.indexed.byName.erase dataEq
        · exact underway.indexed.byPath.erase dataEq
        · exact underway.indexed.byId.erase dataEq
      · intro other
        rw [stateOf, data_remove]
        split <;> rfl
      · intro other
        rw [dependenciesOf, data_remove]
        split
        · rename_i other_eq
          rw [other_eq, underway.dependenciesOf_eq_nil stateEq]
          rfl
        · rfl
      · intro other
        rw [dependentsOf, data_remove]
        split
        · rename_i other_eq
          rw [other_eq, underway.dependentsOf_eq_nil notLoaded]
          rfl
        · rfl
      · intro other mem
        exact absurd (underway.dependency_loaded other _ mem) notLoaded
      · intro other mem
        rw [← underway.mirrored, underway.dependenciesOf_eq_nil stateEq] at mem
        cases mem
      · intro other
        exact mem_erase_iff_ite _ _ other (by simp)
      · intro other
        split
        · rename_i other_eq
          rw [other_eq]
          simp [remove, underway.loaded_iff, stateEq]
        · exact Iff.rfl
      · intro other
        split <;> simp
      · exact List.nodup_nil
      · simp
    · intro other alive
      apply allocated
      rw [data_remove] at alive
      split at alive
      · cases alive
      · exact alive

/-- There are more nested calls than plugins. -/
theorem exists_nesting (registry : PluginRegistry) :
    ∃ depth, registry.nesting = depth + 1 ∧ registry.plugins.length ≤ depth := by
  have more : registry.plugins.length + 1 ≤ registry.nesting :=
    calc
      registry.plugins.length + 1 ≤ 2 * registry.plugins.length + 1 := by omega
      _ ≤ registry.nesting := Nat.le_mul_of_pos_right _ (Nat.succ_pos _)
  exact ⟨registry.nesting - 1, by omega, by omega⟩

/-- A plugin that begins to be loaded is loaded if its dependencies resolve. -/
theorem Sound.loadPlugin (sound : registry.Sound)
    (resolves : ∀ plugin info, registry.known name = some (plugin, info) →
      plugin ∉ registry.loadedPlugins → info.allowDynamicLoad = true →
        ∃ final, Resolves registry.known [plugin] registry.loadedPlugins [] info.dependencies
          final) :
    ∃ next text, loadPlugin registry.nesting registry name = some (next, text) ∧
      next.Sound := by
  rcases sound with ⟨underway, allocated⟩
  rcases exists_nesting registry with ⟨depth, nesting_eq, more⟩
  rw [nesting_eq]
  cases indexEq : registry.pluginsByName name with
  | none =>
      rcases loadPlugin_unknown depth indexEq with ⟨text, loadEq⟩
      exact ⟨registry, some text, loadEq, underway, allocated⟩
  | some address =>
      rcases (underway.indexed.byName name address).mp indexEq with ⟨plugin, dataEq, -⟩
      by_cases begins : plugin.state = .available ∧ plugin.info.allowDynamicLoad = true
      · rcases begins with ⟨available, allowed⟩
        have stateEq : registry.stateOf address = some .available := by
          rw [stateOf_eq dataEq, available]
        have notLoaded : address ∉ registry.loadedPlugins := by
          rw [underway.loaded_iff, stateEq]
          simp
        have knownEq := known_eq_some_iff.mpr ⟨plugin, indexEq, dataEq, rfl⟩
        rcases resolves address plugin.info knownEq notLoaded allowed with ⟨final, resolved⟩
        have begun := sameEntries_beginLoading dataEq
        have noneYet : (registry.beginLoading address plugin).dependenciesOf address = [] :=
          (dependenciesOf_write_state dataEq _ _).trans (underway.dependenciesOf_eq_nil stateEq)
        have enough : (registry.beginLoading address plugin).plugins.length <
            depth + [address].length := by
          rw [begun.plugins]
          exact Nat.lt_succ_of_le more
        rcases resolved.loadDependencies_eq begun.known (underway.beginLoading dataEq available)
          rfl List.mem_cons_self (by simp [noneYet]) enough with ⟨reached, dependenciesEq, advanced⟩
        rcases Option.map_eq_some_iff.mp
          ((advanced.underway.loading_iff address).mp List.mem_cons_self) with
          ⟨current, currentEq, -⟩
        refine ⟨_, none, loadPlugin_eq indexEq dataEq available allowed dependenciesEq currentEq,
          advanced.underway.finishLoading currentEq, ?_⟩
        apply SameEntries.allocated _ allocated
        exact begun.trans (advanced.same.trans (sameEntries_finishLoading currentEq))
      · rcases loadPlugin_refused depth indexEq dataEq begins with
          ⟨text, loadEq⟩
        exact ⟨registry, some text, loadEq, underway, allocated⟩

/-- A plugin that begins to be unloaded is unloaded if it stands alone. -/
theorem Sound.unloadPlugin (sound : registry.Sound)
    (alone : ∀ plugin info, registry.known name = some (plugin, info) →
      plugin ∈ registry.loadedPlugins → info.allowDynamicUnload = true →
        registry.dependenciesOf plugin = [] ∧ registry.dependentsOf plugin = []) :
    ∃ next text, unloadPlugin registry.nesting registry name = some (next, text) ∧
      next.Sound := by
  rcases sound with ⟨underway, allocated⟩
  rcases exists_nesting registry with ⟨depth, nesting_eq, _⟩
  rw [nesting_eq]
  have check := checkErrors_pluginExists registry name .unload none
  cases checkEq : registry.checkErrors [.pluginExists] name .unload none none with
  | some text =>
      rw [PluginRegistry.unloadPlugin, checkEq]
      exact ⟨registry, some text, rfl, underway, allocated⟩
  | none =>
      rcases Option.isSome_iff_exists.mp (check.mp checkEq) with ⟨address, indexEq⟩
      rcases (underway.indexed.byName name address).mp indexEq with ⟨plugin, dataEq, -⟩
      rw [PluginRegistry.unloadPlugin, checkEq, find_eq indexEq dataEq]
      cases unloadEq : registry.checkErrors [.alreadyLoaded, .dynamicAllowed] name .unload
          (some plugin) none with
      | some text => exact ⟨registry, some text, by simp only [unloadEq], underway, allocated⟩
      | none =>
          rcases (checkErrors_unload registry name plugin).mp unloadEq with
            ⟨notAvailable, allowed⟩
          have loaded : plugin.state = .loaded := by
            by_contra notLoaded
            have notMem : address ∉ registry.loadedPlugins := by
              rw [underway.loaded_iff, stateOf_eq dataEq, Option.some.injEq]
              exact notLoaded
            exact notAvailable (underway.available_of dataEq notMem List.not_mem_nil)
          have mem : address ∈ registry.loadedPlugins := by
            rw [underway.loaded_iff, stateOf_eq dataEq, loaded]
          have knownEq := known_eq_some_iff.mpr ⟨plugin, indexEq, dataEq, rfl⟩
          rcases alone address plugin.info knownEq mem allowed with
            ⟨noDependencies, noDependents⟩
          rw [dependenciesOf_eq dataEq] at noDependencies
          rw [dependentsOf_eq dataEq] at noDependents
          have currentEq : (registry.write address { plugin with state := .unloading }).data
              address = some { plugin with state := .unloading } := by
            rw [data_write, if_pos rfl]
          refine ⟨_, none, ?_,
            underway.finishUnloading dataEq loaded noDependents noDependencies, ?_⟩
          · have length_eq : plugin.dependents.length = 0 := by rw [noDependents, List.length_nil]
            simp only [unloadEq, length_eq, unloadDependents, currentEq, Option.map_some]
          · exact (sameEntries_finishUnloading dataEq).allocated allocated

/-- A call that is in order leaves a registry that is sound. -/
theorem Sound.step {call : Call} (sound : registry.Sound) (orderly : registry.Orderly call) :
    ∃ next, step registry call = some next ∧ next.Sound := by
  have exists_outcome : ∃ next text, registry.perform call = some (next, text) ∧ next.Sound := by
    cases call with
    | preload path library => exact sound.preloadPlugin orderly
    | unscan name => exact sound.unscanPlugin orderly
    | load name => exact sound.loadPlugin orderly
    | unload name => exact sound.unloadPlugin orderly
  rcases exists_outcome with ⟨next, text, performEq, nextSound⟩
  rw [PluginRegistry.step, performEq]
  exact ⟨next, rfl, nextSound⟩

end Calls

/-- After any sequence of calls that are in order, the registry is consistent.  Taking out
a plugin that is not known is never in order. -/
theorem consistent_of_orderly (firstId : ActorId) {calls : List Call}
    (orderly : Guarded step Orderly (create firstId) calls) :
    ∃ final, run step (create firstId) calls = some final ∧ final.Consistent ∧
      ∀ name, final.pluginsByName name = none → final.unscanPlugin name = none := by
  have progress : ∀ (registry : PluginRegistry) call, registry.Sound → registry.Orderly call →
      ∃ next, step registry call = some next ∧ next.Sound :=
    fun _ _ sound orderlyCall => sound.step orderlyCall
  rcases exists_run progress (sound_create firstId) orderly with ⟨final, runEq, underway, -⟩
  refine ⟨final, runEq, consistent_iff.mpr underway, ?_⟩
  intro name unknown
  exact unscanPlugin_unknown underway.indexed unknown

/-- A plugin without dependencies. -/
def basePlugin : PluginInfo where
  internalName := "base"
  version := ⟨1, 2, 0, ""⟩

/-- A plugin that needs the other one, and would like another one that does not exist. -/
def extraPlugin : PluginInfo where
  internalName := "extra"
  version := ⟨1, 0, 0, ""⟩
  dependencies := [⟨"base", ⟨some ⟨1, 0, 0, ""⟩, none⟩, true⟩, ⟨"maps", ⟨none, none⟩, false⟩]

/-- Both plugins are announced, and the one that needs the other one is loaded. -/
def loadingCalls : List Call :=
  [.preload "/base" (.ok basePlugin), .preload "/extra" (.ok extraPlugin), .load "extra"]

theorem resolves_extraPlugin {known : String → Option (Address × PluginInfo)}
    (base : known "base" = some (0, basePlugin)) (maps : known "maps" = none) :
    Resolves known [1] ∅ [] extraPlugin.dependencies {0} := by
  apply Resolves.load base (by decide +kernel) (by decide) (by decide) rfl Resolves.done
  apply Resolves.skip rfl _ Resolves.done
  intro plugin info knownEq
  rw [maps] at knownEq
  cases knownEq

theorem consistent_loadingCalls : ∃ final, run step (create 1) loadingCalls = some final ∧
    final.Consistent ∧
    ∀ name, final.pluginsByName name = none → final.unscanPlugin name = none := by
  apply consistent_of_orderly 1
  rw [loadingCalls, guarded_cons_iff]
  constructor
  · intro info infoEq
    cases infoEq
    decide +kernel
  intro first firstEq
  cases firstEq
  rw [guarded_cons_iff]
  constructor
  · intro info infoEq
    cases infoEq
    decide +kernel
  intro second secondEq
  cases secondEq
  rw [guarded_cons_iff]
  constructor
  · intro plugin info knownEq _ _
    have pair_eq : (plugin, info) = (1, extraPlugin) :=
      Option.some.inj (knownEq.symm.trans (by decide +kernel))
    cases pair_eq
    exact ⟨_, resolves_extraPlugin (by decide +kernel) (by decide +kernel)⟩
  · intro final _
    exact guarded_nil _ _ _

/-- The plugin that needs the other one is unloaded again.  The other one still lists it,
although it is not loaded any more.  And taking out a plugin that is not known, rather
than being refused, reads past the end of the list. -/
theorem dependent_not_forgotten :
    (∃ final, run step (create 1) (loadingCalls ++ [.unload "extra"]) = some final ∧
      final.dependentsOf 0 = [1] ∧ final.stateOf 1 = some .available ∧ ¬final.Consistent) ∧
    (create 1).unscanPlugin "maps" = none := by
  have views : (run step (create 1) (loadingCalls ++ [.unload "extra"])).map
      (fun final => (final.dependentsOf 0, final.stateOf 1)) = some ([1], some .available) := by
    decide +kernel
  rcases Option.map_eq_some_iff.mp views with ⟨final, runEq, viewsEq⟩
  rcases Prod.mk.inj viewsEq with ⟨dependentsEq, stateEq⟩
  constructor
  · refine ⟨final, runEq, dependentsEq, stateEq, ?_⟩
    intro consistent
    have mem : 1 ∈ final.dependentsOf 0 := by
      rw [dependentsEq]
      exact List.mem_singleton_self 1
    have loaded := (consistent.dependent_loaded 0 1 mem).2
    rw [stateEq] at loaded
    cases loaded
  · rfl

end VoxelEngine.Plugin.PluginRegistry
