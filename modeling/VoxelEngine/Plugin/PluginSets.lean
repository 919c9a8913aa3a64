import VoxelEngine.Plugin.ReleaseWalk
import VoxelEngine.Plugin.Termination

/-!
# The sets of the plugin registry

One set holds the plugins that are not loaded, and another one those that are.  A plugin that is
half way is in one of them or in the other, depending on where it comes from.  This file states
what the sets say about the states, even after calls that have failed.
-/

namespace VoxelEngine.Plugin.PluginRegistry

open VoxelEngine.Transition

/-! ## What calls keep -/

/-- Something that every part of a load keeps. -/
structure LoadKeeps (kept : PluginRegistry → Prop) : Prop where
  begin : ∀ {registry address plugin}, registry.data address = some plugin →
    plugin.state = .available → kept registry → kept (registry.beginLoading address plugin)
  record : ∀ {registry plugin dependency next}, registry.record plugin dependency = some next →
    kept registry → kept next
  finish : ∀ {registry address plugin}, registry.data address = some plugin → kept registry →
    kept (registry.finishLoading address plugin)

section LoadKeeps

variable {kept : PluginRegistry → Prop} {load : PluginRegistry → String → Outcome}
  {registry next : PluginRegistry} {parent : Address} {dependencies : List Dependency}
  {dependency : Dependency} {name : String} {text : Option String} {depth : Nat}

theorem LoadKeeps.loadDependency (keeps : LoadKeeps kept)
    (calls : ∀ {first second : PluginRegistry} {called : String} {message : Option String},
      kept first → load first called = some (second, message) → kept second)
    (before : kept registry)
    (loadEq : loadDependency load parent dependency registry = some (next, text)) :
    kept next := by
  unfold PluginRegistry.loadDependency at loadEq
  dsimp only at loadEq
  split at loadEq
  · cases loadEq
    exact before
  · split at loadEq
    · cases loadEq
    · rename_i address found _
      split at loadEq
      · cases loadEq
        exact before
      · -- the registry after the call, if there is one
        have after : ∀ {reached message},
            (if found.state ≠ .loaded then load registry dependency.internalName
              else some (registry, none)) = some (reached, message) → kept reached := by
          intro reached message callEq
          split at callEq
          · exact calls before callEq
          · cases callEq
            exact before
        split at loadEq
        · cases loadEq
        · rename_i callEq
          cases loadEq
          exact after callEq
        · rename_i callEq
          rcases Option.map_eq_some_iff.mp loadEq with ⟨recorded, recordEq, pair_eq⟩
          cases pair_eq
          exact keeps.record recordEq (after callEq)

theorem LoadKeeps.loadDependencies (keeps : LoadKeeps kept)
    (calls : ∀ {first second : PluginRegistry} {called : String} {message : Option String},
      kept first → load first called = some (second, message) → kept second)
    (before : kept registry)
    (loadEq : loadDependencies load parent dependencies registry = some (next, text)) :
    kept next := by
  induction dependencies generalizing registry with
  | nil =>
      cases loadEq
      exact before
  | cons dependency rest ih =>
      rw [PluginRegistry.loadDependencies] at loadEq
      cases oneEq : PluginRegistry.loadDependency load parent dependency registry with
      | none => simp [oneEq] at loadEq
      | some outcome =>
          rcases outcome with ⟨reached, message⟩
          have after := keeps.loadDependency calls before oneEq
          cases message with
          | none =>
              simp only [oneEq] at loadEq
              exact ih after loadEq
          | some content =>
              simp only [oneEq, Option.some.injEq, Prod.mk.injEq] at loadEq
              rw [← loadEq.1]
              exact after

/-- What every part of a load keeps, the whole load keeps. -/
theorem LoadKeeps.loadPlugin (keeps : LoadKeeps kept) (before : kept registry)
    (loadEq : loadPlugin depth registry name = some (next, text)) : kept next := by
  induction depth generalizing registry name next text with
  | zero => cases loadEq
  | succ depth ih =>
      by_cases begins : ∃ address plugin, registry.pluginsByName name = some address ∧
          registry.data address = some plugin ∧ plugin.state = .available ∧
          plugin.info.allowDynamicLoad = true
      · rcases begins with ⟨address, plugin, indexEq, dataEq, available, allowed⟩
        rcases loadPlugin_begun indexEq dataEq available allowed loadEq with
          ⟨reached, nestedEq, ended⟩
        have after := keeps.loadDependencies ih (keeps.begin dataEq available before) nestedEq
        rcases ended with ⟨_, _, rfl⟩ | ⟨_, current, currentEq, rfl⟩
        · exact after
        · exact keeps.finish currentEq after
      · rw [(loadPlugin_not_begins (fun address plugin indexEq dataEq able =>
          begins ⟨address, plugin, indexEq, dataEq, able⟩) loadEq).1]
        exact before

/-- Something that every part of an unload keeps. -/
structure UnloadKeeps (kept : PluginRegistry → Prop) : Prop where
  begin : ∀ {registry address plugin}, registry.data address = some plugin →
    plugin.state ≠ .available → plugin.info.allowDynamicUnload = true → kept registry →
      kept (registry.beginUnloading address plugin)
  erase : ∀ {registry address position next}, registry.modify address (fun current =>
    { current with dependents := swapEraseAt current.dependents position }) = some next →
      kept registry → kept next
  finish : ∀ {registry address plugin}, registry.data address = some plugin → kept registry →
    kept (registry.finishUnloading address plugin)

theorem UnloadKeeps.unloadDependents (keeps : UnloadKeeps kept) {unload} {position : Nat}
    (calls : ∀ {first second : PluginRegistry} {called : String} {message : Option String},
      kept first → unload first called = some (second, message) → kept second)
    (before : kept registry)
    (unloadEq : unloadDependents unload parent position registry = some (next, text)) :
    kept next := by
  induction position generalizing registry with
  | zero =>
      cases unloadEq
      exact before
  | succ position ih =>
      rcases visit_of_unloadDependents unloadEq with ⟨dependent, _, visit⟩
      cases visit with
      | passed available restEq => exact ih before restEq
      | stopped content halfWay next_eq => exact next_eq ▸ before
      | failed content loaded callEq => exact calls before callEq
      | unloaded loaded callEq eraseEq restEq =>
          exact ih (keeps.erase eraseEq (calls before callEq)) restEq

/-- What every part of an unload keeps, the whole unload keeps. -/
theorem UnloadKeeps.unloadPlugin (keeps : UnloadKeeps kept) (before : kept registry)
    (unloadEq : unloadPlugin depth registry name = some (next, text)) : kept next := by
  induction depth generalizing registry name next text with
  | zero => cases unloadEq
  | succ depth ih =>
      by_cases begins : ∃ address plugin, registry.pluginsByName name = some address ∧
          registry.data address = some plugin ∧ plugin.state ≠ .available ∧
          plugin.info.allowDynamicUnload = true
      · rcases begins with ⟨address, plugin, indexEq, dataEq, notAvailable, allowed⟩
        rcases unloadPlugin_begun indexEq dataEq notAvailable allowed unloadEq with
          ⟨reached, loopEq, ended⟩
        have begun := keeps.begin dataEq notAvailable allowed before
        have after := keeps.unloadDependents ih begun loopEq
        rcases ended with ⟨_, _, rfl⟩ | ⟨_, current, currentEq, rfl⟩
        · exact after
        · exact keeps.finish currentEq after
      · rw [(unloadPlugin_not_begins (fun address plugin indexEq dataEq able =>
          begins ⟨address, plugin, indexEq, dataEq, able⟩) unloadEq).1]
        exact before

end LoadKeeps

/-! ## What the sets hold -/

/-- What the two sets say about a plugin in a state, in every state of the registry. -/
structure Fits (state : Option PluginState) (inUnloaded inLoaded : Prop) : Prop where
  available : state = some .available → inUnloaded
  notLoaded : inUnloaded → ∃ current, state = some current ∧ current ≠ .loaded
  loaded : state = some .loaded → inLoaded
  inUse : inLoaded → state = some .loaded ∨ state = some .unloading

/-- The two sets are right about every plugin. -/
def Shelved (registry : PluginRegistry) : Prop :=
  ∀ address, Fits (registry.stateOf address) (address ∈ registry.unloadedPlugins)
    (address ∈ registry.loadedPlugins)

section Shelved

variable {registry next : PluginRegistry} {address : Address} {plugin : PluginData}

theorem shelved_create (firstId : ActorId) : (create firstId).Shelved :=
  fun _ => ⟨nofun, nofun, nofun, nofun⟩

/-- Only the states and the sets matter. -/
theorem Shelved.congr (shelved : registry.Shelved) (states : next.stateOf = registry.stateOf)
    (unloaded : next.unloadedPlugins = registry.unloadedPlugins)
    (loaded : next.loadedPlugins = registry.loadedPlugins) : next.Shelved := by
  intro other
  rw [states, unloaded, loaded]
  exact shelved other

/-- One plugin gets another state, and the sets are right about it. -/
theorem Shelved.update (shelved : registry.Shelved) {state : Option PluginState}
    (states : next.stateOf = Function.update registry.stateOf address state)
    (unloaded : ∀ other ≠ address,
      (other ∈ next.unloadedPlugins ↔ other ∈ registry.unloadedPlugins))
    (loaded : ∀ other ≠ address, (other ∈ next.loadedPlugins ↔ other ∈ registry.loadedPlugins))
    (fits : Fits state (address ∈ next.unloadedPlugins) (address ∈ next.loadedPlugins)) :
    next.Shelved := by
  intro other
  rw [states]
  by_cases same : other = address
  · rw [same, Function.update_self]
    exact fits
  · rw [Function.update_of_ne same, unloaded other same, loaded other same]
    exact shelved other

/-- Changing a plugin but for its state. -/
theorem modify_keeps {change : PluginData → PluginData}
    (same : ∀ current, (change current).state = current.state)
    (modifyEq : registry.modify address change = some next) :
    next.stateOf = registry.stateOf ∧ next.unloadedPlugins = registry.unloadedPlugins ∧
      next.loadedPlugins = registry.loadedPlugins := by
  rcases Option.map_eq_some_iff.mp modifyEq with ⟨current, currentEq, rfl⟩
  refine ⟨?_, rfl, rfl⟩
  rw [stateOf_write_eq, same, ← stateOf_eq currentEq, Function.update_eq_self]

theorem mem_of_update_ne {states : States} {began : Address} {state other : PluginState}
    (state_ne : other ≠ state)
    (stateEq : Function.update states began (some state) address = some other) :
    address ≠ began ∧ states address = some other := by
  by_cases same : address = began
  · rw [same, Function.update_self] at stateEq
    exact absurd (Option.some.inj stateEq).symm state_ne
  · rw [Function.update_of_ne same] at stateEq
    exact ⟨same, stateEq⟩

theorem loadKeeps_shelved : LoadKeeps Shelved where
  begin {registry address plugin} dataEq available shelved := by
    refine shelved.update (stateOf_write_eq _ _ _) (fun _ _ => Iff.rfl) (fun _ _ => Iff.rfl)
      ⟨nofun, fun _ => ⟨.loading, rfl, nofun⟩, nofun, ?_⟩
    intro mem
    have inUse := (shelved address).inUse mem
    rw [stateOf_eq dataEq, available] at inUse
    rcases inUse with loaded | unloading
    · cases loaded
    · cases unloading
  record recordEq shelved := by
    rcases Option.bind_eq_some_iff.mp recordEq with ⟨middle, firstEq, secondEq⟩
    rcases modify_keeps (by exact fun _ => rfl) firstEq with ⟨states, unloaded, loaded⟩
    rcases modify_keeps (by exact fun _ => rfl) secondEq with
      ⟨nextStates, nextUnloaded, nextLoaded⟩
    exact shelved.congr (nextStates.trans states) (nextUnloaded.trans unloaded)
      (nextLoaded.trans loaded)
  finish _ shelved := by
    refine shelved.update (stateOf_write_eq _ _ _) ?_ ?_ ⟨nofun, ?_, ?_, fun _ => Or.inl rfl⟩
    · exact fun other other_ne => Finset.mem_erase.trans (and_iff_right other_ne)
    · exact fun other other_ne => Finset.mem_insert.trans (or_iff_right other_ne)
    · exact fun mem => absurd mem (Finset.notMem_erase _ _)
    · exact fun _ => Finset.mem_insert_self _ _

theorem unloadKeeps_shelved : UnloadKeeps Shelved where
  begin {registry address plugin} dataEq notAvailable _ shelved := by
    refine shelved.update (stateOf_beginUnloading _ _ _) (fun _ _ => Iff.rfl)
      (fun _ _ => Iff.rfl) ⟨nofun, fun _ => ⟨.unloading, rfl, nofun⟩, nofun, fun _ => Or.inr rfl⟩
  erase eraseEq shelved := by
    rcases modify_keeps (by exact fun _ => rfl) eraseEq with ⟨states, unloaded, loaded⟩
    exact shelved.congr states unloaded loaded
  finish _ shelved := by
    refine shelved.update (stateOf_finishUnloading _ _ _) ?_ ?_
      ⟨?_, fun _ => ⟨.available, rfl, nofun⟩, nofun, ?_⟩
    · exact fun other other_ne => Finset.mem_insert.trans (or_iff_right other_ne)
    · exact fun other other_ne => Finset.mem_erase.trans (and_iff_right other_ne)
    · exact fun _ => Finset.mem_insert_self _ _
    · exact fun mem => absurd mem (Finset.notMem_erase _ _)

/-- Scanning keeps the sets right as well. -/
theorem Shelved.preloadPlugin (shelved : registry.Shelved) (allocated : registry.Allocated)
    {path : String} {library : Except String PluginInfo} {text : Option String}
    (preloadEq : registry.preloadPlugin path library = some (next, text)) : next.Shelved := by
  cases library with
  | error message =>
      cases preloadEq
      exact shelved
  | ok info =>
      cases preloadEq
      refine shelved.update (stateOf_write_eq registry registry.nextAddress _) ?_
        (fun _ _ => Iff.rfl) ⟨?_, fun _ => ⟨.available, rfl, nofun⟩, nofun, ?_⟩
      · exact fun other other_ne => Finset.mem_insert.trans (or_iff_right other_ne)
      · exact fun _ => Finset.mem_insert_self _ _
      · intro mem
        have inUse := (shelved registry.nextAddress).inUse mem
        have fresh : registry.stateOf registry.nextAddress = none := by
          rw [stateOf, Option.map_eq_none_iff]
          by_contra alive
          exact Nat.lt_irrefl _ (allocated _ (Option.isSome_iff_ne_none.mpr alive))
        rw [fresh] at inUse
        rcases inUse with loaded | unloading
        · cases loaded
        · cases unloading

theorem Shelved.unscanPlugin (shelved : registry.Shelved) {name : String} {text : Option String}
    (unscanEq : registry.unscanPlugin name = some (next, text)) : next.Shelved := by
  rw [PluginRegistry.unscanPlugin] at unscanEq
  cases findEq : registry.findNamed name registry.plugins with
  | none => simp [findEq] at unscanEq
  | some found =>
      rcases found with ⟨address, plugin⟩
      rcases findNamed_spec findEq with ⟨dataEq, _⟩
      by_cases notAvailable : plugin.state ≠ .available
      · simp only [findEq, if_pos notAvailable, Option.some.injEq, Prod.mk.injEq] at unscanEq
        rcases unscanEq with ⟨rfl, _⟩
        exact shelved
      · simp only [findEq, if_neg notAvailable, Option.some.injEq, Prod.mk.injEq] at unscanEq
        rcases unscanEq with ⟨rfl, _⟩
        have states : (registry.remove address plugin).stateOf =
            Function.update registry.stateOf address none := by
          funext other
          rw [stateOf, data_remove, Function.update_apply]
          split
          · rfl
          · rfl
        have gone : ∀ state : PluginState, none ≠ some state := fun state =>
          (Option.some_ne_none state).symm
        refine shelved.update states ?_ (fun _ _ => Iff.rfl)
          ⟨fun absent => absurd absent (gone _), ?_, fun absent => absurd absent (gone _), ?_⟩
        · exact fun other other_ne => Finset.mem_erase.trans (and_iff_right other_ne)
        · exact fun mem => absurd mem (Finset.notMem_erase _ _)
        · intro mem
          have inUse := (shelved address).inUse mem
          rw [stateOf_eq dataEq, not_not.mp notAvailable] at inUse
          rcases inUse with loaded | unloading
          · cases loaded
          · cases unloading

/-- The sets are right after every call. -/
theorem Shelved.call (shelved : registry.Shelved) (traced : registry.Traced) {made : Call}
    {text : Option String} (callEq : registry.perform made = some (next, text)) : next.Shelved := by
  cases made with
  | preload path library => exact shelved.preloadPlugin traced.layered.allocated callEq
  | unscan name => exact shelved.unscanPlugin callEq
  | load name => exact loadKeeps_shelved.loadPlugin shelved callEq
  | unload name => exact unloadKeeps_shelved.unloadPlugin shelved callEq

end Shelved

end VoxelEngine.Plugin.PluginRegistry
