import VoxelEngine.Plugin.UnloadNesting

/-!
# When unloading a plugin succeeds

The dependents of a plugin are released one after the other, the last one first, and those of
a dependent before the dependent itself.  This file states the rules by which all of them are
released apart from the registry, and shows that a call which ends with no exception followed
them, while one that ends with an exception did not.
-/

namespace VoxelEngine.Plugin.PluginRegistry

/-- The dependents of the plugins that there are. -/
abbrev DependentLists := Address → List Address

/-- The name of the plugin at an address. -/
def nameOf (registry : PluginRegistry) (address : Address) : Option String :=
  (registry.data address).map fun plugin => plugin.info.internalName

/-- The first so many dependents of a plugin are released from the last to the first, which leads
from the one states and lists to the others.  One that is available is passed over.  One that is
loaded is found by its name, and what is found may be unloaded, after its own dependents. -/
inductive Releases (known : String → Option (Address × PluginInfo))
    (nameOf : Address → Option String) :
    States → DependentLists → Address → Nat → States → DependentLists → Prop
  | done {states lists plugin} : Releases known nameOf states lists plugin 0 states lists
  | pass {states lists plugin position dependent final finalLists} :
      (lists plugin)[position]? = some dependent →
      states dependent = some .available →
      Releases known nameOf states lists plugin position final finalLists →
      Releases known nameOf states lists plugin (position + 1) final finalLists
  | release {states lists plugin position dependent name began info middle middleLists final
      finalLists} :
      (lists plugin)[position]? = some dependent →
      states dependent = some .loaded →
      nameOf dependent = some name →
      known name = some (began, info) →
      states began ≠ some .available →
      info.allowDynamicUnload = true →
      Releases known nameOf (Function.update states began (some .unloading)) lists began
        (lists began).length middle middleLists →
      Releases known nameOf (Function.update middle began (some .available))
        (Function.update middleLists plugin (swapEraseAt (middleLists plugin) position)) plugin
        position final finalLists →
      Releases known nameOf states lists plugin (position + 1) final finalLists

/-- Nothing new is left half way. -/
theorem Releases.unloading_before {known : String → Option (Address × PluginInfo)}
    {nameOf : Address → Option String} {states final : States} {lists finalLists : DependentLists}
    {plugin any : Address} {position : Nat}
    (releases : Releases known nameOf states lists plugin position final finalLists)
    (unloading : final any = some .unloading) : states any = some .unloading := by
  induction releases with
  | done => exact unloading
  | pass _ _ _ ih => exact ih unloading
  | @release states lists plugin position dependent name began info middle middleLists final
      finalLists _ _ _ _ _ _ _ _ nestedIh restIh =>
      have later := restIh unloading
      by_cases same : any = began
      · rw [same, Function.update_self] at later
        cases later
      · rw [Function.update_of_ne same] at later
        have before := nestedIh later
        rwa [Function.update_of_ne same] at before

section Calls

variable {registry next : PluginRegistry} {name : String} {address : Address}
  {plugin : PluginData} {position depth : Nat} {text : Option String}

theorem nameOf_eq (dataEq : registry.data address = some plugin) :
    registry.nameOf address = some plugin.info.internalName := by
  rw [nameOf, dataEq, Option.map_some]

theorem SameEntries.nameOf {before after : PluginRegistry} (same : SameEntries before after) :
    after.nameOf = before.nameOf :=
  funext fun address => same.map_eq (fun identity => identity.1.internalName) address

theorem visited_eq_some (visitedEq : registry.visited address position = some plugin) :
    ∃ dependent, (registry.dependentsOf address)[position]? = some dependent ∧
      registry.data dependent = some plugin :=
  Option.bind_eq_some_iff.mp visitedEq

theorem stateOf_beginUnloading (registry : PluginRegistry) (address : Address)
    (plugin : PluginData) :
    (registry.beginUnloading address plugin).stateOf =
      Function.update registry.stateOf address (some .unloading) :=
  stateOf_write_eq _ _ _

theorem dependentsOf_beginUnloading (dataEq : registry.data address = some plugin) :
    (registry.beginUnloading address plugin).dependentsOf = registry.dependentsOf :=
  funext fun other => dependentsOf_write_state dataEq .unloading other

theorem sameEntries_beginUnloading (dataEq : registry.data address = some plugin) :
    SameEntries registry (registry.beginUnloading address plugin) :=
  sameEntries_write _ dataEq rfl rfl rfl

theorem stateOf_finishUnloading (registry : PluginRegistry) (address : Address)
    (plugin : PluginData) :
    (registry.finishUnloading address plugin).stateOf =
      Function.update registry.stateOf address (some .available) :=
  stateOf_write_eq _ _ _

theorem dependentsOf_finishUnloading (dataEq : registry.data address = some plugin) :
    (registry.finishUnloading address plugin).dependentsOf = registry.dependentsOf :=
  funext fun other => dependentsOf_write_state dataEq .available other

theorem sameEntries_finish (dataEq : registry.data address = some plugin) :
    SameEntries registry (registry.finishUnloading address plugin) := by
  have written := sameEntries_write { plugin with state := .available } dataEq rfl rfl rfl
  exact ⟨rfl, rfl, rfl, rfl, rfl, written.identityOf⟩

/-- Erasing one of the dependents, in terms of all lists. -/
theorem erase_lists {erased : PluginRegistry}
    (eraseEq : registry.modify address (fun current =>
      { current with dependents := swapEraseAt current.dependents position }) = some erased) :
    SameEntries registry erased ∧ erased.stateOf = registry.stateOf ∧
      erased.dependentsOf = Function.update registry.dependentsOf address
        (swapEraseAt (registry.dependentsOf address) position) := by
  have alive : (registry.data address).isSome := by
    rcases Option.map_eq_some_iff.mp eraseEq with ⟨current, currentEq, _⟩
    rw [currentEq]
    rfl
  rcases @erase_spec registry address position alive with ⟨next, nextEq, released, states, lists⟩
  rw [nextEq] at eraseEq
  cases eraseEq
  refine ⟨released.same, funext states, ?_⟩
  funext other
  rw [lists, Function.update_apply]
  split
  · rename_i other_eq
    rw [other_eq]
  · rfl

/-- A call that ends with no exception. -/
structure Unloaded (registry : PluginRegistry) (name : String) (next : PluginRegistry) : Prop where
  same : SameEntries registry next
  follows : ∃ address info middle lists, registry.known name = some (address, info) ∧
    registry.stateOf address ≠ some .available ∧ info.allowDynamicUnload = true ∧
    Releases registry.known registry.nameOf
      (Function.update registry.stateOf address (some .unloading)) registry.dependentsOf address
      (registry.dependentsOf address).length middle lists ∧
    next.stateOf = Function.update middle address (some .available) ∧ next.dependentsOf = lists

/-- The loop over the dependents follows the rules if the calls in it do. -/
theorem releases_of_unloadDependents
    (calls : ∀ {first second : PluginRegistry} {called : String},
      unloadPlugin depth first called = some (second, none) → Unloaded first called second)
    (unloadEq : unloadDependents (unloadPlugin depth) address position registry =
      some (next, none)) :
    Releases registry.known registry.nameOf registry.stateOf registry.dependentsOf address position
        next.stateOf next.dependentsOf ∧
      SameEntries registry next := by
  induction position generalizing registry with
  | zero =>
      cases unloadEq
      exact ⟨Releases.done, SameEntries.refl _⟩
  | succ position ih =>
      rcases visit_of_unloadDependents unloadEq with ⟨plugin, visitedEq, visit⟩
      rcases visited_eq_some visitedEq with ⟨dependent, entryEq, dataEq⟩
      have stateEq := stateOf_eq dataEq
      cases visit with
      | passed available restEq =>
          rw [available] at stateEq
          rcases ih restEq with ⟨releases, same⟩
          exact ⟨Releases.pass entryEq stateEq releases, same⟩
      | unloaded loaded callEq eraseEq restEq =>
          rw [loaded] at stateEq
          rcases calls callEq with
            ⟨same, began, info, middle, lists, knownEq, notAvailable, allowed, nested, state_eq,
              lists_eq⟩
          rcases erase_lists eraseEq with ⟨erasedSame, erased_state, erased_lists⟩
          have toErased := same.trans erasedSame
          rcases ih restEq with ⟨releases, restSame⟩
          rw [toErased.known, toErased.nameOf, erased_state, erased_lists, state_eq, lists_eq]
            at releases
          exact ⟨Releases.release entryEq stateEq (nameOf_eq dataEq) knownEq notAvailable allowed
            nested releases, toErased.trans restSame⟩

/-- A call reads what is not there if the index does. -/
theorem unloadPlugin_unreadable (depth : Nat) (indexEq : registry.pluginsByName name = some address)
    (dataEq : registry.data address = none) : unloadPlugin (depth + 1) registry name = none := by
  rw [unloadPlugin, plugin_exists indexEq, find, indexEq, Option.bind_some, dataEq]
  rfl

/-- A plugin that does not begin to be unloaded is left as it is. -/
theorem unloadPlugin_not_begins
    (notBegins : ∀ address plugin, registry.pluginsByName name = some address →
      registry.data address = some plugin →
        ¬(plugin.state ≠ .available ∧ plugin.info.allowDynamicUnload = true))
    (unloadEq : unloadPlugin depth registry name = some (next, text)) :
    next = registry ∧ text.isSome = true := by
  cases depth with
  | zero => cases unloadEq
  | succ depth =>
      cases indexEq : registry.pluginsByName name with
      | none =>
          rcases unloadPlugin_unknown depth indexEq with ⟨message, refusedEq⟩
          cases refusedEq.symm.trans unloadEq
          exact ⟨rfl, rfl⟩
      | some address =>
          cases dataEq : registry.data address with
          | none => cases (unloadPlugin_unreadable depth indexEq dataEq).symm.trans unloadEq
          | some plugin =>
              rcases unloadPlugin_refused depth indexEq dataEq
                (notBegins address plugin indexEq dataEq) with ⟨message, refusedEq⟩
              cases refusedEq.symm.trans unloadEq
              exact ⟨rfl, rfl⟩

/-- Calls that end with no exception follow the rules. -/
theorem unloaded_of_unloadPlugin (unloadEq : unloadPlugin depth registry name = some (next, none)) :
    Unloaded registry name next := by
  induction depth generalizing registry name next with
  | zero => cases unloadEq
  | succ depth ih =>
      by_cases begins : ∃ address plugin, registry.pluginsByName name = some address ∧
          registry.data address = some plugin ∧ plugin.state ≠ .available ∧
          plugin.info.allowDynamicUnload = true
      · rcases begins with ⟨address, plugin, indexEq, dataEq, notAvailable, allowed⟩
        rcases unloadPlugin_begun indexEq dataEq notAvailable allowed unloadEq with
          ⟨reached, loopEq, ⟨_, threw, _⟩ | ⟨_, current, currentEq, rfl⟩⟩
        · cases threw
        · have begun := sameEntries_beginUnloading dataEq
          rcases releases_of_unloadDependents ih loopEq with ⟨releases, same⟩
          rw [begun.known, begun.nameOf, stateOf_beginUnloading,
            dependentsOf_beginUnloading dataEq, ← dependentsOf_eq dataEq] at releases
          refine ⟨(begun.trans same).trans (sameEntries_finish currentEq),
            address, plugin.info, _, _, ?_, ?_, allowed, releases,
            stateOf_finishUnloading _ _ _, dependentsOf_finishUnloading currentEq⟩
          · exact known_eq_some_iff.mpr ⟨plugin, indexEq, dataEq, rfl⟩
          · rw [stateOf_eq dataEq, ne_eq, Option.some.injEq]
            exact notAvailable
      · have refused := unloadPlugin_not_begins (fun address plugin indexEq dataEq able =>
          begins ⟨address, plugin, indexEq, dataEq, able⟩) unloadEq
        cases refused.2

/-- The states and lists of a registry, as the rules see it. -/
structure Shows (registry : PluginRegistry) (known : String → Option (Address × PluginInfo))
    (nameOf : Address → Option String) (states : States) (lists : DependentLists) : Prop where
  known : registry.known = known
  nameOf : registry.nameOf = nameOf
  states : registry.stateOf = states
  lists : registry.dependentsOf = lists

/-- A loop over dependents that can be released ends with no exception. -/
theorem Releases.unloadDependents {known : String → Option (Address × PluginInfo)}
    {nameOf : Address → Option String} {states final : States} {lists finalLists : DependentLists}
    (releases : Releases known nameOf states lists address position final finalLists)
    (shows : Shows registry known nameOf states lists)
    (unloadEq : unloadDependents (unloadPlugin depth) address position registry =
      some (next, text)) :
    text = none ∧ Shows next known nameOf final finalLists := by
  induction releases generalizing registry next text depth with
  | done =>
      cases unloadEq
      exact ⟨rfl, shows⟩
  | @pass states lists address position dependent final finalLists entryEq available _ ih =>
      rw [← shows.lists] at entryEq
      rw [← shows.states] at available
      rcases Option.map_eq_some_iff.mp available with ⟨plugin, dataEq, state⟩
      have visitedEq : registry.visited address position = some plugin :=
        Option.bind_eq_some_iff.mpr ⟨dependent, entryEq, dataEq⟩
      rw [unloadDependents_available visitedEq state] at unloadEq
      exact ih shows unloadEq
  | @release states lists address position dependent name began info middle middleLists final
      finalLists entryEq loaded nameEq knownEq notAvailable allowed _ _ nestedIh restIh =>
      rw [← shows.lists] at entryEq
      rw [← shows.states] at loaded notAvailable
      rw [← shows.nameOf] at nameEq
      rw [← shows.known] at knownEq
      rcases Option.map_eq_some_iff.mp loaded with ⟨plugin, dataEq, state⟩
      have visitedEq : registry.visited address position = some plugin :=
        Option.bind_eq_some_iff.mpr ⟨dependent, entryEq, dataEq⟩
      rw [unloadDependents_loaded visitedEq state] at unloadEq
      rw [nameOf_eq dataEq, Option.some.injEq] at nameEq
      rcases known_eq_some_iff.mp knownEq with ⟨current, indexEq, currentEq, rfl⟩
      rw [stateOf_eq currentEq, ne_eq, Option.some.injEq] at notAvailable
      rw [nameEq] at unloadEq
      cases depth with
      | zero => simp [unloadPlugin] at unloadEq
      | succ depth =>
          rw [unloadPlugin_begins indexEq currentEq notAvailable allowed] at unloadEq
          have begun := sameEntries_beginUnloading currentEq
          have begunShows : Shows (registry.beginUnloading began current) known nameOf
              (Function.update states began (some .unloading)) lists :=
            ⟨begun.known.trans shows.known, begun.nameOf.trans shows.nameOf,
              by rw [stateOf_beginUnloading, shows.states],
              by rw [dependentsOf_beginUnloading currentEq, shows.lists]⟩
          have length_eq : (lists began).length = current.dependents.length := by
            rw [← shows.lists, dependentsOf_eq currentEq]
          cases loopEq : PluginRegistry.unloadDependents (unloadPlugin depth) began
              current.dependents.length (registry.beginUnloading began current) with
          | none => simp [loopEq] at unloadEq
          | some outcome =>
              rcases outcome with ⟨reached, message⟩
              rcases nestedIh begunShows (by rw [length_eq, loopEq]) with ⟨rfl, reachedShows⟩
              cases aliveEq : reached.data began with
              | none => simp [loopEq, aliveEq] at unloadEq
              | some alive =>
                  simp only [loopEq, aliveEq, Option.map_some] at unloadEq
                  rcases Option.bind_eq_some_iff.mp unloadEq with ⟨erased, eraseEq, restEq⟩
                  rcases erase_lists eraseEq with ⟨erasedSame, erased_state, erased_lists⟩
                  have finished := sameEntries_finish aliveEq
                  apply restIh _ restEq
                  constructor
                  · rw [erasedSame.known, finished.known, reachedShows.known]
                  · rw [erasedSame.nameOf, finished.nameOf, reachedShows.nameOf]
                  · rw [erased_state, stateOf_finishUnloading, reachedShows.states]
                  · rw [erased_lists, dependentsOf_finishUnloading aliveEq, reachedShows.lists]

end Calls

end VoxelEngine.Plugin.PluginRegistry
