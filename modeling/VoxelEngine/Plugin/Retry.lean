import VoxelEngine.Plugin.LoadSuccess
import VoxelEngine.Plugin.ReleaseWalk

/-!
# Calls that fail

A call that throws leaves its plugin as it was if it is refused at once, and half way if a plugin
that it depends on, or that depends on it, is refused.
-/

namespace VoxelEngine.Plugin.PluginRegistry

open VoxelEngine.Transition

/-- The plugin of a name is in the same state, with the same dependencies and dependents. -/
def SameFor (before : PluginRegistry) (name : String) (after : PluginRegistry) : Prop :=
  ∀ address, before.pluginsByName name = some address →
    after.stateOf address = before.stateOf address ∧
      after.dependenciesOf address = before.dependenciesOf address ∧
      after.dependentsOf address = before.dependentsOf address

/-- If loading or unloading a plugin throws, then the plugin is as it was. -/
def Unharmed (registry : PluginRegistry) : Call → Prop
  | .load name => ∀ next text, registry.perform (.load name) = some (next, some text) →
      SameFor registry name next
  | .unload name => ∀ next text, registry.perform (.unload name) = some (next, some text) →
      SameFor registry name next
  | _ => True

/-- A plugin that begins to be loaded can be loaded without being hindered, and if one begins to
be unloaded, then its dependents can be released. -/
def Retriable (registry : PluginRegistry) : Call → Prop
  | .load name => ∀ plugin info, registry.known name = some (plugin, info) →
      registry.stateOf plugin = some .available → info.allowDynamicLoad = true →
        Loadable registry.known registry.stateOf true name ∧
          Unhindered registry.known registry.stateOf name
  | .unload name => ∀ plugin info, registry.known name = some (plugin, info) →
      registry.stateOf plugin ≠ some .available → info.allowDynamicUnload = true →
        ∃ final lists, Releases registry.known registry.nameOf
          (Function.update registry.stateOf plugin (some .unloading)) registry.dependentsOf plugin
          (registry.dependentsOf plugin).length final lists
  | _ => True

/-- No plugin is being unloaded. -/
def NoneUnloading (registry : PluginRegistry) : Prop :=
  ∀ address, registry.stateOf address ≠ some .unloading

section Calls

variable {registry next : PluginRegistry} {name : String} {text : Option String}

theorem SameFor.refl (registry : PluginRegistry) (name : String) :
    SameFor registry name registry :=
  fun _ _ => ⟨rfl, rfl, rfl⟩

/-! ## Loading -/

/-- Loads do not unload. -/
theorem Walk.unloading_before {known : String → Option (Address × PluginInfo)}
    {states final : States} {dependencies : List Dependency} {success : Bool} {plugin : Address}
    (walk : Walk known states dependencies final success)
    (unloading : final plugin = some .unloading) : states plugin = some .unloading := by
  have begun : ∀ (states : States) (began : Address) (state : PluginState),
      state ≠ .unloading → Function.update states began (some state) plugin = some .unloading →
        states plugin = some .unloading := by
    intro states began state state_ne stateEq
    by_cases same : plugin = began
    · rw [same, Function.update_self, Option.some.injEq] at stateEq
      exact absurd stateEq state_ne
    · rwa [Function.update_of_ne same] at stateEq
  induction walk with
  | done => exact unloading
  | stop _ _ => exact unloading
  | skip _ _ _ ih => exact ih unloading
  | use _ _ ih => exact ih unloading
  | load _ _ _ nestedIh restIh =>
      have middle := begun _ _ .loaded (by decide) (restIh unloading)
      exact begun _ _ .loading (by decide) (nestedIh middle)
  | abort _ _ _ nestedIh => exact begun _ _ .loading (by decide) (nestedIh unloading)
  | pass _ _ _ _ nestedIh restIh =>
      exact begun _ _ .loading (by decide) (nestedIh (restIh unloading))

theorem not_begins_of_not_known
    (notBegins : ¬∃ plugin info, registry.known name = some (plugin, info) ∧
      registry.stateOf plugin = some .available ∧ info.allowDynamicLoad = true) :
    ∀ address plugin, registry.pluginsByName name = some address →
      registry.data address = some plugin →
        ¬(plugin.state = .available ∧ plugin.info.allowDynamicLoad = true) := by
  rintro address plugin indexEq dataEq ⟨available, allowed⟩
  refine notBegins ⟨address, plugin.info,
    known_eq_some_iff.mpr ⟨plugin, indexEq, dataEq, rfl⟩, ?_, allowed⟩
  rw [stateOf_eq dataEq, available]

/-- A load that throws leaves its plugin as it was exactly if it is refused at once. -/
theorem Traced.unharmed_load_iff (traced : registry.Traced)
    (callEq : registry.perform (.load name) = some (next, text)) :
    registry.Unharmed (.load name) ↔ registry.Retriable (.load name) := by
  constructor
  · intro unharmed plugin info knownEq stateEq allowed
    cases text with
    | none => exact traced.layered.grounded.of_loads callEq
    | some content =>
        rcases known_eq_some_iff.mp knownEq with ⟨current, indexEq, dataEq, rfl⟩
        have available := stateEq
        rw [stateOf_eq dataEq, Option.some.injEq] at available
        rcases (callFollows callEq).begun plugin current indexEq dataEq available allowed with
          ⟨middle, walk, state_eq⟩
        have kept := (unharmed next content callEq plugin indexEq).1
        rw [state_eq, stateEq, show (some content).isNone = false from rfl,
          if_neg Bool.false_ne_true, walk.loading (Function.update_self _ _ _)] at kept
        cases kept
  · intro retriable other content throwsEq
    by_cases begins : ∃ plugin info, registry.known name = some (plugin, info) ∧
        registry.stateOf plugin = some .available ∧ info.allowDynamicLoad = true
    · rcases begins with ⟨plugin, info, knownEq, stateEq, allowed⟩
      rcases retriable plugin info knownEq stateEq allowed with ⟨loadable, unhindered⟩
      rcases traced.loads loadable unhindered with ⟨loaded, loadEq⟩
      cases loadEq.symm.trans throwsEq
    · rw [((callFollows throwsEq).refused (not_begins_of_not_known begins)).1]
      exact SameFor.refl registry name

/-! ## Unloading -/

theorem not_begins_of_not_unloadable
    (notBegins : ¬∃ plugin info, registry.known name = some (plugin, info) ∧
      registry.stateOf plugin ≠ some .available ∧ info.allowDynamicUnload = true) :
    ∀ address plugin, registry.pluginsByName name = some address →
      registry.data address = some plugin →
        ¬(plugin.state ≠ .available ∧ plugin.info.allowDynamicUnload = true) := by
  rintro address plugin indexEq dataEq ⟨notAvailable, allowed⟩
  refine notBegins ⟨address, plugin.info,
    known_eq_some_iff.mpr ⟨plugin, indexEq, dataEq, rfl⟩, ?_, allowed⟩
  rw [stateOf_eq dataEq, ne_eq, Option.some.injEq]
  exact notAvailable

/-- An unload that begins and throws leaves its plugin half way. -/
theorem Traced.unloading_of_throws (traced : registry.Traced) {address : Address}
    {plugin : PluginData} {content : String}
    (callEq : registry.perform (.unload name) = some (next, some content))
    (indexEq : registry.pluginsByName name = some address)
    (dataEq : registry.data address = some plugin) (notAvailable : plugin.state ≠ .available)
    (allowed : plugin.info.allowDynamicUnload = true) :
    next.stateOf address = some .unloading := by
  have nestingEq : registry.nesting = registry.nesting - 1 + 1 :=
    (Nat.sub_add_cancel registry.nesting_pos).symm
  have unloadEq : unloadPlugin (registry.nesting - 1 + 1) registry name =
      some (next, some content) := by
    rw [← nestingEq]
    exact callEq
  have released := released_beginUnloading dataEq ⟨name, indexEq⟩ notAvailable
  have lists : (registry.beginUnloading address plugin).dependentsOf address =
      plugin.dependents := by
    rw [dependentsOf_beginUnloading dataEq, dependentsOf_eq dataEq]
  have waiting : Waiting (registry.beginUnloading address plugin) [address] := by
    change (registry.beginUnloading address plugin).stateOf address = some .unloading
    rw [stateOf_beginUnloading, Function.update_self]
  have allDone : DoneFrom (registry.beginUnloading address plugin) address
      plugin.dependents.length := by
    intro later other le entryEq
    rw [lists, List.getElem?_eq_none le] at entryEq
    cases entryEq
  have enough : tally unloadWeight (registry.beginUnloading address plugin).plugins
      (registry.beginUnloading address plugin).stateOf *
        ((registry.beginUnloading address plugin).nextAddress + 1) +
        ((registry.beginUnloading address plugin).nextAddress - address) ≤
          registry.nesting - 1 := by
    rw [stateOf_beginUnloading]
    exact Nat.le_sub_one_of_lt (registry.unloadRank_lt_nesting address)
  have frame := ((callsEnd (registry.nesting - 1)).loop (released.layered traced.layered)
    (List.nodup_singleton address) waiting (by rw [lists]) allDone enough).1
  rcases unloadPlugin_begun indexEq dataEq notAvailable allowed unloadEq with
    ⟨reached, loopEq, ⟨_, _, rfl⟩ | ⟨returned, _⟩⟩
  · exact (frame _ loopEq).2.1
  · cases returned

/-- Dependents that can be released are released. -/
theorem not_throws_of_releases {plugin : Address} {info : PluginInfo} {final : States}
    {lists : DependentLists} (callEq : registry.perform (.unload name) = some (next, text))
    (knownEq : registry.known name = some (plugin, info))
    (notAvailable : registry.stateOf plugin ≠ some .available)
    (allowed : info.allowDynamicUnload = true)
    (releases : Releases registry.known registry.nameOf
      (Function.update registry.stateOf plugin (some .unloading)) registry.dependentsOf plugin
      (registry.dependentsOf plugin).length final lists) : text = none := by
  have nestingEq : registry.nesting = registry.nesting - 1 + 1 :=
    (Nat.sub_add_cancel registry.nesting_pos).symm
  have unloadEq : unloadPlugin (registry.nesting - 1 + 1) registry name = some (next, text) := by
    rw [← nestingEq]
    exact callEq
  rcases known_eq_some_iff.mp knownEq with ⟨current, indexEq, dataEq, rfl⟩
  rw [stateOf_eq dataEq, ne_eq, Option.some.injEq] at notAvailable
  rw [dependentsOf_eq dataEq] at releases
  have begun := sameEntries_beginUnloading dataEq
  have shows : Shows (registry.beginUnloading plugin current) registry.known registry.nameOf
      (Function.update registry.stateOf plugin (some .unloading)) registry.dependentsOf :=
    ⟨begun.known, begun.nameOf, stateOf_beginUnloading _ _ _, dependentsOf_beginUnloading dataEq⟩
  rcases unloadPlugin_begun indexEq dataEq notAvailable allowed unloadEq with ⟨_, loopEq, _⟩
  exact (releases.unloadDependents shows loopEq).1

/-- An unload that throws leaves its plugin as it was exactly if it is refused at once. -/
theorem Traced.unharmed_unload_iff (traced : registry.Traced) (clean : registry.NoneUnloading)
    (callEq : registry.perform (.unload name) = some (next, text)) :
    registry.Unharmed (.unload name) ↔ registry.Retriable (.unload name) := by
  constructor
  · intro unharmed plugin info knownEq notAvailable allowed
    cases text with
    | none =>
        rcases (unloaded_of_unloadPlugin callEq).follows with
          ⟨address, found, middle, lists, foundEq, _, _, releases, _, _⟩
        cases knownEq.symm.trans foundEq
        exact ⟨middle, lists, releases⟩
    | some content =>
        rcases known_eq_some_iff.mp knownEq with ⟨current, indexEq, dataEq, rfl⟩
        have state_ne := notAvailable
        rw [stateOf_eq dataEq, ne_eq, Option.some.injEq] at state_ne
        have kept := (unharmed next content callEq plugin indexEq).1
        rw [traced.unloading_of_throws callEq indexEq dataEq state_ne allowed] at kept
        exact absurd kept.symm (clean plugin)
  · intro retriable other content throwsEq
    by_cases begins : ∃ plugin info, registry.known name = some (plugin, info) ∧
        registry.stateOf plugin ≠ some .available ∧ info.allowDynamicUnload = true
    · rcases begins with ⟨plugin, info, knownEq, notAvailable, allowed⟩
      rcases retriable plugin info knownEq notAvailable allowed with ⟨final, lists, releases⟩
      cases not_throws_of_releases throwsEq knownEq notAvailable allowed releases
    · rw [(unloadPlugin_not_begins (not_begins_of_not_unloadable begins) throwsEq).1]
      exact SameFor.refl registry name

/-! ## Runs -/

/-- Nothing is left half way by a call that can be retried, unless it is a load. -/
theorem NoneUnloading.call {made : Call} (clean : registry.NoneUnloading)
    (retriable : registry.Retriable made) (callEq : registry.perform made = some (next, text)) :
    next.NoneUnloading := by
  intro address unloading
  cases made with
  | preload path library =>
      cases library with
      | error message =>
          cases callEq
          exact clean address unloading
      | ok info =>
          cases callEq
          change (registry.write registry.nextAddress _).stateOf address = _ at unloading
          rw [stateOf_write] at unloading
          split at unloading
          · cases unloading
          · exact clean address unloading
  | unscan name =>
      change registry.unscanPlugin name = some (next, text) at callEq
      rw [unscanPlugin] at callEq
      split at callEq
      · cases callEq
      · rename_i found plugin _
        split at callEq
        · cases callEq
          exact clean address unloading
        · cases callEq
          rw [stateOf, data_remove] at unloading
          split at unloading
          · cases unloading
          · exact clean address unloading
  | load name =>
      by_cases begins : ∃ plugin info, registry.known name = some (plugin, info) ∧
          registry.stateOf plugin = some .available ∧ info.allowDynamicLoad = true
      · rcases begins with ⟨plugin, info, knownEq, stateEq, allowed⟩
        rcases known_eq_some_iff.mp knownEq with ⟨current, indexEq, dataEq, rfl⟩
        rw [stateOf_eq dataEq, Option.some.injEq] at stateEq
        rcases (callFollows callEq).begun plugin current indexEq dataEq stateEq allowed with
          ⟨middle, walk, state_eq⟩
        have before : middle address = some .unloading := by
          rw [state_eq] at unloading
          split at unloading
          · by_cases same : address = plugin
            · rw [same, Function.update_self] at unloading
              cases unloading
            · rwa [Function.update_of_ne same] at unloading
          · exact unloading
        have began := walk.unloading_before before
        by_cases same : address = plugin
        · rw [same, Function.update_self] at began
          cases began
        · rw [Function.update_of_ne same] at began
          exact clean address began
      · rw [((callFollows callEq).refused (not_begins_of_not_known begins)).1] at unloading
        exact clean address unloading
  | unload name =>
      by_cases begins : ∃ plugin info, registry.known name = some (plugin, info) ∧
          registry.stateOf plugin ≠ some .available ∧ info.allowDynamicUnload = true
      · rcases begins with ⟨plugin, info, knownEq, notAvailable, allowed⟩
        rcases retriable plugin info knownEq notAvailable allowed with ⟨final, lists, releases⟩
        cases not_throws_of_releases callEq knownEq notAvailable allowed releases
        rcases (unloaded_of_unloadPlugin callEq).follows with
          ⟨began, found, middle, _, _, _, _, follows, state_eq, _⟩
        rw [state_eq] at unloading
        by_cases same : address = began
        · rw [same, Function.update_self] at unloading
          cases unloading
        · rw [Function.update_of_ne same] at unloading
          have before := follows.unloading_before unloading
          rw [Function.update_of_ne same] at before
          exact clean address before
      · rw [(unloadPlugin_not_begins (not_begins_of_not_unloadable begins) callEq).1] at unloading
        exact clean address unloading

end Calls

/-- Every call of a run that throws leaves its plugin as it was exactly if every plugin that
begins to be loaded can be loaded without being hindered, and the dependents of every plugin that
begins to be unloaded can be released. -/
theorem unharmed_iff_retriable {firstId : ActorId} {calls : List Call}
    {registry : PluginRegistry} (runEq : run step (create firstId) calls = some registry) :
    (∀ before made after middle, calls = before ++ made :: after →
        run step (create firstId) before = some middle → middle.Unharmed made) ↔
      Guarded step Retriable (create firstId) calls := by
  apply @each_safe_iff_guarded _ _ step Retriable Unharmed
    (fun registry => registry.Traced ∧ registry.NoneUnloading)
  · rintro state made _ next ⟨traced, clean⟩ retriable stepEq
    rcases Option.map_eq_some_iff.mp stepEq with ⟨⟨reached, text⟩, callEq, rfl⟩
    exact ⟨(traced.call callEq).1, clean.call retriable callEq⟩
  · rintro state made _ next ⟨traced, clean⟩ stepEq
    rcases Option.map_eq_some_iff.mp stepEq with ⟨⟨reached, text⟩, callEq, rfl⟩
    cases made with
    | preload path library => exact Iff.rfl
    | unscan name => exact Iff.rfl
    | load name => exact traced.unharmed_load_iff callEq
    | unload name => exact traced.unharmed_unload_iff clean callEq
  · refine ⟨traced_create firstId, fun address unloading => ?_⟩
    cases unloading
  · exact runEq

theorem unharmed_iff_retriable_extra :
    ∃ registry, run step (create 1) (loadingCalls ++ [.unload "base"]) = some registry ∧
      ((∀ before made after middle,
          loadingCalls ++ [.unload "base"] = before ++ made :: after →
            run step (create 1) before = some middle → middle.Unharmed made) ↔
        Guarded step Retriable (create 1) (loadingCalls ++ [.unload "base"])) := by
  have possible : (run step (create 1) (loadingCalls ++ [.unload "base"])).isSome = true := by
    decide +kernel
  rcases Option.isSome_iff_exists.mp possible with ⟨registry, runEq⟩
  exact ⟨registry, runEq, unharmed_iff_retriable runEq⟩

/-- A plugin that needs the other one, and may not be unloaded. -/
def stayingPlugin : PluginInfo where
  internalName := "staying"
  version := ⟨1, 0, 0, ""⟩
  allowDynamicUnload := false
  dependencies := [⟨"base", ⟨none, none⟩, true⟩]

/-- A call that throws and leaves the plugin in another state. -/
theorem exists_harm {registry : PluginRegistry} {made : Call} {name : String} {address : Address}
    {state : PluginState}
    (indexEq : registry.pluginsByName name = some address)
    (stateEq : registry.stateOf address ≠ some state)
    (throws : (registry.perform made).map (fun outcome =>
      (outcome.2.isSome, outcome.1.stateOf address)) = some (true, some state)) :
    ∃ next text, registry.perform made = some (next, some text) ∧ ¬SameFor registry name next := by
  rcases Option.map_eq_some_iff.mp throws with ⟨⟨next, text⟩, callEq, view_eq⟩
  rcases Prod.mk.inj view_eq with ⟨isSome, after⟩
  rcases Option.isSome_iff_exists.mp isSome with ⟨content, rfl⟩
  refine ⟨next, content, callEq, fun same => stateEq ?_⟩
  rw [← (same address indexEq).1]
  exact after

/-- What a plugin needs is not known when it is to be loaded.  The plugin stays half way, and is
refused as its own dependency once what it needs is known.  And a plugin stays half way that
another one needs which may not be unloaded. -/
theorem left_half_way :
    (∃ registry, run step (create 1) [.preload "/extra" (.ok extraPlugin)] = some registry ∧
      ∃ next text, registry.perform (.load "extra") = some (next, some text) ∧
        ¬SameFor registry "extra" next) ∧
    (((run step (create 1) [.preload "/extra" (.ok extraPlugin), .load "extra",
        .preload "/base" (.ok basePlugin)]).bind fun registry =>
          registry.perform (.load "extra")).map Prod.snd =
      some (some "Failed to load plugin extra: Circular dependency detected.")) ∧
    ∃ registry, run step (create 1) [.preload "/base" (.ok basePlugin),
        .preload "/staying" (.ok stayingPlugin), .load "staying"] = some registry ∧
      ∃ next text, registry.perform (.unload "base") = some (next, some text) ∧
        ¬SameFor registry "base" next := by
  refine ⟨?_, by decide +kernel, ?_⟩
  · refine ⟨_, rfl, ?_⟩
    exact @exists_harm _ (.load "extra") "extra" 0 .loading (by decide +kernel)
      (by decide +kernel) (by decide +kernel)
  · refine ⟨_, rfl, ?_⟩
    exact @exists_harm _ (.unload "base") "base" 0 .unloading (by decide +kernel)
      (by decide +kernel) (by decide +kernel)

end VoxelEngine.Plugin.PluginRegistry
