import VoxelEngine.Plugin.PluginSets

/-!
# Unloading all plugins

When the engine exits, it tries to unload every plugin that is loaded, in the order of a hash set,
and expects that none is left.  The ones that are left do not depend on that order.  They are
those that may not be unloaded, those that wait for one that is half way, and those of which some
dependent is left.
-/

namespace VoxelEngine.Plugin.PluginRegistry

open Relation VoxelEngine.Transition

/-- `plugin_registry::unload_plugin` with both of its parameters.  The second one is passed on to
the plugin and to the unloads of its dependents. -/
def unloadAs (registry : PluginRegistry) (name : String) (_dynamic : Bool) : Outcome :=
  registry.perform (.unload name)

/-- The loop of `plugin_registry::try_unload_all_plugins`.  An exception is only logged. -/
def tryUnloadEach (dynamic : Bool) : List Address → PluginRegistry → Option PluginRegistry
  | [], registry => some registry
  | address :: rest, registry =>
      (registry.data address).bind fun plugin =>
        if plugin.state ≠ .loaded then tryUnloadEach dynamic rest registry
        else (registry.unloadAs plugin.info.internalName dynamic).bind fun outcome =>
          tryUnloadEach dynamic rest outcome.1

/-- `plugin_registry::try_unload_all_plugins`, which copies the plugins that are loaded in the
order in which the set is gone through. -/
def tryUnloadAllPlugins (registry : PluginRegistry) (dynamic : Bool) (plugins : List Address) :
    Option PluginRegistry :=
  tryUnloadEach dynamic plugins registry

/-! ## What can be released -/

/-- A plugin is not loaded, or is, may be unloaded, and all of its dependents can be released. -/
inductive Releasable (mayUnload : Address → Bool) (states : States) (lists : DependentLists) :
    Address → Prop
  | available {plugin} : states plugin = some .available →
      Releasable mayUnload states lists plugin
  | loaded {plugin} : states plugin = some .loaded → mayUnload plugin = true →
      (∀ dependent ∈ lists plugin, Releasable mayUnload states lists dependent) →
      Releasable mayUnload states lists plugin

/-- The first so many dependents of a plugin are gone through from the last to the first, which
leads from the one states and lists to the others, and succeeds or not. -/
inductive Frees (mayUnload : Address → Bool) :
    States → DependentLists → Address → Nat → States → DependentLists → Bool → Prop
  | done {states lists plugin} : Frees mayUnload states lists plugin 0 states lists true
  | pass {states lists plugin position dependent final finalLists success} :
      (lists plugin)[position]? = some dependent →
      states dependent = some .available →
      Frees mayUnload states lists plugin position final finalLists success →
      Frees mayUnload states lists plugin (position + 1) final finalLists success
  | stop {states lists plugin position dependent} :
      (lists plugin)[position]? = some dependent →
      (states dependent = some .loading ∨ states dependent = some .unloading ∨
        (states dependent = some .loaded ∧ mayUnload dependent = false)) →
      Frees mayUnload states lists plugin (position + 1) states lists false
  | abort {states lists plugin position dependent final finalLists} :
      (lists plugin)[position]? = some dependent →
      states dependent = some .loaded →
      mayUnload dependent = true →
      Frees mayUnload (Function.update states dependent (some .unloading)) lists dependent
        (lists dependent).length final finalLists false →
      Frees mayUnload states lists plugin (position + 1) final finalLists false
  | release {states lists plugin position dependent middle middleLists final finalLists success} :
      (lists plugin)[position]? = some dependent →
      states dependent = some .loaded →
      mayUnload dependent = true →
      Frees mayUnload (Function.update states dependent (some .unloading)) lists dependent
        (lists dependent).length middle middleLists true →
      Frees mayUnload (Function.update middle dependent (some .available))
        (Function.update middleLists plugin (swapEraseAt (middleLists plugin) position)) plugin
        position final finalLists success →
      Frees mayUnload states lists plugin (position + 1) final finalLists success

/-- What was done so far: some plugins that could be released are, and some that could not are
half way. -/
structure Settled (mayUnload : Address → Bool) (states : States) (lists : DependentLists)
    (final : States) (finalLists : DependentLists) : Prop where
  state : ∀ plugin, final plugin = states plugin ∨
    (Releasable mayUnload states lists plugin ∧ final plugin = some .available) ∨
    (¬Releasable mayUnload states lists plugin ∧ states plugin = some .loaded ∧
      final plugin = some .unloading)
  lists : ∀ plugin, final plugin = some .loaded → finalLists plugin = lists plugin

section Rules

variable {mayUnload : Address → Bool} {states middle final : States}
  {lists middleLists finalLists : DependentLists} {plugin dependent other : Address}
  {position : Nat} {success : Bool}

theorem Releasable.not_unloading (releasable : Releasable mayUnload states lists plugin) :
    states plugin ≠ some .unloading := by
  intro unloading
  cases releasable with
  | available stateEq => cases stateEq.symm.trans unloading
  | loaded stateEq _ _ => cases stateEq.symm.trans unloading

theorem Releasable.not_loading (releasable : Releasable mayUnload states lists plugin) :
    states plugin ≠ some .loading := by
  intro loading
  cases releasable with
  | available stateEq => cases stateEq.symm.trans loading
  | loaded stateEq _ _ => cases stateEq.symm.trans loading

theorem releasable_iff_of_loaded (loaded : states plugin = some .loaded) :
    Releasable mayUnload states lists plugin ↔ mayUnload plugin = true ∧
      ∀ dependent ∈ lists plugin, Releasable mayUnload states lists dependent := by
  constructor
  · intro releasable
    cases releasable with
    | available available => cases loaded.symm.trans available
    | loaded _ may dependents => exact ⟨may, dependents⟩
  · rintro ⟨may, dependents⟩
    exact Releasable.loaded loaded may dependents

theorem Settled.refl (mayUnload : Address → Bool) (states : States) (lists : DependentLists) :
    Settled mayUnload states lists states lists :=
  ⟨fun _ => Or.inl rfl, fun _ _ => rfl⟩

/-- A plugin that is loaded was loaded before. -/
theorem Settled.loaded_before (settled : Settled mayUnload states lists final finalLists)
    (loaded : final plugin = some .loaded) : states plugin = some .loaded := by
  rcases settled.state plugin with same | ⟨_, available⟩ | ⟨_, _, unloading⟩
  · rw [← same, loaded]
  · cases loaded.symm.trans available
  · cases loaded.symm.trans unloading

/-- A plugin that is not loaded stays as it is. -/
theorem Settled.state_eq (settled : Settled mayUnload states lists final finalLists)
    (notLoaded : states plugin ≠ some .loaded) : final plugin = states plugin := by
  rcases settled.state plugin with same | ⟨releasable, available⟩ | ⟨_, loaded, _⟩
  · exact same
  · cases releasable with
    | available stateEq => rw [available, stateEq]
    | loaded stateEq _ _ => exact absurd stateEq notLoaded
  · exact absurd loaded notLoaded

/-- The same plugins can be released all the time. -/
theorem Settled.releasable_iff (settled : Settled mayUnload states lists final finalLists) :
    Releasable mayUnload final finalLists plugin ↔ Releasable mayUnload states lists plugin := by
  constructor
  · intro releasable
    induction releasable with
    | @available plugin available =>
        rcases settled.state plugin with same | ⟨before, _⟩ | ⟨_, _, unloading⟩
        · exact Releasable.available (same ▸ available)
        · exact before
        · cases available.symm.trans unloading
    | @loaded plugin loaded may _ ih =>
        refine Releasable.loaded (settled.loaded_before loaded) may ?_
        rw [← settled.lists plugin loaded]
        exact ih
  · intro releasable
    induction releasable with
    | @available plugin available =>
        refine Releasable.available ?_
        rw [settled.state_eq (by rw [available]; simp), available]
    | @loaded plugin loaded may dependents ih =>
        rcases settled.state plugin with same | ⟨_, available⟩ | ⟨stuck, _, _⟩
        · rw [loaded] at same
          refine Releasable.loaded same may ?_
          rw [settled.lists plugin same]
          exact ih
        · exact Releasable.available available
        · exact absurd (Releasable.loaded loaded may dependents) stuck

theorem Settled.trans (one : Settled mayUnload states lists middle middleLists)
    (two : Settled mayUnload middle middleLists final finalLists) :
    Settled mayUnload states lists final finalLists := by
  constructor
  · intro plugin
    rcases two.state plugin with same | ⟨releasable, available⟩ | ⟨stuck, loaded, unloading⟩
    · rw [same]
      exact one.state plugin
    · exact Or.inr (Or.inl ⟨one.releasable_iff.mp releasable, available⟩)
    · exact Or.inr (Or.inr ⟨fun before => stuck (one.releasable_iff.mpr before),
        one.loaded_before loaded, unloading⟩)
  · intro plugin loaded
    rw [two.lists plugin loaded, one.lists plugin (two.loaded_before loaded)]

/-! ## Plugins begin to be unloaded -/

/-- A plugin that begins to be unloaded cannot be released any more. -/
theorem Releasable.of_begun
    (releasable : Releasable mayUnload (Function.update states plugin (some .unloading)) lists
      other) : Releasable mayUnload states lists other := by
  induction releasable with
  | available stateEq => exact Releasable.available (mem_of_update_ne (by decide) stateEq).2
  | loaded stateEq may _ ih =>
      exact Releasable.loaded (mem_of_update_ne (by decide) stateEq).2 may ih

/-- A plugin that is loaded waits for its dependents. -/
def WaitsFor (states : States) (lists : DependentLists) (plugin dependent : Address) : Prop :=
  states plugin = some .loaded ∧ dependent ∈ lists plugin

/-- Nothing that can be released waits for itself. -/
theorem Releasable.acyclic (releasable : Releasable mayUnload states lists plugin) :
    ¬TransGen (WaitsFor states lists) plugin plugin := by
  induction releasable with
  | available stateEq =>
      intro circle
      rcases TransGen.head'_iff.mp circle with ⟨_, ⟨loaded, _⟩, _⟩
      cases stateEq.symm.trans loaded
  | loaded _ _ _ ih =>
      intro circle
      rcases TransGen.head'_iff.mp circle with ⟨dependent, waits, back⟩
      exact ih dependent waits.2 (TransGen.tail' back waits)

/-- What can be released is released without another plugin, or waits for it. -/
theorem Releasable.begun_or_waits (releasable : Releasable mayUnload states lists other)
    (loaded : states plugin = some .loaded) :
    Releasable mayUnload (Function.update states plugin (some .unloading)) lists other ∨
      ReflTransGen (WaitsFor states lists) other plugin := by
  induction releasable with
  | @available other stateEq =>
      refine Or.inl (Releasable.available ?_)
      rw [Function.update_of_ne, stateEq]
      rintro rfl
      cases stateEq.symm.trans loaded
  | @loaded other otherLoaded may _ ih =>
      by_cases same : other = plugin
      · rw [same]
        exact Or.inr ReflTransGen.refl
      · by_cases all : ∀ dependent ∈ lists other, Releasable mayUnload
            (Function.update states plugin (some .unloading)) lists dependent
        · refine Or.inl (Releasable.loaded ?_ may all)
          rw [Function.update_of_ne same, otherLoaded]
        · rcases not_forall.mp all with ⟨dependent, notAll⟩
          rcases Classical.not_imp.mp notAll with ⟨mem, stuck⟩
          exact Or.inr (ReflTransGen.head ⟨otherLoaded, mem⟩
            ((ih dependent mem).resolve_left stuck))

/-- The dependents of a plugin that begins to be unloaded can still be released. -/
theorem Releasable.dependent_of_begun (releasable : Releasable mayUnload states lists plugin)
    (loaded : states plugin = some .loaded) (mem : dependent ∈ lists plugin) :
    Releasable mayUnload (Function.update states plugin (some .unloading)) lists dependent := by
  have before := ((releasable_iff_of_loaded loaded).mp releasable).2 dependent mem
  rcases before.begun_or_waits loaded with after | back
  · exact after
  · exact absurd (TransGen.head' ⟨loaded, mem⟩ back) releasable.acyclic

/-- A plugin that cannot be released begins to be unloaded. -/
theorem settled_begun (loaded : states plugin = some .loaded)
    (stuck : ¬Releasable mayUnload states lists plugin) :
    Settled mayUnload states lists (Function.update states plugin (some .unloading)) lists where
  state other := by
    by_cases same : other = plugin
    · rw [same, Function.update_self]
      exact Or.inr (Or.inr ⟨stuck, loaded, rfl⟩)
    · rw [Function.update_of_ne same]
      exact Or.inl rfl
  lists _ _ := rfl

/-! ## What becomes of the dependents -/

/-- What going through the dependents of a plugin that is being unloaded comes to. -/
structure Freed (mayUnload : Address → Bool) (states : States) (lists : DependentLists)
    (plugin : Address) (position : Nat) (final : States) (finalLists : DependentLists)
    (success : Bool) : Prop where
  settled : Settled mayUnload states lists final finalLists
  clean : success = true → ∀ other, final other = some .unloading → states other = some .unloading
  frame : ∀ other, other ≠ plugin → states other ≠ some .loaded → finalLists other = lists other
  success_iff : success = true ↔ ∀ entry < position, ∀ dependent,
    (lists plugin)[entry]? = some dependent → Releasable mayUnload states lists dependent

/-- What the call for a plugin comes to, given what becomes of its dependents. -/
structure Called (mayUnload : Address → Bool) (states : States) (lists : DependentLists)
    (plugin : Address) (final : States) (finalLists : DependentLists) (success : Bool) :
    Prop where
  settled : Settled mayUnload states lists final finalLists
  clean : success = true → ∀ other, final other = some .unloading → states other = some .unloading
  frame : ∀ other, states other ≠ some .loaded → finalLists other = lists other
  success_iff : success = true ↔ Releasable mayUnload states lists plugin
  released : success = true → final plugin = some .available

/-- All dependents of a plugin that begins to be unloaded can be released exactly if the plugin
can. -/
theorem dependents_releasable_iff (loaded : states plugin = some .loaded)
    (may : mayUnload plugin = true) :
    (∀ entry < (lists plugin).length, ∀ dependent, (lists plugin)[entry]? = some dependent →
      Releasable mayUnload (Function.update states plugin (some .unloading)) lists dependent) ↔
        Releasable mayUnload states lists plugin := by
  constructor
  · intro all
    refine Releasable.loaded loaded may ?_
    intro dependent mem
    rcases List.mem_iff_getElem?.mp mem with ⟨entry, entryEq⟩
    exact (all entry (List.getElem?_eq_some_iff.mp entryEq).1 dependent entryEq).of_begun
  · intro releasable entry _ dependent entryEq
    exact releasable.dependent_of_begun loaded (List.mem_of_getElem? entryEq)

theorem Freed.fails (freed : Freed mayUnload (Function.update states plugin (some .unloading)) lists
      plugin (lists plugin).length final finalLists false)
    (loaded : states plugin = some .loaded) (may : mayUnload plugin = true) :
    Called mayUnload states lists plugin final finalLists false := by
  have stuck : ¬Releasable mayUnload states lists plugin := by
    rw [← dependents_releasable_iff loaded may, ← freed.success_iff]
    exact Bool.false_ne_true
  refine ⟨(settled_begun loaded stuck).trans freed.settled,
    fun succeeded => (by cases succeeded), ?_, ?_, fun succeeded => (by cases succeeded)⟩
  · intro other notLoaded
    have other_ne : other ≠ plugin := by
      rintro rfl
      exact notLoaded loaded
    apply freed.frame other other_ne
    rwa [Function.update_of_ne other_ne]
  · exact ⟨fun succeeded => (by cases succeeded), fun releasable => absurd releasable stuck⟩

theorem Freed.succeeds (freed : Freed mayUnload (Function.update states plugin (some .unloading))
      lists plugin (lists plugin).length middle middleLists true)
    (loaded : states plugin = some .loaded) (may : mayUnload plugin = true) :
    Called mayUnload states lists plugin (Function.update middle plugin (some .available))
      middleLists true := by
  have releasable : Releasable mayUnload states lists plugin :=
    (dependents_releasable_iff loaded may).mp (freed.success_iff.mp rfl)
  refine ⟨⟨?_, ?_⟩, ?_, ?_, ⟨fun _ => releasable, fun _ => rfl⟩,
    fun _ => Function.update_self _ _ _⟩
  · intro other
    by_cases same : other = plugin
    · rw [same, Function.update_self]
      exact Or.inr (Or.inl ⟨releasable, rfl⟩)
    · have state := freed.settled.state other
      rw [Function.update_of_ne same] at state ⊢
      rcases state with kept | ⟨can, available⟩ | ⟨_, otherLoaded, unloading⟩
      · exact Or.inl kept
      · exact Or.inr (Or.inl ⟨can.of_begun, available⟩)
      · have before := freed.clean rfl other unloading
        rw [Function.update_of_ne same] at before
        cases otherLoaded.symm.trans before
  · intro other otherLoaded
    exact freed.settled.lists other (mem_of_update_ne (by decide) otherLoaded).2
  · intro _ other unloading
    rcases mem_of_update_ne (by decide) unloading with ⟨other_ne, still⟩
    have before := freed.clean rfl other still
    rwa [Function.update_of_ne other_ne] at before
  · intro other notLoaded
    have other_ne : other ≠ plugin := by
      rintro rfl
      exact notLoaded loaded
    apply freed.frame other other_ne
    rwa [Function.update_of_ne other_ne]

/-- Erasing a dependent of a plugin that is being unloaded. -/
theorem settled_erased (unloading : states plugin = some .unloading) (entries : List Address) :
    Settled mayUnload states lists states (Function.update lists plugin entries) where
  state _ := Or.inl rfl
  lists other loaded := by
    rw [Function.update_of_ne]
    rintro rfl
    cases unloading.symm.trans loaded

/-- Erasing keeps what is in front. -/
theorem getElem?_swapEraseAt_of_lt {items : List Address} {entry : Nat}
    (inside : position < items.length) (before : entry < position) :
    (swapEraseAt items position)[entry]? = items[entry]? := by
  have nonempty : items ≠ [] :=
    List.ne_nil_of_length_pos (Nat.lt_of_le_of_lt (Nat.zero_le _) inside)
  rw [swapEraseAt, List.getLast?_eq_some_getLast nonempty]
  have below : entry < items.length - 1 := by omega
  dsimp only
  rw [List.dropLast_eq_take, List.getElem?_take_of_lt (by rwa [List.length_set]),
    List.getElem?_set_ne (Nat.ne_of_gt before)]

/-- Going through the dependents succeeds exactly if all of them can be released. -/
theorem Frees.freed
    (frees : Frees mayUnload states lists plugin position final finalLists success)
    (unloading : states plugin = some .unloading) :
    Freed mayUnload states lists plugin position final finalLists success := by
  induction frees with
  | done =>
      refine ⟨Settled.refl _ _ _, fun _ _ => id, fun _ _ _ => rfl, ⟨?_, fun _ => rfl⟩⟩
      intro _ entry below
      exact absurd below (Nat.not_lt_zero entry)
  | @pass states lists plugin position dependent final finalLists success entryEq available _ ih =>
      have freed := ih unloading
      refine ⟨freed.settled, freed.clean, freed.frame, freed.success_iff.trans ⟨?_, ?_⟩⟩
      · intro all entry below other otherEq
        rcases Nat.lt_succ_iff_lt_or_eq.mp below with earlier | rfl
        · exact all entry earlier other otherEq
        · cases entryEq.symm.trans otherEq
          exact Releasable.available available
      · intro all entry below
        exact all entry (Nat.lt_succ_of_lt below)
  | @stop states lists plugin position dependent entryEq reason =>
      refine ⟨Settled.refl _ _ _, fun _ _ => id, fun _ _ _ => rfl, ?_⟩
      constructor
      · intro succeeded
        cases succeeded
      · intro all
        have releasable := all position (Nat.lt_succ_self position) dependent entryEq
        rcases reason with loading | still | ⟨loaded, mayNot⟩
        · exact absurd loading releasable.not_loading
        · exact absurd still releasable.not_unloading
        · exact mayNot.symm.trans ((releasable_iff_of_loaded loaded).mp releasable).1
  | @abort states lists plugin position dependent final finalLists entryEq loaded may _ ih =>
      have called := (ih (Function.update_self _ _ _)).fails loaded may
      refine ⟨called.settled, called.clean, fun other _ => called.frame other, ?_⟩
      constructor
      · intro succeeded
        cases succeeded
      · intro all
        exact called.success_iff.mpr (all position (Nat.lt_succ_self position) dependent entryEq)
  | @release states lists plugin position dependent middle middleLists final finalLists success
      entryEq loaded may _ _ nestedIh restIh =>
      have called := (nestedIh (Function.update_self _ _ _)).succeeds loaded may
      have notLoaded : states plugin ≠ some .loaded := by
        rw [unloading]
        simp
      have still := called.settled.state_eq notLoaded
      rw [unloading] at still
      have inside := (List.getElem?_eq_some_iff.mp entryEq).1
      have freed := restIh still
      have erased := called.settled.trans (settled_erased still
        (swapEraseAt (middleLists plugin) position))
      refine ⟨erased.trans freed.settled, ?_, ?_, freed.success_iff.trans ⟨?_, ?_⟩⟩
      · intro succeeded other otherUnloading
        exact called.clean rfl other (freed.clean succeeded other otherUnloading)
      · intro other other_ne otherNotLoaded
        rw [freed.frame other other_ne, Function.update_of_ne other_ne,
          called.frame other otherNotLoaded]
        rw [called.settled.state_eq otherNotLoaded]
        exact otherNotLoaded
      · intro all entry below other otherEq
        rcases Nat.lt_succ_iff_lt_or_eq.mp below with earlier | rfl
        · apply erased.releasable_iff.mp
          apply all entry earlier other
          rw [Function.update_self, called.frame plugin notLoaded,
            getElem?_swapEraseAt_of_lt inside earlier, otherEq]
        · cases entryEq.symm.trans otherEq
          exact called.success_iff.mp rfl
      · intro all entry below other otherEq
        apply erased.releasable_iff.mpr
        rw [Function.update_self, called.frame plugin notLoaded,
          getElem?_swapEraseAt_of_lt inside below] at otherEq
        exact all entry (Nat.lt_succ_of_lt below) other otherEq

end Rules

/-! ## The registry follows the rules -/

/-- Whether the plugin at an address may be unloaded. -/
def mayUnload (registry : PluginRegistry) (address : Address) : Bool :=
  (registry.data address).any fun plugin => plugin.info.allowDynamicUnload

/-- A plugin that is not available is the one that is found by its name. -/
def Found (registry : PluginRegistry) : Prop :=
  ∀ address plugin, registry.data address = some plugin → plugin.state ≠ .available →
    registry.pluginsByName plugin.info.internalName = some address

section Calls

variable {registry next : PluginRegistry} {name : String} {address : Address}
  {plugin : PluginData} {position depth : Nat} {text : Option String}

theorem mayUnload_eq (dataEq : registry.data address = some plugin) :
    registry.mayUnload address = plugin.info.allowDynamicUnload := by
  rw [mayUnload, dataEq, Option.any_some]

theorem SameEntries.mayUnload {before after : PluginRegistry} (same : SameEntries before after) :
    after.mayUnload = before.mayUnload := by
  funext address
  have infos := same.map_eq (fun identity => identity.1.allowDynamicUnload) address
  rw [PluginRegistry.mayUnload, PluginRegistry.mayUnload]
  cases afterEq : after.data address with
  | none =>
      rw [afterEq] at infos
      rw [Option.map_eq_none_iff.mp infos.symm]
  | some plugin =>
      rw [afterEq] at infos
      rcases Option.map_eq_some_iff.mp infos.symm with ⟨current, currentEq, info_eq⟩
      rw [currentEq]
      exact info_eq.symm

theorem SameEntries.found {before after : PluginRegistry} (same : SameEntries before after)
    (found : before.Found) (available : ∀ address, before.stateOf address = some .available →
      after.stateOf address = some .available) : after.Found := by
  intro address plugin dataEq notAvailable
  rcases same.info_eq dataEq with ⟨current, currentEq, info_eq⟩
  rw [same.pluginsByName, ← info_eq]
  apply found address current currentEq
  intro state
  have after_eq := available address (by rw [stateOf_eq currentEq, state])
  rw [stateOf_eq dataEq, Option.some.injEq] at after_eq
  exact notAvailable after_eq

/-- What a call for a plugin that is loaded comes to. -/
structure Unwinds (registry : PluginRegistry) (address : Address) (next : PluginRegistry)
    (text : Option String) : Prop where
  same : SameEntries registry next
  found : next.Found
  refused : registry.mayUnload address = false → next = registry ∧ text.isSome = true
  begun : registry.mayUnload address = true → ∃ middle,
    Frees registry.mayUnload (Function.update registry.stateOf address (some .unloading))
      registry.dependentsOf address (registry.dependentsOf address).length middle
        next.dependentsOf text.isNone ∧
      next.stateOf =
        if text.isNone then Function.update middle address (some .available) else middle

/-- The loop over the dependents follows the rules if the calls in it do. -/
theorem frees_of_unloadDependents
    (calls : ∀ {first second : PluginRegistry} {called : String} {other : Address}
      {message : Option String}, first.Found → first.pluginsByName called = some other →
        first.stateOf other = some .loaded →
          unloadPlugin depth first called = some (second, message) →
            Unwinds first other second message)
    (found : registry.Found)
    (unloadEq : unloadDependents (unloadPlugin depth) address position registry =
      some (next, text)) :
    Frees registry.mayUnload registry.stateOf registry.dependentsOf address position next.stateOf
        next.dependentsOf text.isNone ∧
      SameEntries registry next ∧ next.Found := by
  induction position generalizing registry with
  | zero =>
      cases unloadEq
      exact ⟨Frees.done, SameEntries.refl _, found⟩
  | succ position ih =>
      rcases visit_of_unloadDependents unloadEq with ⟨plugin, visitedEq, visit⟩
      rcases visited_eq_some visitedEq with ⟨dependent, entryEq, dataEq⟩
      have stateEq := stateOf_eq dataEq
      cases visit with
      | passed available restEq =>
          rw [available] at stateEq
          rcases ih found restEq with ⟨frees, same, nextFound⟩
          exact ⟨Frees.pass entryEq stateEq frees, same, nextFound⟩
      | stopped content halfWay next_eq =>
          subst next_eq
          refine ⟨Frees.stop entryEq ?_, SameEntries.refl _, found⟩
          rcases halfWay with state | state
          · exact Or.inl (stateEq.trans (congrArg some state))
          · exact Or.inr (Or.inl (stateEq.trans (congrArg some state)))
      | failed content loaded callEq =>
          have indexEq := found dependent plugin dataEq (by rw [loaded]; decide)
          rw [loaded] at stateEq
          have unwinds := calls found indexEq stateEq callEq
          refine ⟨?_, unwinds.same, unwinds.found⟩
          cases may : registry.mayUnload dependent with
          | false =>
              rw [(unwinds.refused may).1]
              exact Frees.stop entryEq (Or.inr (Or.inr ⟨stateEq, may⟩))
          | true =>
              rcases unwinds.begun may with ⟨middle, nested, states⟩
              rw [states]
              exact Frees.abort entryEq stateEq may nested
      | unloaded loaded callEq eraseEq restEq =>
          have indexEq := found dependent plugin dataEq (by rw [loaded]; decide)
          rw [loaded] at stateEq
          have unwinds := calls found indexEq stateEq callEq
          rcases erase_lists eraseEq with ⟨erasedSame, erased_state, erased_lists⟩
          have toErased := unwinds.same.trans erasedSame
          have erasedFound := erasedSame.found unwinds.found fun other available => by
            rw [erased_state, available]
          rcases ih erasedFound restEq with ⟨frees, restSame, nextFound⟩
          cases may : registry.mayUnload dependent with
          | false => cases (unwinds.refused may).2
          | true =>
              rcases unwinds.begun may with ⟨middle, nested, states⟩
              rw [toErased.mayUnload, erased_state, erased_lists, states] at frees
              exact ⟨Frees.release entryEq stateEq may nested frees,
                toErased.trans restSame, nextFound⟩

/-- Every call for a plugin that is loaded follows the rules. -/
theorem unwinds_of_unloadPlugin (found : registry.Found)
    (indexEq : registry.pluginsByName name = some address)
    (loaded : registry.stateOf address = some .loaded)
    (unloadEq : unloadPlugin depth registry name = some (next, text)) :
    Unwinds registry address next text := by
  induction depth generalizing registry name address next text with
  | zero => cases unloadEq
  | succ depth ih =>
      rcases Option.map_eq_some_iff.mp loaded with ⟨plugin, dataEq, state⟩
      have notAvailable : plugin.state ≠ .available := by
        rw [state]
        decide
      cases allowed : plugin.info.allowDynamicUnload with
      | false =>
          have mayNot := (mayUnload_eq dataEq).trans allowed
          rcases unloadPlugin_refused depth indexEq dataEq (by simp [allowed]) with
            ⟨message, refusedEq⟩
          cases refusedEq.symm.trans unloadEq
          refine ⟨SameEntries.refl _, found, fun _ => ⟨rfl, rfl⟩, ?_⟩
          intro may
          cases mayNot.symm.trans may
      | true =>
          have may := (mayUnload_eq dataEq).trans allowed
          have begun := sameEntries_beginUnloading dataEq
          have begunFound : (registry.beginUnloading address plugin).Found := by
            refine begun.found found ?_
            intro other available
            rw [stateOf_beginUnloading, Function.update_of_ne, available]
            rintro rfl
            cases available.symm.trans loaded
          rcases unloadPlugin_begun indexEq dataEq notAvailable allowed unloadEq with
            ⟨reached, loopEq, ended⟩
          rcases frees_of_unloadDependents ih begunFound loopEq with ⟨frees, same, reachedFound⟩
          rw [begun.mayUnload, stateOf_beginUnloading, dependentsOf_beginUnloading dataEq,
            ← dependentsOf_eq dataEq] at frees
          have refuted : registry.mayUnload address = false →
              next = registry ∧ text.isSome = true := by
            intro mayNot
            cases mayNot.symm.trans may
          rcases ended with ⟨content, rfl, rfl⟩ | ⟨rfl, current, currentEq, rfl⟩
          · exact ⟨begun.trans same, reachedFound, refuted, fun _ => ⟨_, frees, rfl⟩⟩
          · have finished := sameEntries_finish currentEq
            have states := stateOf_finishUnloading reached address current
            refine ⟨(begun.trans same).trans finished, ?_, refuted, ?_⟩
            · refine finished.found reachedFound ?_
              intro other available
              rw [states]
              by_cases same : other = address
              · rw [same, Function.update_self]
              · rw [Function.update_of_ne same, available]
            · intro _
              rw [dependentsOf_finishUnloading currentEq]
              exact ⟨_, frees, states⟩

/-- A call for a plugin that is loaded succeeds exactly if the plugin can be released. -/
theorem Unwinds.called (unwinds : Unwinds registry address next text)
    (loaded : registry.stateOf address = some .loaded) :
    Called registry.mayUnload registry.stateOf registry.dependentsOf address next.stateOf
      next.dependentsOf text.isNone := by
  cases may : registry.mayUnload address with
  | false =>
      rcases unwinds.refused may with ⟨rfl, isSome⟩
      rcases Option.isSome_iff_exists.mp isSome with ⟨content, rfl⟩
      refine ⟨Settled.refl _ _ _, fun _ _ => id, fun _ _ => rfl, ?_,
        fun succeeded => (by cases succeeded)⟩
      constructor
      · intro succeeded
        cases succeeded
      · intro releasable
        cases may.symm.trans ((releasable_iff_of_loaded loaded).mp releasable).1
  | true =>
      rcases unwinds.begun may with ⟨middle, frees, states⟩
      have freed := frees.freed (Function.update_self _ _ _)
      rw [states]
      cases text with
      | none => exact freed.succeeds loaded may
      | some content => exact freed.fails loaded may

end Calls

/-! ## Careful callers -/

/-- What is taken out is the plugin that its name leads to. -/
def KeepsNames (registry : PluginRegistry) : Call → Prop
  | .unscan name => ∀ address plugin, registry.findNamed name registry.plugins =
      some (address, plugin) → plugin.state = .available →
        registry.pluginsByName name = some address
  | _ => True

/-- No plugin is taken out that another one lists as its dependent, or in place of another one of
the same name. -/
def Careful (registry : PluginRegistry) (made : Call) : Prop :=
  registry.KeepsDependents made ∧ registry.KeepsNames made

/-- The plugins that are loaded are these, but for those that became available. -/
structure Remains (plugins : Finset Address) (registry : PluginRegistry) : Prop where
  left : ∀ address ∈ plugins,
    address ∈ registry.loadedPlugins ∨ registry.stateOf address = some .available
  among : ∀ address ∈ registry.loadedPlugins, address ∈ plugins

section Careful

variable {registry next : PluginRegistry} {text : Option String} {name : String}

/-- Nothing that is available begins to be unloaded. -/
theorem unloadKeeps_available (states : States) : UnloadKeeps fun reached =>
    ∀ address, states address = some .available → reached.stateOf address = some .available where
  begin {registry address plugin} dataEq notAvailable _ kept other was := by
    rw [stateOf_beginUnloading, Function.update_of_ne, kept other was]
    rintro rfl
    have still := kept other was
    rw [stateOf_eq dataEq, Option.some.injEq] at still
    exact notAvailable still
  erase eraseEq kept other was := by
    rw [(modify_keeps (by exact fun _ => rfl) eraseEq).1, kept other was]
  finish {registry address plugin} _ kept other was := by
    rw [stateOf_finishUnloading]
    by_cases same : other = address
    · rw [same, Function.update_self]
    · rw [Function.update_of_ne same, kept other was]

theorem unloadKeeps_remains (plugins : Finset Address) : UnloadKeeps (Remains plugins) where
  begin {registry address plugin} dataEq notAvailable _ remains := by
    refine ⟨?_, remains.among⟩
    intro other mem
    rcases remains.left other mem with still | available
    · exact Or.inl still
    · refine Or.inr ?_
      rw [stateOf_beginUnloading, Function.update_of_ne, available]
      rintro rfl
      rw [stateOf_eq dataEq, Option.some.injEq] at available
      exact notAvailable available
  erase eraseEq remains := by
    rcases modify_keeps (by exact fun _ => rfl) eraseEq with ⟨states, _, loaded⟩
    constructor
    · rw [states, loaded]
      exact remains.left
    · rw [loaded]
      exact remains.among
  finish {registry address plugin} _ remains := by
    constructor
    · intro other mem
      rw [stateOf_finishUnloading]
      by_cases same : other = address
      · rw [same, Function.update_self]
        exact Or.inr rfl
      · rw [Function.update_of_ne same]
        rcases remains.left other mem with still | available
        · exact Or.inl (Finset.mem_erase.mpr ⟨same, still⟩)
        · exact Or.inr available
    · intro other mem
      exact remains.among other (Finset.mem_of_mem_erase mem)

theorem found_create (firstId : ActorId) : (create firstId).Found := by
  intro address plugin dataEq
  cases dataEq

theorem Found.preloadPlugin (found : registry.Found) {path : String}
    {library : Except String PluginInfo}
    (preloadEq : registry.preloadPlugin path library = some (next, text)) : next.Found := by
  cases library with
  | error message =>
      cases preloadEq
      exact found
  | ok info =>
      cases preloadEq
      intro address plugin dataEq notAvailable
      change Function.update registry.data registry.nextAddress _ address = some plugin at dataEq
      by_cases same : address = registry.nextAddress
      · rw [same, Function.update_self, Option.some.injEq] at dataEq
        rw [← dataEq] at notAvailable
        exact absurd rfl notAvailable
      · rw [Function.update_of_ne same] at dataEq
        have indexEq := found address plugin dataEq notAvailable
        change Data.emplace registry.pluginsByName info.internalName registry.nextAddress
          plugin.info.internalName = some address
        rw [Data.emplace]
        split
        · exact indexEq
        · rename_i unused
          rw [Function.update_of_ne, indexEq]
          intro name_eq
          rw [← name_eq, indexEq] at unused
          exact unused rfl

theorem Found.unscanPlugin (found : registry.Found) (keeps : registry.KeepsNames (.unscan name))
    (unscanEq : registry.unscanPlugin name = some (next, text)) : next.Found := by
  rw [PluginRegistry.unscanPlugin] at unscanEq
  cases findEq : registry.findNamed name registry.plugins with
  | none => simp [findEq] at unscanEq
  | some entry =>
      rcases entry with ⟨removed, removedPlugin⟩
      rcases findNamed_spec findEq with ⟨removedEq, removed_name⟩
      by_cases notAvailable : removedPlugin.state ≠ .available
      · simp only [findEq, if_pos notAvailable, Option.some.injEq, Prod.mk.injEq] at unscanEq
        rcases unscanEq with ⟨rfl, _⟩
        exact found
      · simp only [findEq, if_neg notAvailable, Option.some.injEq, Prod.mk.injEq] at unscanEq
        rcases unscanEq with ⟨rfl, _⟩
        intro address plugin dataEq inUse
        rw [data_remove] at dataEq
        split at dataEq
        · cases dataEq
        · rename_i address_ne
          have indexEq := found address plugin dataEq inUse
          change Function.update registry.pluginsByName removedPlugin.info.internalName none
            plugin.info.internalName = some address
          rw [Function.update_of_ne, indexEq]
          -- a plugin of the same name would be the one that is taken out
          intro name_eq
          rw [name_eq, removed_name,
            keeps removed removedPlugin findEq (not_not.mp notAvailable)] at indexEq
          exact address_ne (Option.some.inj indexEq).symm

/-- A plugin that is not found by its own name is not found by any other one either. -/
theorem Grounded.unknown (grounded : registry.Grounded) {address : Address} {plugin : PluginData}
    (dataEq : registry.data address = some plugin)
    (other : registry.pluginsByName plugin.info.internalName ≠ some address) (key : String)
    (info : PluginInfo) : registry.known key ≠ some (address, info) := by
  intro knownEq
  rcases known_eq_some_iff.mp knownEq with ⟨_, indexEq, _, _⟩
  rcases grounded.indexed key address indexEq with ⟨found, foundEq, name_eq⟩
  cases dataEq.symm.trans foundEq
  rw [← name_eq] at indexEq
  exact other indexEq

/-- Only plugins that are known get another state. -/
theorem Walk.state_eq_of_unknown {known : String → Option (Address × PluginInfo)}
    {states final : States} {dependencies : List Dependency} {success : Bool} {address : Address}
    (walk : Walk known states dependencies final success)
    (unknown : ∀ name info, known name ≠ some (address, info)) :
    final address = states address := by
  have other : ∀ {states dependency began info},
      standing known states dependency = .begins began info → address ≠ began := by
    rintro states dependency began info begins rfl
    exact unknown _ _ (standing_eq_begins_iff.mp begins).1
  induction walk with
  | done => rfl
  | stop => rfl
  | skip _ _ _ ih => exact ih
  | use _ _ ih => exact ih
  | load begins _ _ nestedIh restIh =>
      rw [restIh, Function.update_of_ne (other begins), nestedIh,
        Function.update_of_ne (other begins)]
  | abort _ begins _ nestedIh => rw [nestedIh, Function.update_of_ne (other begins)]
  | pass _ begins _ _ nestedIh restIh =>
      rw [restIh, nestedIh, Function.update_of_ne (other begins)]

theorem state_eq_of_load {address : Address}
    (callEq : registry.perform (.load name) = some (next, text))
    (unknown : ∀ name info, registry.known name ≠ some (address, info)) :
    next.stateOf address = registry.stateOf address := by
  have follows := callFollows callEq
  by_cases begins : ∃ other plugin, registry.pluginsByName name = some other ∧
      registry.data other = some plugin ∧ plugin.state = .available ∧
      plugin.info.allowDynamicLoad = true
  · rcases begins with ⟨other, plugin, indexEq, dataEq, available, allowed⟩
    have address_ne : address ≠ other := by
      rintro rfl
      exact unknown name plugin.info (known_eq_some_iff.mpr ⟨plugin, indexEq, dataEq, rfl⟩)
    rcases follows.begun other plugin indexEq dataEq available allowed with
      ⟨middle, walk, states⟩
    have kept := walk.state_eq_of_unknown unknown
    rw [Function.update_of_ne address_ne] at kept
    rw [states]
    split
    · rw [Function.update_of_ne address_ne, kept]
    · exact kept
  · rw [(follows.refused fun other plugin indexEq dataEq able =>
      begins ⟨other, plugin, indexEq, dataEq, able⟩).1]

theorem Found.loadPlugin (found : registry.Found) (grounded : registry.Grounded)
    (callEq : registry.perform (.load name) = some (next, text)) : next.Found := by
  have same := (callFollows callEq).moved.same
  intro address plugin dataEq notAvailable
  rcases same.info_eq dataEq with ⟨before, beforeEq, info_eq⟩
  rw [same.pluginsByName, ← info_eq]
  by_contra other
  have state_eq := state_eq_of_load callEq (grounded.unknown beforeEq other)
  rw [stateOf_eq dataEq, stateOf_eq beforeEq, Option.some.injEq] at state_eq
  exact other (found address before beforeEq (state_eq ▸ notAvailable))

theorem sameEntries_of_unload (traced : registry.Traced)
    (callEq : registry.perform (.unload name) = some (next, text)) : SameEntries registry next :=
  ((callsEnd registry.nesting registry [] name traced.layered List.nodup_nil trivial
    (fun _ _ _ pathEq => by cases pathEq) registry.nesting_pos
    (fun child _ _ => registry.unloadRank_lt_nesting child)).1 _ callEq).1.same

/-- In careful hands a plugin that is loaded is found by its name. -/
theorem Found.call (found : registry.Found) (traced : registry.Traced) {made : Call}
    (keeps : registry.KeepsNames made) (callEq : registry.perform made = some (next, text)) :
    next.Found := by
  cases made with
  | preload path library => exact found.preloadPlugin callEq
  | unscan name => exact found.unscanPlugin keeps callEq
  | load name => exact found.loadPlugin traced.layered.grounded callEq
  | unload name =>
      exact (sameEntries_of_unload traced callEq).found found
        ((unloadKeeps_available registry.stateOf).unloadPlugin (fun _ => id) callEq)

/-- What holds in every state if the callers are careful. -/
structure Tended (registry : PluginRegistry) : Prop where
  traced : registry.Traced
  undangling : registry.Undangling
  found : registry.Found
  shelved : registry.Shelved

theorem Tended.call (tended : registry.Tended) {made : Call} (careful : registry.Careful made)
    (callEq : registry.perform made = some (next, text)) : next.Tended where
  traced := (tended.traced.call callEq).1
  undangling := (tended.traced.call callEq).2 tended.undangling careful.1
  found := tended.found.call tended.traced careful.2 callEq
  shelved := tended.shelved.call tended.traced callEq

theorem tended_of_run {firstId : ActorId} {calls : List Call}
    (careful : Guarded step Careful (create firstId) calls)
    (runEq : run step (create firstId) calls = some registry) : registry.Tended := by
  refine run_invariant ?_ ⟨traced_create firstId, undangling_create firstId, found_create firstId,
    shelved_create firstId⟩ careful runEq
  intro before made after tended carefulHere stepEq
  rcases Option.map_eq_some_iff.mp stepEq with ⟨⟨next, text⟩, callEq, rfl⟩
  exact tended.call carefulHere callEq

/-! ## The loop -/

variable {plugins : List Address} {dynamic : Bool}

/-- What every part of an unload keeps, the whole loop keeps. -/
theorem UnloadKeeps.tryUnloadEach {kept : PluginRegistry → Prop} (keeps : UnloadKeeps kept)
    (before : kept registry) (unloadEq : tryUnloadEach dynamic plugins registry = some next) :
    kept next := by
  induction plugins generalizing registry with
  | nil =>
      cases unloadEq
      exact before
  | cons address plugins ih =>
      rw [PluginRegistry.tryUnloadEach] at unloadEq
      rcases Option.bind_eq_some_iff.mp unloadEq with ⟨plugin, _, eachEq⟩
      split at eachEq
      · exact ih before eachEq
      · rcases Option.bind_eq_some_iff.mp eachEq with ⟨⟨reached, text⟩, callEq, restEq⟩
        exact ih (keeps.unloadPlugin before callEq) restEq

/-- The loop releases those of the plugins that can be released. -/
theorem Tended.tryUnloadEach (tended : registry.Tended)
    (alive : ∀ address ∈ plugins, (registry.data address).isSome) :
    ∃ next, tryUnloadEach dynamic plugins registry = some next ∧ next.Tended ∧
      Settled registry.mayUnload registry.stateOf registry.dependentsOf next.stateOf
        next.dependentsOf ∧
      ∀ address ∈ plugins,
        Releasable registry.mayUnload registry.stateOf registry.dependentsOf address →
          next.stateOf address = some .available := by
  induction plugins generalizing registry with
  | nil => exact ⟨registry, rfl, tended, Settled.refl _ _ _, fun _ mem => by cases mem⟩
  | cons address plugins ih =>
      rcases Option.isSome_iff_exists.mp (alive address List.mem_cons_self) with ⟨plugin, dataEq⟩
      have aliveLater : ∀ other ∈ plugins, (registry.data other).isSome :=
        fun other mem => alive other (List.mem_cons_of_mem _ mem)
      have stateEq := stateOf_eq dataEq
      rw [PluginRegistry.tryUnloadEach, dataEq, Option.bind_some]
      by_cases loaded : plugin.state = .loaded
      · rw [if_neg (not_not.mpr loaded)]
        rw [loaded] at stateEq
        have indexEq := tended.found address plugin dataEq (by rw [loaded]; decide)
        rcases tended.traced.exists_unload tended.undangling plugin.info.internalName with
          ⟨⟨reached, text⟩, callEq⟩
        have unwinds := unwinds_of_unloadPlugin tended.found indexEq stateEq callEq
        have called := unwinds.called stateEq
        have careful : registry.Careful (.unload plugin.info.internalName) := ⟨trivial, trivial⟩
        rcases ih (tended.call careful callEq)
          (fun other mem => by rw [unwinds.same.isSome_eq]; exact aliveLater other mem) with
          ⟨next, nextEq, nextTended, settled, released⟩
        rw [unwinds.same.mayUnload] at settled released
        refine ⟨next, ?_, nextTended, called.settled.trans settled, ?_⟩
        · rw [show registry.unloadAs plugin.info.internalName dynamic = some (reached, text) from
            callEq]
          exact nextEq
        · intro other mem releasable
          rcases List.mem_cons.mp mem with rfl | mem
          · have available := called.released (called.success_iff.mpr releasable)
            rw [settled.state_eq (by rw [available]; simp), available]
          · exact released other mem (called.settled.releasable_iff.mpr releasable)
      · rw [if_pos loaded]
        rcases ih tended aliveLater with ⟨next, nextEq, nextTended, settled, released⟩
        refine ⟨next, nextEq, nextTended, settled, ?_⟩
        intro other mem releasable
        rcases List.mem_cons.mp mem with rfl | mem
        · have notLoaded : registry.stateOf other ≠ some .loaded := by
            rw [stateEq, ne_eq, Option.some.injEq]
            exact loaded
          rw [settled.state_eq notLoaded]
          cases releasable with
          | available available => exact available
          | loaded otherLoaded _ _ => exact absurd otherLoaded notLoaded
        · exact released other mem releasable

end Careful

/-- Trying to unload all plugins ends, and in whatever order they are tried, those that are still
loaded in the end are the ones that could not be released in the first place. -/
theorem tryUnloadAllPlugins_unloads {firstId : ActorId} {calls : List Call}
    {registry : PluginRegistry} (careful : Guarded step Careful (create firstId) calls)
    (runEq : run step (create firstId) calls = some registry) (dynamic : Bool)
    {plugins : List Address}
    (all : ∀ address, address ∈ plugins ↔ address ∈ registry.loadedPlugins) :
    ∃ next, registry.tryUnloadAllPlugins dynamic plugins = some next ∧
      (∀ address, next.stateOf address = some .available ↔
        Releasable registry.mayUnload registry.stateOf registry.dependentsOf address) ∧
      ∀ address, address ∈ next.loadedPlugins ↔ address ∈ registry.loadedPlugins ∧
        ¬Releasable registry.mayUnload registry.stateOf registry.dependentsOf address := by
  have tended := tended_of_run careful runEq
  have alive : ∀ address ∈ plugins, (registry.data address).isSome := by
    intro address mem
    have inUse := (tended.shelved address).inUse ((all address).mp mem)
    rcases inUse with stateEq | stateEq
    all_goals
      rcases Option.map_eq_some_iff.mp stateEq with ⟨plugin, dataEq, _⟩
      rw [dataEq]
      rfl
  rcases @Tended.tryUnloadEach registry plugins dynamic tended alive with
    ⟨next, nextEq, nextTended, settled, released⟩
  have remains := (unloadKeeps_remains registry.loadedPlugins).tryUnloadEach
    ⟨fun _ => Or.inl, fun _ => id⟩ nextEq
  have available_iff : ∀ address, next.stateOf address = some .available ↔
      Releasable registry.mayUnload registry.stateOf registry.dependentsOf address := by
    intro address
    constructor
    · intro available
      exact settled.releasable_iff.mp (Releasable.available available)
    · intro releasable
      have can := releasable
      cases can with
      | available available => rw [settled.state_eq (by rw [available]; simp), available]
      | loaded loaded _ _ =>
          exact released address ((all address).mpr ((tended.shelved address).loaded loaded))
            releasable
  refine ⟨next, nextEq, available_iff, ?_⟩
  intro address
  rw [← available_iff address]
  constructor
  · intro mem
    refine ⟨remains.among address mem, fun available => ?_⟩
    rcases (nextTended.shelved address).inUse mem with loaded | unloading
    · cases available.symm.trans loaded
    · cases available.symm.trans unloading
  · rintro ⟨mem, notAvailable⟩
    exact (remains.left address mem).resolve_right notAvailable

theorem tryUnloadAllPlugins_unloads_extra :
    ∃ registry, run step (create 1) loadingCalls = some registry ∧
      ∃ next, registry.tryUnloadAllPlugins false [0, 1] = some next ∧
        (∀ address, next.stateOf address = some .available ↔
          Releasable registry.mayUnload registry.stateOf registry.dependentsOf address) ∧
        ∀ address, address ∈ next.loadedPlugins ↔ address ∈ registry.loadedPlugins ∧
          ¬Releasable registry.mayUnload registry.stateOf registry.dependentsOf address := by
  have loaded : (run step (create 1) loadingCalls).map loadedPlugins = some {0, 1} := by
    decide +kernel
  rcases Option.map_eq_some_iff.mp loaded with ⟨registry, runEq, loaded_eq⟩
  refine ⟨registry, runEq, @tryUnloadAllPlugins_unloads 1 loadingCalls registry ?_ runEq false
    [0, 1] ?_⟩
  · rw [loadingCalls, guarded_cons_iff]
    refine ⟨⟨trivial, trivial⟩, fun first _ => ?_⟩
    rw [guarded_cons_iff]
    refine ⟨⟨trivial, trivial⟩, fun second _ => ?_⟩
    rw [guarded_cons_iff]
    exact ⟨⟨trivial, trivial⟩, fun third _ => guarded_nil _ _ _⟩
  · intro address
    rw [loaded_eq]
    simp

end VoxelEngine.Plugin.PluginRegistry
