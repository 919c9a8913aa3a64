import VoxelEngine.Plugin.UnloadNesting

/-!
# Calls of the plugin registry end

Loading a plugin ends in every state that the registry can be in.  Unloading one ends as well,
unless a dependent that was taken out of the registry is still listed by the plugin.
-/

namespace VoxelEngine.Plugin.PluginRegistry

open VoxelEngine.Data VoxelEngine.Transition

/-- No plugin is taken out that another one lists as its dependent. -/
def KeepsDependents (registry : PluginRegistry) : Call → Prop
  | .unscan name => ∀ address plugin, registry.findNamed name registry.plugins =
      some (address, plugin) → plugin.state = .available →
        ∀ other, address ∉ registry.dependentsOf other
  | _ => True

/-- What holds in every state. -/
structure Traced (registry : PluginRegistry) : Prop where
  layered : registry.Layered
  below : ∀ address, ∀ dependent ∈ registry.dependentsOf address, dependent < registry.nextAddress

theorem traced_create (firstId : ActorId) : (create firstId).Traced where
  layered :=
    { grounded := ⟨fun _ _ indexEq => (by cases indexEq), fun _ alive => (by cases alive)⟩
      allocated := fun _ alive => by cases alive
      later := fun _ _ mem => by cases mem }
  below _ _ mem := by cases mem

theorem undangling_create (firstId : ActorId) : (create firstId).Undangling :=
  fun _ _ mem => by cases mem

/-- There are enough nested calls for a load. -/
theorem canBegin_lt_nesting (registry : PluginRegistry) :
    tally canBegin registry.plugins registry.stateOf < registry.nesting := by
  have bound : ∀ state, canBegin state ≤ 1 := by
    intro state
    cases state <;> decide
  have tally_le := tally_le_length bound registry.plugins registry.stateOf
  have product : 2 * registry.plugins.length + 1 ≤ registry.nesting :=
    Nat.le_mul_of_pos_right _ (Nat.succ_pos _)
  omega

/-- There are enough nested calls for an unload. -/
theorem unloadRank_lt_nesting (registry : PluginRegistry) (address : Address) :
    registry.unloadRank address < registry.nesting := by
  have bound : ∀ state, unloadWeight state ≤ 2 := by
    intro state
    cases state <;> decide
  have tally_le := tally_le_length bound registry.plugins
    (Function.update registry.stateOf address (some .unloading))
  have product := Nat.mul_le_mul_right (registry.nextAddress + 1) tally_le
  have rest : registry.nextAddress - address < registry.nextAddress + 1 :=
    Nat.lt_succ_of_le (Nat.sub_le _ _)
  rw [unloadRank, nesting, Nat.succ_mul]
  exact Nat.add_lt_add_of_le_of_lt product rest

theorem nesting_pos (registry : PluginRegistry) : 0 < registry.nesting :=
  Nat.mul_pos (Nat.succ_pos _) (Nat.succ_pos _)

/-! ## Steps -/

section Steps

variable {registry next : PluginRegistry} {name : String} {address : Address}
  {plugin : PluginData}

theorem findNamed_spec {addresses : List Address}
    (findEq : registry.findNamed name addresses = some (address, plugin)) :
    registry.data address = some plugin ∧ plugin.info.internalName = name := by
  induction addresses with
  | nil => cases findEq
  | cons first rest ih =>
      rw [findNamed] at findEq
      cases currentEq : registry.data first with
      | none => simp [currentEq] at findEq
      | some current =>
          by_cases different : current.info.internalName ≠ name
          · simp only [currentEq, if_pos different] at findEq
            exact ih findEq
          · simp only [currentEq, if_neg different, Option.some.injEq, Prod.mk.injEq] at findEq
            rcases findEq with ⟨rfl, rfl⟩
            exact ⟨currentEq, not_not.mp different⟩

/-- A plugin that lists others is there. -/
theorem Traced.lt_of_mem (traced : registry.Traced) {dependent : Address}
    (mem : dependent ∈ registry.dependentsOf address) : address < registry.nextAddress := by
  apply traced.layered.allocated
  cases dataEq : registry.data address with
  | some plugin => rfl
  | none =>
      rw [dependentsOf, dataEq] at mem
      cases mem

theorem Moved.traced (moved : Moved registry next) (traced : registry.Traced) : next.Traced := by
  have layered := traced.layered
  refine ⟨⟨moved.same.grounded layered.grounded, moved.same.allocated layered.allocated, ?_⟩, ?_⟩
  · intro address dependent mem plugin child dataEq indexEq
    rcases moved.same.info_eq dataEq with ⟨current, currentEq, info_eq⟩
    rw [moved.same.pluginsByName, ← info_eq] at indexEq
    rcases moved.dependents address dependent mem with before | ⟨name, nameEq⟩
    · exact layered.later address dependent before current child currentEq indexEq
    · rcases layered.grounded.indexed name dependent nameEq with ⟨found, foundEq, name_eq⟩
      rw [currentEq] at foundEq
      cases foundEq
      rw [name_eq, nameEq] at indexEq
      exact Or.inl (Option.some.inj indexEq).symm
  · intro address dependent mem
    rw [moved.same.nextAddress]
    rcases moved.dependents address dependent mem with before | ⟨name, nameEq⟩
    · exact traced.below address dependent before
    · rcases layered.grounded.indexed name dependent nameEq with ⟨found, foundEq, _⟩
      exact layered.allocated dependent (by rw [foundEq]; rfl)

theorem Moved.undangling (moved : Moved registry next) (traced : registry.Traced)
    (undangling : registry.Undangling) : next.Undangling := by
  intro address dependent mem
  rw [moved.same.isSome_eq]
  rcases moved.dependents address dependent mem with before | ⟨name, nameEq⟩
  · exact undangling address dependent before
  · rcases traced.layered.grounded.indexed name dependent nameEq with ⟨found, foundEq, _⟩
    rw [foundEq]
    rfl

theorem Released.traced (released : Released registry next) (traced : registry.Traced) :
    next.Traced where
  layered := released.layered traced.layered
  below address dependent mem := by
    rw [released.same.nextAddress]
    exact traced.below address dependent (released.dependents address dependent mem)

/-- A registry in which a new plugin lies at the next address, and perhaps is found by its
name. -/
theorem Traced.announce (traced : registry.Traced)
    (data_eq : next.data = Function.update registry.data registry.nextAddress (some plugin))
    (none_yet : plugin.dependents = [])
    (plugins_eq : next.plugins = registry.nextAddress :: registry.plugins)
    (address_eq : next.nextAddress = registry.nextAddress + 1)
    (index_eq : next.pluginsByName =
      emplace registry.pluginsByName plugin.info.internalName registry.nextAddress) :
    next.Traced ∧ (registry.Undangling → next.Undangling) := by
  have layered := traced.layered
  have old : ∀ other found, registry.data other = some found → next.data other = some found := by
    intro other found foundEq
    have below := layered.allocated other (by rw [foundEq]; rfl)
    rw [data_eq, Function.update_of_ne (Nat.ne_of_lt below), foundEq]
  have lists : ∀ other, ∀ dependent ∈ next.dependentsOf other,
      dependent ∈ registry.dependentsOf other := by
    intro other dependent mem
    rw [dependentsOf, data_eq] at mem
    by_cases new : other = registry.nextAddress
    · rw [new, Function.update_self, Option.map_some, Option.getD_some, none_yet] at mem
      cases mem
    · rwa [Function.update_of_ne new] at mem
  have found_by : ∀ name other, next.pluginsByName name = some other →
      registry.pluginsByName name = some other ∨
        name = plugin.info.internalName ∧ other = registry.nextAddress := by
    intro name other nameEq
    rw [index_eq, emplace] at nameEq
    split at nameEq
    · exact Or.inl nameEq
    · by_cases same : name = plugin.info.internalName
      · rw [same, Function.update_self] at nameEq
        exact Or.inr ⟨same, (Option.some.inj nameEq).symm⟩
      · rw [Function.update_of_ne same] at nameEq
        exact Or.inl nameEq
  refine ⟨⟨⟨⟨?_, ?_⟩, ?_, ?_⟩, ?_⟩, ?_⟩
  · intro name other nameEq
    rcases found_by name other nameEq with before | ⟨rfl, rfl⟩
    · rcases layered.grounded.indexed name other before with ⟨found, foundEq, name_eq⟩
      exact ⟨found, old other found foundEq, name_eq⟩
    · exact ⟨plugin, by rw [data_eq, Function.update_self], rfl⟩
  · intro other alive
    rw [plugins_eq, List.mem_cons]
    by_cases new : other = registry.nextAddress
    · exact Or.inl new
    · rw [data_eq, Function.update_of_ne new] at alive
      exact Or.inr (layered.grounded.listed other alive)
  · intro other alive
    rw [address_eq]
    by_cases new : other = registry.nextAddress
    · rw [new]
      exact Nat.lt_succ_self _
    · rw [data_eq, Function.update_of_ne new] at alive
      exact Nat.lt_succ_of_lt (layered.allocated other alive)
  · intro other dependent mem found child foundEq nameEq
    have before := lists other dependent mem
    have dependentBelow := traced.below other dependent before
    rw [data_eq, Function.update_of_ne (Nat.ne_of_lt dependentBelow)] at foundEq
    rcases found_by _ child nameEq with oldName | ⟨_, rfl⟩
    · exact layered.later other dependent before found child foundEq oldName
    · exact Or.inr (traced.lt_of_mem before)
  · intro other dependent mem
    rw [address_eq]
    exact Nat.lt_succ_of_lt (traced.below other dependent (lists other dependent mem))
  · intro undangling other dependent mem
    rcases Option.isSome_iff_exists.mp (undangling other dependent (lists other dependent mem)) with
      ⟨found, foundEq⟩
    rw [old dependent found foundEq]
    rfl

/-- What announcing a plugin changes. -/
theorem Traced.preloadPlugin (traced : registry.Traced) {path : String}
    {library : Except String PluginInfo} {text : Option String}
    (preloadEq : registry.preloadPlugin path library = some (next, text)) :
    next.Traced ∧ (registry.Undangling → next.Undangling) := by
  cases library with
  | error message =>
      cases preloadEq
      exact ⟨traced, id⟩
  | ok info =>
      cases preloadEq
      exact @Traced.announce registry _
        ⟨.available, info, registry.nextActorId, path, [], []⟩ traced rfl rfl rfl rfl rfl

/-- What taking out a plugin changes. -/
theorem Traced.unscanPlugin (traced : registry.Traced) {text : Option String}
    (unscanEq : registry.unscanPlugin name = some (next, text)) :
    next.Traced ∧ (registry.Undangling → registry.KeepsDependents (.unscan name) →
      next.Undangling) := by
  rw [PluginRegistry.unscanPlugin] at unscanEq
  cases findEq : registry.findNamed name registry.plugins with
  | none => simp [findEq] at unscanEq
  | some found =>
      rcases found with ⟨address, plugin⟩
      rcases findNamed_spec findEq with ⟨dataEq, name_eq⟩
      by_cases notAvailable : plugin.state ≠ .available
      · simp only [findEq, if_pos notAvailable, Option.some.injEq, Prod.mk.injEq] at unscanEq
        rcases unscanEq with ⟨rfl, _⟩
        exact ⟨traced, fun undangling _ => undangling⟩
      · simp only [findEq, if_neg notAvailable, Option.some.injEq, Prod.mk.injEq] at unscanEq
        rcases unscanEq with ⟨rfl, _⟩
        have layered := traced.layered
        have data_eq : ∀ other found, (registry.remove address plugin).data other = some found →
            other ≠ address ∧ registry.data other = some found := by
          intro other found foundEq
          rw [data_remove] at foundEq
          split at foundEq
          · cases foundEq
          · rename_i other_ne
            exact ⟨other_ne, foundEq⟩
        have lists : ∀ other, ∀ dependent ∈ (registry.remove address plugin).dependentsOf other,
            dependent ∈ registry.dependentsOf other := by
          intro other dependent mem
          rw [dependentsOf, data_remove] at mem
          split at mem
          · cases mem
          · exact mem
        have index_eq : ∀ key other, (registry.remove address plugin).pluginsByName key =
            some other → key ≠ name ∧ registry.pluginsByName key = some other := by
          intro key other keyEq
          change Function.update registry.pluginsByName plugin.info.internalName none key =
            some other at keyEq
          rw [name_eq] at keyEq
          by_cases same : key = name
          · rw [same, Function.update_self] at keyEq
            cases keyEq
          · rw [Function.update_of_ne same] at keyEq
            exact ⟨same, keyEq⟩
        refine ⟨⟨⟨⟨?_, ?_⟩, ?_, ?_⟩, ?_⟩, ?_⟩
        · intro key other keyEq
          rcases index_eq key other keyEq with ⟨key_ne, before⟩
          rcases layered.grounded.indexed key other before with ⟨found, foundEq, found_name⟩
          refine ⟨found, ?_, found_name⟩
          rw [data_remove, if_neg, foundEq]
          rintro rfl
          rw [dataEq] at foundEq
          cases foundEq
          exact key_ne (found_name.symm.trans name_eq)
        · intro other alive
          rcases Option.isSome_iff_exists.mp alive with ⟨found, foundEq⟩
          rcases data_eq other found foundEq with ⟨other_ne, before⟩
          exact (List.mem_erase_of_ne other_ne).mpr
            (layered.grounded.listed other (by rw [before]; rfl))
        · intro other alive
          rcases Option.isSome_iff_exists.mp alive with ⟨found, foundEq⟩
          exact layered.allocated other (by rw [(data_eq other found foundEq).2]; rfl)
        · intro other dependent mem found child foundEq childEq
          exact layered.later other dependent (lists other dependent mem) found child
            (data_eq dependent found foundEq).2 (index_eq _ child childEq).2
        · intro other dependent mem
          exact traced.below other dependent (lists other dependent mem)
        · intro undangling keeps other dependent mem
          have before := lists other dependent mem
          rw [data_remove, if_neg]
          · exact undangling other dependent before
          · rintro rfl
            exact keeps _ plugin findEq (not_not.mp notAvailable) other before

/-- Every call keeps what holds of all states. -/
theorem Traced.call {made : Call} {text : Option String} (traced : registry.Traced)
    (callEq : registry.perform made = some (next, text)) :
    next.Traced ∧ (registry.Undangling → registry.KeepsDependents made → next.Undangling) := by
  cases made with
  | preload path library =>
      rcases traced.preloadPlugin callEq with ⟨nextTraced, nextUndangling⟩
      exact ⟨nextTraced, fun undangling _ => nextUndangling undangling⟩
  | unscan name => exact traced.unscanPlugin callEq
  | load name =>
      have moved := (callFollows callEq).moved
      exact ⟨moved.traced traced, fun undangling _ => moved.undangling traced undangling⟩
  | unload name =>
      have released := ((callsEnd registry.nesting registry [] name traced.layered List.nodup_nil
        trivial (fun _ _ _ pathEq => by cases pathEq) registry.nesting_pos
        (fun child _ _ => registry.unloadRank_lt_nesting child)).1 _ callEq).1
      exact ⟨released.traced traced, fun undangling _ => released.undangling undangling⟩

/-- Loading ends. -/
theorem Traced.exists_load (traced : registry.Traced) (name : String) :
    ∃ outcome, registry.perform (.load name) = some outcome :=
  exists_loadPlugin traced.layered.grounded registry.canBegin_lt_nesting

/-- Unloading ends if all dependents are still there. -/
theorem Traced.exists_unload (traced : registry.Traced) (undangling : registry.Undangling)
    (name : String) : ∃ outcome, registry.perform (.unload name) = some outcome :=
  (callsEnd registry.nesting registry [] name traced.layered List.nodup_nil trivial
    (fun _ _ _ pathEq => by cases pathEq) registry.nesting_pos
    (fun child _ _ => registry.unloadRank_lt_nesting child)).2 undangling

end Steps

/-- Every state that the registry can be in is traced. -/
theorem traced_of_run {firstId : ActorId} {calls : List Call} {registry : PluginRegistry}
    (runEq : run step (create firstId) calls = some registry) : registry.Traced := by
  refine run_invariant ?_ (traced_create firstId) (guarded_true step _ calls) runEq
  intro before made after traced _ stepEq
  rcases Option.map_eq_some_iff.mp stepEq with ⟨⟨next, text⟩, callEq, rfl⟩
  exact (traced.call callEq).1

/-- Whatever the plugins say about their dependencies, loading and unloading any of them ends,
with an exception or without, as long as no plugin was taken out that another one listed as its
dependent. -/
theorem calls_end (firstId : ActorId) {calls : List Call}
    (keeps : Guarded step KeepsDependents (create firstId) calls) :
    ∀ registry, run step (create firstId) calls = some registry → ∀ name,
      (∃ outcome, registry.perform (.load name) = some outcome) ∧
        ∃ outcome, registry.perform (.unload name) = some outcome := by
  intro registry runEq name
  have preserved : ∀ before made after, before.Traced ∧ before.Undangling →
      before.KeepsDependents made → step before made = some after →
        after.Traced ∧ after.Undangling := by
    rintro before made after ⟨traced, undangling⟩ keepsHere stepEq
    rcases Option.map_eq_some_iff.mp stepEq with ⟨⟨next, text⟩, callEq, rfl⟩
    rcases traced.call callEq with ⟨nextTraced, nextUndangling⟩
    exact ⟨nextTraced, nextUndangling undangling keepsHere⟩
  have sound := run_invariant preserved ⟨traced_create firstId, undangling_create firstId⟩ keeps
    runEq
  exact ⟨sound.1.exists_load name, sound.1.exists_unload sound.2 name⟩

/-- Two plugins that need each other. -/
def circularCalls : List Call :=
  [.preload "/left" (.ok
      { internalName := "left", version := ⟨1, 0, 0, ""⟩, dependencies := [⟨"right", {}, true⟩] }),
    .preload "/right" (.ok
      { internalName := "right", version := ⟨1, 0, 0, ""⟩, dependencies := [⟨"left", {}, true⟩] }),
    .load "left"]

theorem calls_end_circular :
    ∃ registry, run step (create 1) circularCalls = some registry ∧
      ∀ name, (∃ outcome, registry.perform (.load name) = some outcome) ∧
        ∃ outcome, registry.perform (.unload name) = some outcome := by
  have possible : (run step (create 1) circularCalls).isSome = true := by
    decide +kernel
  rcases Option.isSome_iff_exists.mp possible with ⟨registry, runEq⟩
  refine ⟨registry, runEq, fun name => calls_end 1 ?_ registry runEq name⟩
  rw [circularCalls, guarded_cons_iff]
  refine ⟨trivial, fun first _ => ?_⟩
  rw [guarded_cons_iff]
  refine ⟨trivial, fun second _ => ?_⟩
  rw [guarded_cons_iff]
  exact ⟨trivial, fun third _ => guarded_nil _ _ _⟩

/-- A plugin is loaded for another one, which is then unloaded and taken out.  Unloading the
plugin reads what was there. -/
theorem unload_reads_removed :
    ∃ registry, run step (create 1)
        (loadingCalls ++ [.unload "extra", .unscan "extra"]) = some registry ∧
      ∀ depth, unloadPlugin depth registry "base" = none := by
  have lists : (run step (create 1)
      (loadingCalls ++ [.unload "extra", .unscan "extra"])).map
      (fun final => (final.dependentsOf 0, final.stateOf 0)) = some ([1], some .loaded) := by
    decide +kernel
  have finds : (run step (create 1)
      (loadingCalls ++ [.unload "extra", .unscan "extra"])).map
      (fun final => (final.known "base", final.stateOf 1)) =
        some (some (0, basePlugin), none) := by
    decide +kernel
  rcases Option.map_eq_some_iff.mp lists with ⟨registry, runEq, listed_eq⟩
  rw [runEq, Option.map_some, Option.some.injEq] at finds
  rcases Prod.mk.inj listed_eq with ⟨dependents_eq, state_eq⟩
  rcases Prod.mk.inj finds with ⟨knownEq, removed⟩
  rcases known_eq_some_iff.mp knownEq with ⟨base, indexEq, dataEq, info_eq⟩
  refine ⟨registry, runEq, ?_⟩
  intro depth
  cases depth with
  | zero => rfl
  | succ depth =>
      rw [stateOf, dataEq, Option.map_some, Option.some.injEq] at state_eq
      have notAvailable : base.state ≠ .available := by
        rw [state_eq]
        decide
      have length_eq : base.dependents.length = 1 := by
        rw [dependentsOf, dataEq] at dependents_eq
        exact congrArg List.length dependents_eq
      have visitedEq : (registry.beginUnloading 0 base).visited 0 0 = none := by
        have removed_eq : (registry.beginUnloading 0 base).stateOf 1 = none := by
          rw [beginUnloading, stateOf_write, if_neg Nat.one_ne_zero, removed]
        rw [visited, beginUnloading, dependentsOf_write_state dataEq, dependents_eq]
        exact Option.map_eq_none_iff.mp removed_eq
      rw [unloadPlugin_begins indexEq dataEq notAvailable (by rw [info_eq]; rfl), length_eq,
        unloadDependents_unreadable visitedEq]

end VoxelEngine.Plugin.PluginRegistry
