import VoxelEngine.Plugin.Loading

/-!
# What loading a plugin comes to

How far a load gets depends on what the plugins say about themselves and on their states, and
on nothing else.  A plugin whose dependencies cannot be loaded stays half way, so that it is
not tried again.  This file states these rules apart from the registry, and shows that the
registry follows them.
-/

namespace VoxelEngine.Plugin.PluginRegistry

/-- The states of the plugins that there are. -/
abbrev States := Address → Option PluginState

/-- How a dependency stands when it is looked at. -/
inductive Standing where
  | refused
  | loaded (plugin : Address)
  | begins (plugin : Address) (info : PluginInfo)

/-- A dependency is refused if its plugin is not known, has the wrong version, or is neither
loaded nor can begin to be. -/
def standing (known : String → Option (Address × PluginInfo)) (states : States)
    (dependency : Dependency) : Standing :=
  match known dependency.internalName with
  | none => .refused
  | some (plugin, info) =>
      if dependency.requiredVersion.contains info.version = false then .refused
      else match states plugin with
        | some .loaded => .loaded plugin
        | some .available => if info.allowDynamicLoad then .begins plugin info else .refused
        | _ => .refused

/-- The dependencies of a plugin are gone through from left to right, and lead from the one
states to the other.  This succeeds unless a required dependency fails. -/
inductive Walk (known : String → Option (Address × PluginInfo)) :
    States → List Dependency → States → Bool → Prop
  | done {states} : Walk known states [] states true
  | stop {states dependency rest} :
      dependency.required = true →
      standing known states dependency = .refused →
      Walk known states (dependency :: rest) states false
  | skip {states dependency rest final success} :
      dependency.required = false →
      standing known states dependency = .refused →
      Walk known states rest final success →
      Walk known states (dependency :: rest) final success
  | use {states dependency rest plugin final success} :
      standing known states dependency = .loaded plugin →
      Walk known states rest final success →
      Walk known states (dependency :: rest) final success
  | load {states dependency rest plugin info middle final success} :
      standing known states dependency = .begins plugin info →
      Walk known (Function.update states plugin (some .loading)) info.dependencies middle true →
      Walk known (Function.update middle plugin (some .loaded)) rest final success →
      Walk known states (dependency :: rest) final success
  | abort {states dependency rest plugin info final} :
      dependency.required = true →
      standing known states dependency = .begins plugin info →
      Walk known (Function.update states plugin (some .loading)) info.dependencies final false →
      Walk known states (dependency :: rest) final false
  | pass {states dependency rest plugin info middle final success} :
      dependency.required = false →
      standing known states dependency = .begins plugin info →
      Walk known (Function.update states plugin (some .loading)) info.dependencies middle false →
      Walk known middle rest final success →
      Walk known states (dependency :: rest) final success

section Rules

variable {known : String → Option (Address × PluginInfo)} {states final other : States}
  {dependency : Dependency} {dependencies : List Dependency} {plugin : Address}
  {info : PluginInfo} {success otherSuccess : Bool}

theorem standing_eq_loaded_iff : standing known states dependency = .loaded plugin ↔
    ∃ info, known dependency.internalName = some (plugin, info) ∧
      dependency.requiredVersion.contains info.version = true ∧
      states plugin = some .loaded := by
  constructor
  · intro standingEq
    unfold standing at standingEq
    split at standingEq
    · cases standingEq
    · rename_i address info knownEq
      split at standingEq
      · cases standingEq
      · rename_i version
        split at standingEq
        · rename_i stateEq
          cases standingEq
          exact ⟨info, knownEq, Bool.eq_true_of_not_eq_false version, stateEq⟩
        · split at standingEq <;> cases standingEq
        · cases standingEq
  · rintro ⟨info, knownEq, version, stateEq⟩
    simp [standing, knownEq, version, stateEq]

theorem standing_eq_begins_iff : standing known states dependency = .begins plugin info ↔
    known dependency.internalName = some (plugin, info) ∧
      dependency.requiredVersion.contains info.version = true ∧
      states plugin = some .available ∧ info.allowDynamicLoad = true := by
  constructor
  · intro standingEq
    unfold standing at standingEq
    split at standingEq
    · cases standingEq
    · rename_i address found knownEq
      split at standingEq
      · cases standingEq
      · rename_i version
        split at standingEq
        · cases standingEq
        · rename_i stateEq
          split at standingEq
          · rename_i allowed
            cases standingEq
            exact ⟨knownEq, Bool.eq_true_of_not_eq_false version, stateEq, allowed⟩
          · cases standingEq
        · cases standingEq
  · rintro ⟨knownEq, version, stateEq, allowed⟩
    simp [standing, knownEq, version, stateEq, allowed]

/-- Where the rules lead is determined. -/
theorem Walk.unique (walk : Walk known states dependencies final success)
    (second : Walk known states dependencies other otherSuccess) :
    final = other ∧ success = otherSuccess := by
  induction walk generalizing other otherSuccess with
  | done =>
      cases second
      exact ⟨rfl, rfl⟩
  | stop required refused => cases second <;> simp_all
  | skip optional refused _ ih =>
      cases second with
      | skip _ _ rest => exact ih rest
      | _ => simp_all
  | use loaded _ ih =>
      cases second with
      | use _ rest => exact ih rest
      | _ => simp_all
  | load begins _ _ nestedIh restIh =>
      cases second with
      | load otherBegins nested rest =>
          cases begins.symm.trans otherBegins
          rcases nestedIh nested with ⟨rfl, _⟩
          exact restIh rest
      | abort _ otherBegins nested =>
          cases begins.symm.trans otherBegins
          cases (nestedIh nested).2
      | pass _ otherBegins nested _ =>
          cases begins.symm.trans otherBegins
          cases (nestedIh nested).2
      | _ => simp_all
  | abort required begins _ nestedIh =>
      cases second with
      | load otherBegins nested _ =>
          cases begins.symm.trans otherBegins
          cases (nestedIh nested).2
      | abort _ otherBegins nested =>
          cases begins.symm.trans otherBegins
          exact nestedIh nested
      | _ => simp_all
  | pass optional begins _ _ nestedIh restIh =>
      cases second with
      | load otherBegins nested _ =>
          cases begins.symm.trans otherBegins
          cases (nestedIh nested).2
      | pass _ otherBegins nested rest =>
          cases begins.symm.trans otherBegins
          rcases nestedIh nested with ⟨rfl, _⟩
          exact restIh rest
      | _ => simp_all

/-- Only plugins that are available get another state. -/
theorem Walk.state_eq (walk : Walk known states dependencies final success)
    (notAvailable : states plugin ≠ some .available) : final plugin = states plugin := by
  induction walk with
  | done => rfl
  | stop => rfl
  | skip _ _ _ ih => exact ih notAvailable
  | use _ _ ih => exact ih notAvailable
  | @load states dependency rest began info middle final success begins _ _ nestedIh restIh =>
      have other : plugin ≠ began := by
        rintro rfl
        exact notAvailable (standing_eq_begins_iff.mp begins).2.2.1
      have nested := nestedIh (by rwa [Function.update_of_ne other])
      rw [Function.update_of_ne other] at nested
      rw [restIh (by rwa [Function.update_of_ne other, nested]), Function.update_of_ne other, nested]
  | @abort states dependency rest began info final _ begins _ nestedIh =>
      have other : plugin ≠ began := by
        rintro rfl
        exact notAvailable (standing_eq_begins_iff.mp begins).2.2.1
      rw [nestedIh (by rwa [Function.update_of_ne other]), Function.update_of_ne other]
  | @pass states dependency rest began info middle final success _ begins _ _ nestedIh restIh =>
      have other : plugin ≠ began := by
        rintro rfl
        exact notAvailable (standing_eq_begins_iff.mp begins).2.2.1
      have nested := nestedIh (by rwa [Function.update_of_ne other])
      rw [Function.update_of_ne other] at nested
      rw [restIh (by rwa [nested]), nested]

end Rules

section Calls

variable {registry next : PluginRegistry} {name : String} {address parent : Address}
  {plugin : PluginData} {dependency : Dependency} {info : PluginInfo}
  {load : PluginRegistry → String → Outcome} {text : Option String} {depth : Nat}

/-- A load that has begun ends as the loop over the dependencies does, and without an exception
the plugin is loaded then. -/
theorem loadPlugin_begun (indexEq : registry.pluginsByName name = some address)
    (dataEq : registry.data address = some plugin) (available : plugin.state = .available)
    (allowed : plugin.info.allowDynamicLoad = true)
    (loadEq : loadPlugin (depth + 1) registry name = some (next, text)) :
    ∃ reached, loadDependencies (loadPlugin depth) address plugin.info.dependencies
        (registry.beginLoading address plugin) = some (reached, text) ∧
      ((∃ content, text = some content ∧ next = reached) ∨
        text = none ∧ ∃ current, reached.data address = some current ∧
          next = reached.finishLoading address current) := by
  rw [loadPlugin_begins indexEq dataEq available allowed] at loadEq
  split at loadEq
  · rename_i reached nestedEq
    rcases Option.map_eq_some_iff.mp loadEq with ⟨current, currentEq, pair_eq⟩
    cases pair_eq
    exact ⟨reached, nestedEq, Or.inr ⟨rfl, current, currentEq, rfl⟩⟩
  · rename_i threw
    cases text with
    | none => exact absurd loadEq (threw next)
    | some content => exact ⟨next, loadEq, Or.inl ⟨content, rfl, rfl⟩⟩

/-- A call for a plugin that does not begin to be loaded ends with an exception. -/
theorem loadPlugin_not_begins
    (notBegins : ∀ address plugin, registry.pluginsByName name = some address →
      registry.data address = some plugin →
        ¬(plugin.state = .available ∧ plugin.info.allowDynamicLoad = true))
    (loadEq : loadPlugin depth registry name = some (next, text)) :
    next = registry ∧ text.isSome = true := by
  cases depth with
  | zero => cases loadEq
  | succ depth =>
      cases indexEq : registry.pluginsByName name with
      | none =>
          rcases loadPlugin_unknown depth indexEq with ⟨message, refusedEq⟩
          rw [refusedEq] at loadEq
          cases loadEq
          exact ⟨rfl, rfl⟩
      | some address =>
          cases dataEq : registry.data address with
          | none =>
              rw [loadPlugin, plugin_exists indexEq, find, indexEq, Option.bind_some, dataEq] at loadEq
              cases loadEq
          | some plugin =>
              rcases loadPlugin_refused depth indexEq dataEq
                (notBegins address plugin indexEq dataEq) with ⟨message, refusedEq⟩
              rw [refusedEq] at loadEq
              cases loadEq
              exact ⟨rfl, rfl⟩

/-- A dependency whose plugin begins to be loaded. -/
theorem loadDependency_begins
    (begins : standing registry.known registry.stateOf dependency = .begins address info) :
    loadDependency load parent dependency registry =
      match load registry dependency.internalName with
      | none => none
      | some (reached, some text) =>
          let kind := if dependency.required then "required" else "optional"
          some (reached, if dependency.required then
            some s!"Failed to load {kind} dependency {dependency.internalName}: {text}" else none)
      | some (reached, none) => (reached.record parent address).map fun next => (next, none) := by
  rcases standing_eq_begins_iff.mp begins with ⟨knownEq, version, stateEq, _⟩
  rcases known_eq_some_iff.mp knownEq with ⟨plugin, indexEq, dataEq, rfl⟩
  rw [stateOf_eq dataEq, Option.some.injEq] at stateEq
  have allowed := (checkErrors_versionAllowed registry dependency.internalName .load plugin
    dependency).mpr version
  simp only [loadDependency, plugin_exists indexEq, find_eq indexEq dataEq]
  rw [allowed, stateEq]
  rfl

/-- A dependency that is loaded already. -/
theorem loadDependency_loaded
    (loaded : standing registry.known registry.stateOf dependency = .loaded address) :
    loadDependency load parent dependency registry =
      (registry.record parent address).map fun next => (next, none) := by
  rcases standing_eq_loaded_iff.mp loaded with ⟨info, knownEq, version, stateEq⟩
  rcases known_eq_some_iff.mp knownEq with ⟨plugin, indexEq, dataEq, rfl⟩
  rw [stateOf_eq dataEq, Option.some.injEq] at stateEq
  exact loadDependency_eq indexEq dataEq version (if_neg (not_not.mpr stateEq))

/-- The right version of a plugin is refused because it is not loaded and cannot begin to be. -/
theorem not_begins_of_refused
    (refused : standing registry.known registry.stateOf dependency = .refused)
    (indexEq : registry.pluginsByName dependency.internalName = some address)
    (dataEq : registry.data address = some plugin)
    (version : dependency.requiredVersion.contains plugin.info.version = true) :
    plugin.state ≠ .loaded ∧
      ¬(plugin.state = .available ∧ plugin.info.allowDynamicLoad = true) := by
  have knownEq := known_eq_some_iff.mpr ⟨plugin, indexEq, dataEq, rfl⟩
  constructor
  · intro state
    have loaded := standing_eq_loaded_iff.mpr
      ⟨plugin.info, knownEq, version, (stateOf_eq dataEq).trans (congrArg some state)⟩
    cases refused.symm.trans loaded
  · rintro ⟨state, allowed⟩
    have begins := standing_eq_begins_iff.mpr
      ⟨knownEq, version, (stateOf_eq dataEq).trans (congrArg some state), allowed⟩
    cases refused.symm.trans begins

/-- A dependency that is refused is passed over, or ends the call. -/
theorem loadDependency_not_begins
    (refused : standing registry.known registry.stateOf dependency = .refused)
    (loadEq : loadDependency (loadPlugin depth) parent dependency registry = some (next, text)) :
    next = registry ∧ text.isSome = dependency.required := by
  have gaveUp : ∀ message : String, some (registry, if dependency.required then some message else
      none) = some (next, text) → next = registry ∧ text.isSome = dependency.required := by
    intro message eq
    cases eq
    refine ⟨rfl, ?_⟩
    cases dependency.required <;> rfl
  unfold loadDependency at loadEq
  cases existsEq : registry.checkErrors [.pluginExists] dependency.internalName .load none
      (some dependency) with
  | some message =>
      simp only [existsEq] at loadEq
      exact gaveUp message loadEq
  | none =>
      rcases Option.isSome_iff_exists.mp
        ((checkErrors_pluginExists registry _ .load _).mp existsEq) with ⟨address, indexEq⟩
      cases dataEq : registry.data address with
      | none => simp [existsEq, find, indexEq, dataEq] at loadEq
      | some plugin =>
          cases versionEq : registry.checkErrors [.versionAllowed] dependency.internalName .load
              (some plugin) (some dependency) with
          | some message =>
              simp only [existsEq, find_eq indexEq dataEq, versionEq] at loadEq
              exact gaveUp message loadEq
          | none =>
              rcases not_begins_of_refused refused indexEq dataEq
                ((checkErrors_versionAllowed registry _ .load plugin dependency).mp versionEq) with
                ⟨notLoaded, notBegins⟩
              simp only [existsEq, find_eq indexEq dataEq, versionEq, ne_eq, notLoaded,
                not_false_eq_true, if_true] at loadEq
              cases callEq : loadPlugin depth registry dependency.internalName with
              | none => simp [callEq] at loadEq
              | some outcome =>
                  rcases outcome with ⟨reached, message⟩
                  have called := loadPlugin_not_begins (by
                    intro other found otherIndex otherData
                    cases indexEq.symm.trans otherIndex
                    cases dataEq.symm.trans otherData
                    exact notBegins) callEq
                  rcases called with ⟨rfl, isSome⟩
                  rcases Option.isSome_iff_exists.mp isSome with ⟨content, rfl⟩
                  simp only [callEq] at loadEq
                  exact gaveUp _ loadEq

end Calls

/-! ## The registry follows the rules -/

/-- What a load leaves as it is: the plugins that are listed, and the dependents, but for plugins
that are known. -/
structure Moved (before after : PluginRegistry) : Prop where
  same : SameEntries before after
  dependents : ∀ any, ∀ other ∈ after.dependentsOf any,
    other ∈ before.dependentsOf any ∨ ∃ name, before.pluginsByName name = some other

theorem Moved.refl (registry : PluginRegistry) : Moved registry registry :=
  ⟨SameEntries.refl registry, fun _ _ mem => Or.inl mem⟩

theorem Moved.trans {first second third : PluginRegistry} (one : Moved first second)
    (two : Moved second third) : Moved first third where
  same := one.same.trans two.same
  dependents any other mem := by
    rcases two.dependents any other mem with between | ⟨name, indexEq⟩
    · exact one.dependents any other between
    · exact Or.inr ⟨name, by rw [← one.same.pluginsByName, indexEq]⟩

theorem stateOf_write_eq (registry : PluginRegistry) (address : Address) (plugin : PluginData) :
    (registry.write address plugin).stateOf =
      Function.update registry.stateOf address (some plugin.state) := by
  funext other
  rw [stateOf_write, Function.update_apply]

theorem moved_write_state {registry : PluginRegistry} {address : Address} {plugin : PluginData}
    (dataEq : registry.data address = some plugin) (state : PluginState) :
    Moved registry (registry.write address { plugin with state := state }) where
  same := sameEntries_write _ dataEq rfl rfl rfl
  dependents any other mem := by
    rw [dependentsOf_write_state dataEq] at mem
    exact Or.inl mem

theorem moved_finishLoading {registry : PluginRegistry} {address : Address} {plugin : PluginData}
    (dataEq : registry.data address = some plugin) :
    Moved registry (registry.finishLoading address plugin) where
  same := sameEntries_finishLoading dataEq
  dependents any other mem := by
    have written : (registry.finishLoading address plugin).dependentsOf any =
        registry.dependentsOf any := dependentsOf_write_state dataEq .loaded any
    rw [written] at mem
    exact Or.inl mem

/-- What a call of `load_plugin` comes to. -/
structure CallFollows (registry : PluginRegistry) (name : String) (next : PluginRegistry)
    (text : Option String) : Prop where
  moved : Moved registry next
  refused : (∀ address plugin, registry.pluginsByName name = some address →
      registry.data address = some plugin →
        ¬(plugin.state = .available ∧ plugin.info.allowDynamicLoad = true)) →
    next = registry ∧ text.isSome = true
  begun : ∀ address plugin, registry.pluginsByName name = some address →
    registry.data address = some plugin → plugin.state = .available →
      plugin.info.allowDynamicLoad = true →
        ∃ middle, Walk registry.known (Function.update registry.stateOf address (some .loading))
            plugin.info.dependencies middle text.isNone ∧
          next.stateOf =
            if text.isNone then Function.update middle address (some .loaded) else middle

section Follows

variable {registry next : PluginRegistry} {name : String} {parent : Address}
  {dependencies : List Dependency} {text : Option String} {load : PluginRegistry → String → Outcome}
  {depth : Nat}

/-- Recording a dependency on another plugin. -/
theorem moved_record {address : Address}
    (indexed : ∃ name, registry.pluginsByName name = some parent)
    (other_ne : address ≠ parent) (recordEq : registry.record parent address = some next) :
    Moved registry next ∧ next.stateOf = registry.stateOf := by
  cases dataEq : registry.data parent with
  | none => simp [record, modify, dataEq] at recordEq
  | some plugin =>
      cases otherEq : registry.data address with
      | none => simp [record, modify, dataEq, otherEq, other_ne] at recordEq
      | some dependency =>
          rcases record_spec dataEq otherEq other_ne with
            ⟨recorded, recordedEq, same, _, _, state_eq, _, dependents_eq⟩
          rw [recordEq] at recordedEq
          cases recordedEq
          refine ⟨⟨same, ?_⟩, funext state_eq⟩
          intro any other mem
          rw [dependents_eq, List.mem_append, mem_entry_if_iff] at mem
          rcases mem with before | ⟨_, rfl⟩
          · exact Or.inl before
          · exact Or.inr indexed

/-- The rest of a list of dependencies follows the rules, whatever the first of them led to. -/
def RestFollows (depth : Nat) (parent : Address) (rest : List Dependency)
    (registry next : PluginRegistry) (text : Option String) : Prop :=
  ∀ reached, Moved registry reached → reached.stateOf parent = some .loading →
    loadDependencies (loadPlugin depth) parent rest reached = some (next, text) →
      Walk registry.known reached.stateOf rest next.stateOf text.isNone ∧ Moved registry next

section Step

variable {dependency : Dependency} {rest : List Dependency} {address : Address}

theorem ne_of_loading {state : PluginState} (loading : registry.stateOf parent = some .loading)
    (stateEq : registry.stateOf address = some state) (other : state ≠ .loading) :
    address ≠ parent := by
  rintro rfl
  rw [stateEq, Option.some.injEq] at loading
  exact other loading

theorem walk_cons_refused (restFollows : RestFollows depth parent rest registry next text)
    (loading : registry.stateOf parent = some .loading)
    (standingEq : standing registry.known registry.stateOf dependency = .refused)
    (loadEq : loadDependencies (loadPlugin depth) parent (dependency :: rest) registry =
      some (next, text)) :
    Walk registry.known registry.stateOf (dependency :: rest) next.stateOf text.isNone ∧
      Moved registry next := by
  rw [loadDependencies] at loadEq
  cases oneEq : loadDependency (loadPlugin depth) parent dependency registry with
  | none => simp [oneEq] at loadEq
  | some outcome =>
      rcases outcome with ⟨reached, message⟩
      rcases loadDependency_not_begins standingEq oneEq with ⟨rfl, isSome⟩
      cases message with
      | none =>
          simp only [oneEq] at loadEq
          rcases restFollows reached (Moved.refl _) loading loadEq with ⟨walk, moved⟩
          exact ⟨Walk.skip isSome.symm standingEq walk, moved⟩
      | some content =>
          simp only [oneEq, Option.some.injEq, Prod.mk.injEq] at loadEq
          rcases loadEq with ⟨rfl, rfl⟩
          exact ⟨Walk.stop isSome.symm standingEq, Moved.refl _⟩

theorem walk_cons_loaded (restFollows : RestFollows depth parent rest registry next text)
    (indexed : ∃ name, registry.pluginsByName name = some parent)
    (loading : registry.stateOf parent = some .loading)
    (standingEq : standing registry.known registry.stateOf dependency = .loaded address)
    (loadEq : loadDependencies (loadPlugin depth) parent (dependency :: rest) registry =
      some (next, text)) :
    Walk registry.known registry.stateOf (dependency :: rest) next.stateOf text.isNone ∧
      Moved registry next := by
  rw [loadDependencies, loadDependency_loaded standingEq] at loadEq
  rcases standing_eq_loaded_iff.mp standingEq with ⟨_, _, _, stateEq⟩
  cases recordEq : registry.record parent address with
  | none => simp [recordEq] at loadEq
  | some reached =>
      simp only [recordEq, Option.map_some] at loadEq
      rcases moved_record indexed (ne_of_loading loading stateEq (by simp)) recordEq with
        ⟨moved, state_eq⟩
      rcases restFollows reached moved (by rw [state_eq, loading]) loadEq with ⟨walk, moved⟩
      rw [state_eq] at walk
      exact ⟨Walk.use standingEq walk, moved⟩

/-- A call that loads another plugin leaves the plugin that is loading as it is. -/
theorem loading_of_walk {middle : Address → Option PluginState} {done : Bool}
    (loading : registry.stateOf parent = some .loading) (other_ne : address ≠ parent)
    (nested : Walk registry.known (Function.update registry.stateOf address (some .loading))
      dependencies middle done) :
    middle parent = some .loading := by
  have began : Function.update registry.stateOf address (some .loading) parent =
      some .loading := by
    rw [Function.update_of_ne (Ne.symm other_ne), loading]
  rw [nested.state_eq (by rw [began]; simp), began]

theorem walk_cons_begins
    (follows : ∀ {first second : PluginRegistry} {called : String} {message : Option String},
      loadPlugin depth first called = some (second, message) →
        CallFollows first called second message)
    (restFollows : RestFollows depth parent rest registry next text)
    (indexed : ∃ name, registry.pluginsByName name = some parent)
    (loading : registry.stateOf parent = some .loading) {info : PluginInfo}
    (standingEq : standing registry.known registry.stateOf dependency = .begins address info)
    (loadEq : loadDependencies (loadPlugin depth) parent (dependency :: rest) registry =
      some (next, text)) :
    Walk registry.known registry.stateOf (dependency :: rest) next.stateOf text.isNone ∧
      Moved registry next := by
  rw [loadDependencies, loadDependency_begins standingEq] at loadEq
  rcases standing_eq_begins_iff.mp standingEq with ⟨knownEq, _, stateEq, allowed⟩
  rcases known_eq_some_iff.mp knownEq with ⟨plugin, indexEq, dataEq, rfl⟩
  have available := stateEq
  rw [stateOf_eq dataEq, Option.some.injEq] at available
  have other_ne : address ≠ parent := ne_of_loading loading stateEq (by simp)
  cases callEq : loadPlugin depth registry dependency.internalName with
  | none => simp [callEq] at loadEq
  | some outcome =>
      rcases outcome with ⟨reached, message⟩
      have called := follows callEq
      rcases called.begun address plugin indexEq dataEq available allowed with
        ⟨middle, nested, state_eq⟩
      have kept : middle parent = some .loading := loading_of_walk loading other_ne nested
      cases message with
      | some content =>
          rw [show (some content).isNone = false from rfl] at nested state_eq
          rw [if_neg Bool.false_ne_true] at state_eq
          cases required : dependency.required with
          | true =>
              simp only [callEq, required, if_true, Option.some.injEq, Prod.mk.injEq] at loadEq
              rcases loadEq with ⟨rfl, rfl⟩
              rw [state_eq]
              exact ⟨Walk.abort required standingEq nested, called.moved⟩
          | false =>
              simp only [callEq, required, Bool.false_eq_true, if_false] at loadEq
              rcases restFollows reached called.moved (by rw [state_eq, kept]) loadEq with
                ⟨walk, moved⟩
              rw [state_eq] at walk
              exact ⟨Walk.pass required standingEq nested walk, moved⟩
      | none =>
          rw [show (none : Option String).isNone = true from rfl] at nested state_eq
          rw [if_pos rfl] at state_eq
          simp only [callEq] at loadEq
          cases recordEq : reached.record parent address with
          | none => simp [recordEq] at loadEq
          | some recorded =>
              simp only [recordEq, Option.map_some] at loadEq
              rcases moved_record (by rwa [called.moved.same.pluginsByName]) other_ne
                recordEq with ⟨moved, recorded_eq⟩
              have recordedState : recorded.stateOf parent = some .loading := by
                rw [recorded_eq, state_eq, Function.update_of_ne (Ne.symm other_ne), kept]
              rcases restFollows recorded (called.moved.trans moved) recordedState loadEq with
                ⟨walk, moved⟩
              rw [recorded_eq, state_eq] at walk
              exact ⟨Walk.load standingEq nested walk, moved⟩

end Step

/-- The loop over the dependencies follows the rules if the calls in it do. -/
theorem walk_of_loadDependencies
    (follows : ∀ {first second : PluginRegistry} {called : String} {message : Option String},
      loadPlugin depth first called = some (second, message) →
        CallFollows first called second message)
    (indexed : ∃ name, registry.pluginsByName name = some parent)
    (loading : registry.stateOf parent = some .loading)
    (loadEq : loadDependencies (loadPlugin depth) parent dependencies registry = some (next, text)) :
    Walk registry.known registry.stateOf dependencies next.stateOf text.isNone ∧
      Moved registry next := by
  induction dependencies generalizing registry with
  | nil =>
      cases loadEq
      exact ⟨Walk.done, Moved.refl _⟩
  | cons dependency rest ih =>
      have restFollows : RestFollows depth parent rest registry next text := by
        intro reached moved stillLoading restEq
        have restIh := ih (by rwa [moved.same.pluginsByName]) stillLoading restEq
        rw [moved.same.known] at restIh
        exact ⟨restIh.1, moved.trans restIh.2⟩
      cases standingEq : standing registry.known registry.stateOf dependency with
      | refused => exact walk_cons_refused restFollows loading standingEq loadEq
      | loaded address => exact walk_cons_loaded restFollows indexed loading standingEq loadEq
      | begins address info =>
          exact walk_cons_begins follows restFollows indexed loading standingEq loadEq

theorem moved_beginLoading (dataEq : registry.data address = some plugin) :
    Moved registry (registry.beginLoading address plugin) :=
  moved_write_state dataEq .loading

theorem stateOf_beginLoading : (registry.beginLoading address plugin).stateOf =
    Function.update registry.stateOf address (some .loading) :=
  stateOf_write_eq _ _ _

@[simp]
theorem stateOf_beginLoading_self :
    (registry.beginLoading address plugin).stateOf address = some .loading := by
  rw [stateOf_beginLoading, Function.update_self]

/-- Every call follows the rules. -/
theorem callFollows (loadEq : loadPlugin depth registry name = some (next, text)) :
    CallFollows registry name next text := by
  induction depth generalizing registry name next text with
  | zero => cases loadEq
  | succ depth ih =>
      by_cases begins : ∃ address plugin, registry.pluginsByName name = some address ∧
          registry.data address = some plugin ∧ plugin.state = .available ∧
          plugin.info.allowDynamicLoad = true
      · rcases begins with ⟨address, plugin, indexEq, dataEq, available, allowed⟩
        have begun := moved_beginLoading dataEq
        have states := @stateOf_beginLoading registry address plugin
        have stillLoading := @stateOf_beginLoading_self registry address plugin
        have only : ∀ other found, registry.pluginsByName name = some other →
            registry.data other = some found → other = address ∧ found = plugin := by
          intro other found otherIndex otherData
          cases indexEq.symm.trans otherIndex
          cases dataEq.symm.trans otherData
          exact ⟨rfl, rfl⟩
        have notRefused : (∀ other found, registry.pluginsByName name = some other →
            registry.data other = some found →
              ¬(found.state = .available ∧ found.info.allowDynamicLoad = true)) → False :=
          fun refused => refused address plugin indexEq dataEq ⟨available, allowed⟩
        rcases loadPlugin_begun indexEq dataEq available allowed loadEq with
          ⟨reached, nestedEq, ended⟩
        rcases @walk_of_loadDependencies (registry.beginLoading address plugin) _ _ _ _ _ ih
          ⟨name, indexEq⟩ stillLoading nestedEq with ⟨walk, moved⟩
        rw [begun.same.known, states] at walk
        rcases ended with ⟨content, rfl, rfl⟩ | ⟨rfl, current, currentEq, rfl⟩
        · refine ⟨begun.trans moved, fun refused => (notRefused refused).elim, ?_⟩
          intro other found otherIndex otherData _ _
          rcases only other found otherIndex otherData with ⟨rfl, rfl⟩
          exact ⟨_, walk, rfl⟩
        · refine ⟨begun.trans (moved.trans (moved_finishLoading currentEq)),
            fun refused => (notRefused refused).elim, ?_⟩
          intro other found otherIndex otherData _ _
          rcases only other found otherIndex otherData with ⟨rfl, rfl⟩
          exact ⟨_, walk, stateOf_write_eq reached _ _⟩
      · have notBegins : ∀ address plugin, registry.pluginsByName name = some address →
            registry.data address = some plugin →
              ¬(plugin.state = .available ∧ plugin.info.allowDynamicLoad = true) := by
          intro address plugin indexEq dataEq able
          exact begins ⟨address, plugin, indexEq, dataEq, able⟩
        have refused := loadPlugin_not_begins notBegins loadEq
        refine ⟨refused.1 ▸ Moved.refl registry, fun _ => refused, ?_⟩
        intro address plugin indexEq dataEq available allowed
        exact absurd ⟨available, allowed⟩ (notBegins address plugin indexEq dataEq)

end Follows

end VoxelEngine.Plugin.PluginRegistry
