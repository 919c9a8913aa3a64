import VoxelEngine.Plugin.Lifecycle
import VoxelEngine.Plugin.Nesting

/-!
# Nested unloads come to an end

An unload visits the dependents of its plugin and unloads them by their names.  A name may lead
to another plugin than the dependent, as it can be announced again, but then to one that was
announced after the plugin that is being unloaded.  A plugin that is unloaded already when a
call for it is nested is refused, so that the lists that are gone through stay as they are.
-/

namespace VoxelEngine.Plugin.PluginRegistry

section Calls

variable {registry reached next : PluginRegistry} {name : String} {address : Address}
  {plugin dependent : PluginData} {unload : PluginRegistry → String → Outcome}
  {depth position : Nat} {text : Option String}

/-- The part of `plugin_registry::unload_plugin` before the dependents are unloaded. -/
def beginUnloading (registry : PluginRegistry) (plugin : Address) (current : PluginData) :
    PluginRegistry :=
  registry.write plugin { current with state := .unloading }

/-- A plugin that begins to be unloaded. -/
theorem unloadPlugin_begins (indexEq : registry.pluginsByName name = some address)
    (dataEq : registry.data address = some plugin) (notAvailable : plugin.state ≠ .available)
    (allowed : plugin.info.allowDynamicUnload = true) :
    unloadPlugin (depth + 1) registry name =
      match unloadDependents (unloadPlugin depth) address plugin.dependents.length
        (registry.beginUnloading address plugin) with
      | some (reached, none) =>
          (reached.data address).map fun current => (reached.finishUnloading address current, none)
      | stopped => stopped := by
  have unload_ok := (checkErrors_unload registry name plugin).mpr ⟨notAvailable, allowed⟩
  rw [unloadPlugin, plugin_exists indexEq, find_eq indexEq dataEq]
  simp only [unload_ok]
  rfl

/-- An unload that has begun ends as the loop over the dependents does, and without an exception
the plugin is available then. -/
theorem unloadPlugin_begun (indexEq : registry.pluginsByName name = some address)
    (dataEq : registry.data address = some plugin) (notAvailable : plugin.state ≠ .available)
    (allowed : plugin.info.allowDynamicUnload = true)
    (unloadEq : unloadPlugin (depth + 1) registry name = some (next, text)) :
    ∃ reached, unloadDependents (unloadPlugin depth) address plugin.dependents.length
        (registry.beginUnloading address plugin) = some (reached, text) ∧
      ((∃ content, text = some content ∧ next = reached) ∨
        text = none ∧ ∃ current, reached.data address = some current ∧
          next = reached.finishUnloading address current) := by
  rw [unloadPlugin_begins indexEq dataEq notAvailable allowed] at unloadEq
  split at unloadEq
  · rename_i reached loopEq
    rcases Option.map_eq_some_iff.mp unloadEq with ⟨current, currentEq, pair_eq⟩
    cases pair_eq
    exact ⟨reached, loopEq, Or.inr ⟨rfl, current, currentEq, rfl⟩⟩
  · rename_i threw
    cases text with
    | none => exact absurd unloadEq (threw next)
    | some content => exact ⟨next, unloadEq, Or.inl ⟨content, rfl, rfl⟩⟩

/-- A call for a plugin that does not begin to be unloaded ends with an exception. -/
theorem unloadPlugin_refused (depth : Nat) (indexEq : registry.pluginsByName name = some address)
    (dataEq : registry.data address = some plugin)
    (refused : ¬(plugin.state ≠ .available ∧ plugin.info.allowDynamicUnload = true)) :
    ∃ text, unloadPlugin (depth + 1) registry name = some (registry, some text) := by
  rw [unloadPlugin, plugin_exists indexEq, find_eq indexEq dataEq]
  cases checkEq : registry.checkErrors [.alreadyLoaded, .dynamicAllowed] name .unload
      (some plugin) none with
  | none => exact absurd ((checkErrors_unload registry name plugin).mp checkEq) refused
  | some text => exact ⟨text, by simp only [checkEq]⟩

theorem unloadPlugin_unknown (depth : Nat) (unknown : registry.pluginsByName name = none) :
    ∃ text, unloadPlugin (depth + 1) registry name = some (registry, some text) := by
  rcases plugin_unknown unknown .unload none with ⟨text, checkEq⟩
  rw [unloadPlugin, checkEq]
  exact ⟨text, rfl⟩

/-- The dependent that is visited at a position. -/
def visited (registry : PluginRegistry) (plugin : Address) (position : Nat) : Option PluginData :=
  (registry.dependentsOf plugin)[position]?.bind registry.data

theorem visited_eq : (registry.data address).bind (fun current =>
    current.dependents[position]?.bind registry.data) = registry.visited address position := by
  rw [visited, dependentsOf]
  cases registry.data address with
  | none => simp
  | some current => rfl

/-- A dependent that is available is passed over. -/
theorem unloadDependents_available (visitedEq : registry.visited address position = some dependent)
    (available : dependent.state = .available) :
    unloadDependents unload address (position + 1) registry =
      unloadDependents unload address position registry := by
  rw [unloadDependents]
  simp only [visited_eq, visitedEq, available, if_true]

/-- A dependent that is half way ends the call. -/
theorem unloadDependents_circular (visitedEq : registry.visited address position = some dependent)
    (halfWay : dependent.state = .loading ∨ dependent.state = .unloading) :
    ∃ text, unloadDependents unload address (position + 1) registry =
      some (registry, some text) := by
  have notAvailable : dependent.state ≠ .available := by
    rcases halfWay with state | state <;> simp [state]
  have circular : ∃ text, registry.checkErrors [.circularDependency] dependent.info.internalName
      .unload (some dependent) none = some text := by
    rcases halfWay with state | state <;> simp [checkErrors, state]
  rcases circular with ⟨text, checkEq⟩
  rw [unloadDependents]
  simp only [visited_eq, visitedEq, notAvailable, if_false, checkEq]
  exact ⟨_, rfl⟩

/-- A dependent that is loaded is unloaded by its name. -/
theorem unloadDependents_loaded (visitedEq : registry.visited address position = some dependent)
    (loaded : dependent.state = .loaded) :
    unloadDependents unload address (position + 1) registry =
      match unload registry dependent.info.internalName with
      | none => none
      | some (reached, some text) =>
          some (reached, some
            s!"Failed to unload dependency {dependent.info.internalName}: {text}")
      | some (reached, none) =>
          (reached.modify address fun current =>
            { current with dependents := swapEraseAt current.dependents position }).bind
              (unloadDependents unload address position) := by
  have circular : registry.checkErrors [.circularDependency] dependent.info.internalName
      .unload (some dependent) none = none := by
    simp [checkErrors, loaded]
  rw [unloadDependents]
  simp only [visited_eq, visitedEq, loaded]
  rw [if_neg (by simp)]
  generalize registry.checkErrors [.circularDependency] dependent.info.internalName .unload
    (some dependent) none = refused at circular ⊢
  subst circular
  rfl

/-- Nothing is visited that is not there. -/
theorem unloadDependents_unreadable (visitedEq : registry.visited address position = none) :
    unloadDependents unload address (position + 1) registry = none := by
  rw [unloadDependents]
  simp only [visited_eq, visitedEq]

/-- What the loop over the dependents does with one of them before it goes on or ends. -/
inductive Visit (unload : PluginRegistry → String → Outcome) (address : Address) (position : Nat)
    (registry : PluginRegistry) (dependent : PluginData) (next : PluginRegistry) :
    Option String → Prop where
  | passed {text : Option String} (available : dependent.state = .available)
      (restEq : unloadDependents unload address position registry = some (next, text)) :
      Visit unload address position registry dependent next text
  | stopped (content : String)
      (halfWay : dependent.state = .loading ∨ dependent.state = .unloading)
      (next_eq : next = registry) :
      Visit unload address position registry dependent next (some content)
  | failed {message : String} (content : String) (loaded : dependent.state = .loaded)
      (callEq : unload registry dependent.info.internalName = some (next, some message)) :
      Visit unload address position registry dependent next (some content)
  | unloaded {text : Option String} {reached erased : PluginRegistry}
      (loaded : dependent.state = .loaded)
      (callEq : unload registry dependent.info.internalName = some (reached, none))
      (eraseEq : reached.modify address (fun current =>
        { current with dependents := swapEraseAt current.dependents position }) = some erased)
      (restEq : unloadDependents unload address position erased = some (next, text)) :
      Visit unload address position registry dependent next text

theorem visit_of_unloadDependents
    (unloadEq : unloadDependents unload address (position + 1) registry = some (next, text)) :
    ∃ dependent, registry.visited address position = some dependent ∧
      Visit unload address position registry dependent next text := by
  cases visitedEq : registry.visited address position with
  | none => cases (unloadDependents_unreadable visitedEq).symm.trans unloadEq
  | some dependent =>
      refine ⟨dependent, rfl, ?_⟩
      by_cases halfWay : dependent.state = .loading ∨ dependent.state = .unloading
      · rcases @unloadDependents_circular _ _ _ unload _ visitedEq halfWay with ⟨content, stopEq⟩
        cases stopEq.symm.trans unloadEq
        exact Visit.stopped content halfWay rfl
      · cases state : dependent.state with
        | available =>
            rw [unloadDependents_available visitedEq state] at unloadEq
            exact Visit.passed state unloadEq
        | loading => exact absurd (Or.inl state) halfWay
        | unloading => exact absurd (Or.inr state) halfWay
        | loaded =>
            rw [unloadDependents_loaded visitedEq state] at unloadEq
            cases callEq : unload registry dependent.info.internalName with
            | none => simp [callEq] at unloadEq
            | some outcome =>
                rcases outcome with ⟨reached, _ | message⟩
                · simp only [callEq] at unloadEq
                  rcases Option.bind_eq_some_iff.mp unloadEq with ⟨erased, eraseEq, restEq⟩
                  exact Visit.unloaded state callEq eraseEq restEq
                · simp only [callEq, Option.some.injEq, Prod.mk.injEq] at unloadEq
                  rcases unloadEq with ⟨rfl, rfl⟩
                  exact Visit.failed _ state callEq

end Calls

/-! ## What an unload leaves as it is -/

/-- How far a plugin is from being unloaded. -/
def unloadWeight : PluginState → Nat
  | .available => 0
  | .unloading => 1
  | _ => 2

/-- What a call of `unload_plugin` leaves as it is. -/
structure Released (before after : PluginRegistry) : Prop where
  same : SameEntries before after
  dependents : ∀ any, ∀ other ∈ after.dependentsOf any, other ∈ before.dependentsOf any
  dependencies : ∀ any, after.dependenciesOf any = before.dependenciesOf any
  available : ∀ any, before.stateOf any = some .available → after.stateOf any = some .available
  lighter : ∀ any, ((after.stateOf any).map unloadWeight).getD 0 ≤
    ((before.stateOf any).map unloadWeight).getD 0
  unindexed : ∀ any, (∀ name, before.pluginsByName name ≠ some any) →
    after.stateOf any = before.stateOf any

theorem Released.refl (registry : PluginRegistry) : Released registry registry :=
  ⟨SameEntries.refl registry, fun _ _ mem => mem, fun _ => rfl, fun _ stateEq => stateEq,
    fun _ => Nat.le_refl _, fun _ _ => rfl⟩

theorem Released.trans {first second third : PluginRegistry} (one : Released first second)
    (two : Released second third) : Released first third where
  same := one.same.trans two.same
  dependents any other mem := one.dependents any other (two.dependents any other mem)
  dependencies any := (two.dependencies any).trans (one.dependencies any)
  available any stateEq := two.available any (one.available any stateEq)
  lighter any := Nat.le_trans (two.lighter any) (one.lighter any)
  unindexed any unindexed := by
    rw [two.unindexed any, one.unindexed any unindexed]
    intro name
    rw [one.same.pluginsByName]
    exact unindexed name

section Changes

variable {registry next : PluginRegistry} {address : Address} {plugin : PluginData}

theorem released_beginUnloading (dataEq : registry.data address = some plugin)
    (indexed : ∃ name, registry.pluginsByName name = some address)
    (notAvailable : plugin.state ≠ .available) :
    Released registry (registry.beginUnloading address plugin) where
  same := sameEntries_write _ dataEq rfl rfl rfl
  dependents any other mem := by
    rwa [beginUnloading, dependentsOf_write_state dataEq] at mem
  dependencies any := dependenciesOf_write_state dataEq .unloading any
  available any stateEq := by
    rw [beginUnloading, stateOf_write]
    split
    · rename_i any_eq
      rw [any_eq, stateOf_eq dataEq, Option.some.injEq] at stateEq
      exact absurd stateEq notAvailable
    · exact stateEq
  lighter any := by
    rw [beginUnloading, stateOf_write]
    split
    · rename_i any_eq
      rw [any_eq, stateOf_eq dataEq]
      cases state : plugin.state <;> simp_all [unloadWeight]
    · exact Nat.le_refl _
  unindexed any unindexed := by
    rw [beginUnloading, stateOf_write]
    split
    · rename_i any_eq
      rcases indexed with ⟨name, indexEq⟩
      exact absurd (any_eq ▸ indexEq) (unindexed name)
    · rfl

theorem released_finishUnloading (dataEq : registry.data address = some plugin)
    (indexed : ∃ name, registry.pluginsByName name = some address) :
    Released registry (registry.finishUnloading address plugin) where
  same := by
    have written := sameEntries_write { plugin with state := .available } dataEq rfl rfl rfl
    exact ⟨rfl, rfl, rfl, rfl, rfl, written.identityOf⟩
  dependents any other mem := by
    have written := dependentsOf_write_state dataEq .available any
    change other ∈ (registry.write address { plugin with state := .available }).dependentsOf any
      at mem
    rwa [written] at mem
  dependencies any := dependenciesOf_write_state dataEq .available any
  available any stateEq := by
    change (registry.write address { plugin with state := .available }).stateOf any = _
    rw [stateOf_write]
    split
    · rfl
    · exact stateEq
  lighter any := by
    change (((registry.write address { plugin with state := .available }).stateOf any).map
      unloadWeight).getD 0 ≤ _
    rw [stateOf_write]
    split
    · exact Nat.zero_le _
    · exact Nat.le_refl _
  unindexed any unindexed := by
    change (registry.write address { plugin with state := .available }).stateOf any = _
    rw [stateOf_write]
    split
    · rename_i any_eq
      rcases indexed with ⟨name, indexEq⟩
      exact absurd (any_eq ▸ indexEq) (unindexed name)
    · rfl

/-- What is left of a list after erasing from it. -/
theorem mem_of_mem_swapEraseAt {α : Type} {items : List α} {position : Nat} {item : α}
    (mem : item ∈ swapEraseAt items position) : item ∈ items := by
  unfold swapEraseAt at mem
  split at mem
  · rename_i last lastEq
    rcases List.mem_or_eq_of_mem_set (List.mem_of_mem_dropLast mem) with before | rfl
    · exact before
    · exact List.mem_of_getLast? lastEq
  · cases mem

/-- Erasing keeps what is in front, and takes what is behind from there. -/
theorem getElem?_swapEraseAt {α : Type} {items : List α} {position later : Nat} {item : α}
    (inside : position < items.length) (behind : position ≤ later)
    (itemEq : (swapEraseAt items position)[later]? = some item) :
    ∃ before, position < before ∧ items[before]? = some item := by
  have nonempty : items ≠ [] :=
    List.ne_nil_of_length_pos (Nat.lt_of_le_of_lt (Nat.zero_le _) inside)
  rw [swapEraseAt, List.getLast?_eq_some_getLast nonempty] at itemEq
  simp only [List.dropLast_eq_take, List.length_set, List.getElem?_take, List.getElem?_set] at itemEq
  split at itemEq
  · rename_i below
    split at itemEq
    · rename_i same
      rw [Option.some.injEq, List.getLast_eq_getElem] at itemEq
      refine ⟨items.length - 1, by omega, ?_⟩
      rw [← itemEq, List.getElem?_eq_getElem]
    · exact ⟨later, by omega, itemEq⟩
  · cases itemEq

theorem length_swapEraseAt {α : Type} (items : List α) (position : Nat) :
    (swapEraseAt items position).length = items.length - 1 := by
  unfold swapEraseAt
  split
  · rw [List.length_dropLast, List.length_set]
  · rename_i noLast
    rw [List.getLast?_eq_none_iff.mp noLast]
    rfl

/-- Erasing one of the dependents of a plugin. -/
theorem erase_spec {position : Nat} (alive : (registry.data address).isSome) :
    ∃ next, registry.modify address (fun current =>
        { current with dependents := swapEraseAt current.dependents position }) = some next ∧
      Released registry next ∧ (∀ any, next.stateOf any = registry.stateOf any) ∧
      ∀ any, next.dependentsOf any =
        if any = address then swapEraseAt (registry.dependentsOf any) position
        else registry.dependentsOf any := by
  rcases Option.isSome_iff_exists.mp alive with ⟨plugin, dataEq⟩
  have states : ∀ any, (registry.write address
      { plugin with dependents := swapEraseAt plugin.dependents position }).stateOf any =
        registry.stateOf any := by
    intro any
    rw [stateOf_write]
    split
    · rename_i any_eq
      rw [any_eq, stateOf_eq dataEq]
    · rfl
  have lists : ∀ any, (registry.write address
      { plugin with dependents := swapEraseAt plugin.dependents position }).dependentsOf any =
        if any = address then swapEraseAt (registry.dependentsOf any) position
        else registry.dependentsOf any := by
    intro any
    rw [dependentsOf_write]
    split
    · rename_i any_eq
      rw [any_eq, dependentsOf_eq dataEq]
    · rfl
  refine ⟨_, by rw [modify, dataEq, Option.map_some], ?_, states, lists⟩
  constructor
  · exact sameEntries_write _ dataEq rfl rfl rfl
  · intro any other mem
    rw [lists] at mem
    split at mem
    · exact mem_of_mem_swapEraseAt mem
    · exact mem
  · intro any
    rw [dependenciesOf_write]
    split
    · rename_i any_eq
      rw [any_eq, dependenciesOf_eq dataEq]
    · rfl
  · intro any stateEq
    rw [states, stateEq]
  · intro any
    rw [states]
  · intro any _
    exact states any

end Changes

/-! ## Plugins that wait for others to be unloaded -/

/-- All dependents from a position on are available. -/
def DoneFrom (registry : PluginRegistry) (address : Address) (position : Nat) : Prop :=
  ∀ later other, position ≤ later → (registry.dependentsOf address)[later]? = some other →
    registry.stateOf other = some .available

/-- A plugin that is being unloaded waits for a call about another one: a dependent, or what the
name of a dependent leads to. -/
inductive Waits (registry : PluginRegistry) : Address → Address → Prop
  | own {parent position child} :
      (registry.dependentsOf parent)[position]? = some child →
      DoneFrom registry parent (position + 1) →
      Waits registry parent child
  | other {parent position dependent plugin child} :
      (registry.dependentsOf parent)[position]? = some dependent →
      DoneFrom registry parent (position + 1) →
      registry.data dependent = some plugin →
      plugin.state = .loaded →
      registry.pluginsByName plugin.info.internalName = some child →
      dependent ≠ child →
      parent < child →
      Waits registry parent child

/-- The plugins that are being unloaded, the innermost first. -/
def Waiting (registry : PluginRegistry) : List Address → Prop
  | [] => True
  | [address] => registry.stateOf address = some .unloading
  | child :: parent :: rest =>
      registry.stateOf child = some .unloading ∧ Waits registry parent child ∧
        Waiting registry (parent :: rest)

/-- How deeply calls can be nested in a call that unloads a plugin: the plugins to be unloaded
get fewer, or the plugin that is unloaded is a later one. -/
def unloadRank (registry : PluginRegistry) (address : Address) : Nat :=
  tally unloadWeight registry.plugins
      (Function.update registry.stateOf address (some .unloading)) *
    (registry.nextAddress + 1) + (registry.nextAddress - address)

/-- A call about a plugin ends with an exception and changes nothing. -/
def Refuses (registry : PluginRegistry) (address : Address) : Prop :=
  ∀ depth name, registry.pluginsByName name = some address →
    (∀ outcome, unloadPlugin depth registry name = some outcome →
      outcome.1 = registry ∧ outcome.2.isSome = true) ∧
    (unloadRank registry address < depth →
      ∃ outcome, unloadPlugin depth registry name = some outcome)

section Waiting

variable {registry : PluginRegistry} {parent child address : Address} {path : List Address}
  {position : Nat} {depth : Nat}

theorem Waiting.state (waiting : Waiting registry path) (mem : address ∈ path) :
    registry.stateOf address = some .unloading := by
  induction path with
  | nil => cases mem
  | cons first rest ih =>
      cases rest with
      | nil =>
          rw [List.mem_singleton.mp mem]
          exact waiting
      | cons second others =>
          rcases List.mem_cons.mp mem with rfl | later
          · exact waiting.1
          · exact ih waiting.2.2 later

/-- Dependents that are available are passed over. -/
theorem unloadDependents_doneFrom {unload : PluginRegistry → String → Outcome} {more : Nat}
    (done : DoneFrom registry address position)
    (inside : position + more ≤ (registry.dependentsOf address).length) :
    unloadDependents unload address (position + more) registry =
      unloadDependents unload address position registry := by
  induction more with
  | zero => rfl
  | succ more ih =>
      have entryEq := List.getElem?_eq_getElem inside
      have stateEq := done _ _ (Nat.le_add_right _ _) entryEq
      rcases Option.map_eq_some_iff.mp stateEq with ⟨dependent, dataEq, available⟩
      have visitedEq : registry.visited address (position + more) = some dependent :=
        Option.bind_eq_some_iff.mpr ⟨_, entryEq, dataEq⟩
      rw [← Nat.add_assoc, unloadDependents_available visitedEq available]
      exact ih (Nat.le_of_succ_le inside)

/-- A plugin that is being unloaded already gets as far as the first time. -/
theorem refuses_of_entry (unloading : registry.stateOf parent = some .unloading)
    {dependent : Address} (entryEq : (registry.dependentsOf parent)[position]? = some dependent)
    (done : DoneFrom registry parent (position + 1))
    (stops : ∀ depth, (∀ outcome, unloadDependents (unloadPlugin depth) parent (position + 1)
        registry = some outcome → outcome.1 = registry ∧ outcome.2.isSome = true) ∧
      (unloadRank registry parent < depth + 1 →
        ∃ outcome, unloadDependents (unloadPlugin depth) parent (position + 1) registry =
          some outcome)) :
    Refuses registry parent := by
  intro depth name indexEq
  cases depth with
  | zero =>
      refine ⟨fun outcome unloadEq => ?_, fun less => absurd less (Nat.not_lt_zero _)⟩
      cases unloadEq
  | succ depth =>
      rcases Option.map_eq_some_iff.mp unloading with ⟨plugin, dataEq, state⟩
      by_cases allowed : plugin.info.allowDynamicUnload = true
      · have same : registry.beginUnloading parent plugin = registry := by
          have again : { plugin with state := .unloading } = plugin := by rw [← state]
          have data_eq : Function.update registry.data parent (some plugin) = registry.data := by
            rw [← dataEq, Function.update_eq_self]
          rw [beginUnloading, again, write, data_eq]
        have inside : position + 1 ≤ plugin.dependents.length := by
          rw [← dependentsOf_eq dataEq]
          exact (List.getElem?_eq_some_iff.mp entryEq).1
        have early : unloadDependents (unloadPlugin depth) parent plugin.dependents.length registry =
            unloadDependents (unloadPlugin depth) parent (position + 1) registry := by
          rcases Nat.exists_eq_add_of_le inside with ⟨more, length_eq⟩
          rw [length_eq]
          apply unloadDependents_doneFrom done
          rw [dependentsOf_eq dataEq, length_eq]
        rw [unloadPlugin_begins indexEq dataEq (by rw [state]; simp) allowed, same, early]
        constructor
        · intro outcome unloadEq
          cases loopEq : unloadDependents (unloadPlugin depth) parent (position + 1) registry with
          | none => simp [loopEq] at unloadEq
          | some stopped =>
              rcases (stops depth).1 stopped loopEq with ⟨unchanged, isSome⟩
              rcases stopped with ⟨reached, message⟩
              rcases Option.isSome_iff_exists.mp isSome with ⟨content, rfl⟩
              simp only [loopEq, Option.some.injEq] at unloadEq
              rw [← unloadEq]
              exact ⟨unchanged, rfl⟩
        · intro less
          rcases (stops depth).2 less with ⟨stopped, loopEq⟩
          rcases (stops depth).1 stopped loopEq with ⟨_, isSome⟩
          rcases stopped with ⟨reached, message⟩
          rcases Option.isSome_iff_exists.mp isSome with ⟨content, rfl⟩
          rw [loopEq]
          exact ⟨_, rfl⟩
      · rcases unloadPlugin_refused depth indexEq dataEq (fun able => allowed able.2) with
          ⟨text, refusedEq⟩
        rw [refusedEq]
        refine ⟨fun outcome unloadEq => ?_, fun _ => ⟨_, rfl⟩⟩
        cases unloadEq
        exact ⟨rfl, rfl⟩

/-- Later plugins that are half way have a lower rank. -/
theorem unloadRank_lt (allocated : registry.Allocated)
    (parentState : registry.stateOf parent = some .unloading)
    (childState : registry.stateOf child = some .unloading) (less : parent < child) :
    unloadRank registry child < unloadRank registry parent := by
  have parentSame : Function.update registry.stateOf parent (some .unloading) =
      registry.stateOf := by
    rw [← parentState, Function.update_eq_self]
  have childSame : Function.update registry.stateOf child (some .unloading) =
      registry.stateOf := by
    rw [← childState, Function.update_eq_self]
  rcases Option.map_eq_some_iff.mp childState with ⟨plugin, dataEq, _⟩
  have below := allocated child (by rw [dataEq]; rfl)
  rw [unloadRank, unloadRank, parentSame, childSame]
  exact Nat.add_lt_add_left (Nat.sub_lt_sub_left (Nat.lt_trans less below) less) _

/-- Among plugins that wait for one another, a call about one of them is refused, unless every
name on the way to the innermost one led to a later plugin. -/
theorem Waiting.refuses_or_le (allocated : registry.Allocated)
    (waiting : Waiting registry (child :: path)) (mem : address ∈ child :: path) :
    Refuses registry address ∨
      address ≤ child ∧ (Refuses registry child → Refuses registry address) := by
  induction path generalizing child address with
  | nil =>
      rw [List.mem_singleton.mp mem]
      exact Or.inr ⟨Nat.le_refl _, id⟩
  | cons parent rest ih =>
      rcases waiting with ⟨childState, waits, outer⟩
      rcases List.mem_cons.mp mem with rfl | outerMem
      · exact Or.inr ⟨Nat.le_refl _, id⟩
      · have parentState := outer.state List.mem_cons_self
        cases waits with
        | own entryEq done =>
            have parentRefuses : Refuses registry parent := by
              apply refuses_of_entry parentState entryEq done
              intro depth
              rcases Option.map_eq_some_iff.mp childState with ⟨plugin, dataEq, state⟩
              have visitedEq : registry.visited parent _ = some plugin :=
                Option.bind_eq_some_iff.mpr ⟨child, entryEq, dataEq⟩
              rcases @unloadDependents_circular _ _ _ (unloadPlugin depth) _ visitedEq
                (Or.inr state) with ⟨text, stopEq⟩
              rw [stopEq]
              refine ⟨fun outcome unloadEq => ?_, fun _ => ⟨_, rfl⟩⟩
              cases unloadEq
              exact ⟨rfl, rfl⟩
            rcases ih outer outerMem with refuses | ⟨_, implies⟩
            · exact Or.inl refuses
            · exact Or.inl (implies parentRefuses)
        | @other position dependent plugin _ entryEq done dataEq state indexEq _ less =>
            rcases ih outer outerMem with refuses | ⟨le, implies⟩
            · exact Or.inl refuses
            · right
              refine ⟨Nat.le_trans le (Nat.le_of_lt less), fun childRefuses => implies ?_⟩
              apply refuses_of_entry parentState entryEq done
              intro depth
              have visitedEq : registry.visited parent position = some plugin :=
                Option.bind_eq_some_iff.mpr ⟨dependent, entryEq, dataEq⟩
              rw [unloadDependents_loaded visitedEq state]
              rcases childRefuses depth _ indexEq with ⟨unchanged, ends⟩
              constructor
              · intro outcome unloadEq
                cases callEq : unloadPlugin depth registry plugin.info.internalName with
                | none => simp [callEq] at unloadEq
                | some stopped =>
                    rcases unchanged stopped callEq with ⟨unchanged, isSome⟩
                    rcases stopped with ⟨reached, message⟩
                    rcases Option.isSome_iff_exists.mp isSome with ⟨content, rfl⟩
                    simp only [callEq, Option.some.injEq] at unloadEq
                    rw [← unloadEq]
                    exact ⟨unchanged, rfl⟩
              · intro enough
                have lower := unloadRank_lt allocated parentState childState less
                rcases ends (by omega) with ⟨stopped, callEq⟩
                rcases unchanged stopped callEq with ⟨_, isSome⟩
                rcases stopped with ⟨reached, message⟩
                rcases Option.isSome_iff_exists.mp isSome with ⟨content, rfl⟩
                rw [callEq]
                exact ⟨_, rfl⟩

end Waiting

/-! ## Calls within calls -/

/-- The names of the dependents of a plugin lead to themselves, or to plugins that were announced
after the plugin. -/
structure Layered (registry : PluginRegistry) : Prop where
  grounded : registry.Grounded
  allocated : registry.Allocated
  later : ∀ address, ∀ dependent ∈ registry.dependentsOf address, ∀ plugin child,
    registry.data dependent = some plugin →
      registry.pluginsByName plugin.info.internalName = some child →
        child = dependent ∨ address < child

/-- All dependents are still there. -/
def Undangling (registry : PluginRegistry) : Prop :=
  ∀ address, ∀ dependent ∈ registry.dependentsOf address, (registry.data dependent).isSome

theorem SameEntries.info_eq {before after : PluginRegistry} (same : SameEntries before after)
    {address : Address} {plugin : PluginData} (dataEq : after.data address = some plugin) :
    ∃ current, before.data address = some current ∧ current.info = plugin.info := by
  have infos := same.map_eq (fun identity => identity.1) address
  rw [dataEq, Option.map_some] at infos
  exact Option.map_eq_some_iff.mp infos.symm

theorem SameEntries.isSome_eq {before after : PluginRegistry} (same : SameEntries before after)
    (address : Address) : (after.data address).isSome = (before.data address).isSome := by
  have identity := congrArg Option.isSome (same.map_eq id address)
  rwa [Option.isSome_map, Option.isSome_map] at identity

namespace Released

variable {before after : PluginRegistry}

theorem layered (released : Released before after) (layered : before.Layered) : after.Layered where
  grounded := released.same.grounded layered.grounded
  allocated := released.same.allocated layered.allocated
  later address dependent mem plugin child dataEq indexEq := by
    rcases released.same.info_eq dataEq with ⟨current, currentEq, info_eq⟩
    rw [released.same.pluginsByName, ← info_eq] at indexEq
    exact layered.later address dependent (released.dependents address dependent mem) current child
      currentEq indexEq

theorem undangling (released : Released before after) (undangling : before.Undangling) :
    after.Undangling := by
  intro address dependent mem
  rw [released.same.isSome_eq]
  exact undangling address dependent (released.dependents address dependent mem)

theorem tally_le (released : Released before after) :
    tally unloadWeight after.plugins after.stateOf ≤
      tally unloadWeight before.plugins before.stateOf := by
  rw [released.same.plugins]
  exact tally_le_of released.lighter

theorem doneFrom (released : Released before after) {address : Address} {position : Nat}
    (same : after.dependentsOf address = before.dependentsOf address)
    (done : DoneFrom before address position) : DoneFrom after address position := by
  intro later other le entryEq
  rw [same] at entryEq
  exact released.available other (done later other le entryEq)

theorem waits (released : Released before after) (grounded : before.Grounded)
    {parent child : Address} (same : after.dependentsOf parent = before.dependentsOf parent)
    (waits : Waits before parent child) : Waits after parent child := by
  cases waits with
  | own entryEq done => exact Waits.own (same ▸ entryEq) (released.doneFrom same done)
  | @other position dependent plugin _ entryEq done dataEq state indexEq different less =>
      have unindexed : ∀ name, before.pluginsByName name ≠ some dependent := by
        intro name nameEq
        rcases grounded.indexed name dependent nameEq with ⟨found, foundEq, name_eq⟩
        rw [dataEq] at foundEq
        cases foundEq
        rw [name_eq, nameEq] at indexEq
        exact different (Option.some.inj indexEq)
      have stateEq := released.unindexed dependent unindexed
      rw [stateOf_eq dataEq, state] at stateEq
      rcases Option.map_eq_some_iff.mp stateEq with ⟨current, currentEq, currentState⟩
      rcases released.same.info_eq currentEq with ⟨old, oldEq, info_eq⟩
      rw [dataEq] at oldEq
      cases oldEq
      refine Waits.other (same ▸ entryEq) (released.doneFrom same done) currentEq currentState ?_
        different less
      rw [released.same.pluginsByName, ← info_eq, indexEq]

theorem waiting (released : Released before after) (grounded : before.Grounded)
    {path : List Address} (kept : ∀ address ∈ path,
      after.dependentsOf address = before.dependentsOf address ∧
        after.stateOf address = before.stateOf address)
    (waiting : Waiting before path) : Waiting after path := by
  induction path with
  | nil => trivial
  | cons child rest ih =>
      rw [List.forall_mem_cons] at kept
      cases rest with
      | nil => exact kept.1.2.trans waiting
      | cons parent others =>
          rcases waiting with ⟨childState, waits, outer⟩
          refine ⟨kept.1.2.trans childState, ?_, ih kept.2 outer⟩
          exact released.waits grounded (kept.2 parent List.mem_cons_self).1 waits

end Released

/-- The list of dependents and the state of a plugin are as before. -/
def Untouched (before after : PluginRegistry) (address : Address) : Prop :=
  after.dependentsOf address = before.dependentsOf address ∧
    after.stateOf address = before.stateOf address

theorem Untouched.refl (registry : PluginRegistry) (address : Address) :
    Untouched registry registry address :=
  ⟨rfl, rfl⟩

theorem Untouched.trans {first second third : PluginRegistry} {address : Address}
    (one : Untouched first second address) (two : Untouched second third address) :
    Untouched first third address :=
  ⟨two.1.trans one.1, two.2.trans one.2⟩

/-- A call leaves the plugins of a path alone, and has an outcome unless a dependent is not there
any more. -/
def CallEnds (registry : PluginRegistry) (path : List Address) (result : Outcome) : Prop :=
  (∀ outcome, result = some outcome → Released registry outcome.1 ∧
    ∀ address ∈ path, Untouched registry outcome.1 address) ∧
  (registry.Undangling → ∃ outcome, result = some outcome)

/-- The same of the loop over the dependents of a plugin, which stays being unloaded. -/
def LoopEnds (registry : PluginRegistry) (address : Address) (path : List Address)
    (result : Outcome) : Prop :=
  (∀ outcome, result = some outcome → Released registry outcome.1 ∧
    outcome.1.stateOf address = some .unloading ∧
      ∀ other ∈ path, Untouched registry outcome.1 other) ∧
  (registry.Undangling → ∃ outcome, result = some outcome)

/-- All nested calls of a depth end. -/
def CallsEnd (depth : Nat) : Prop :=
  ∀ (registry : PluginRegistry) (path : List Address) (name : String),
    registry.Layered → path.Nodup → Waiting registry path →
    (∀ parent rest child, path = parent :: rest → registry.pluginsByName name = some child →
      Waits registry parent child ∧
        (registry.stateOf child = some .loaded ∨ parent < child)) →
    0 < depth →
    (∀ child, registry.pluginsByName name = some child →
      registry.stateOf child ≠ some .available → unloadRank registry child < depth) →
    CallEnds registry path (unloadPlugin depth registry name)

section Ends

variable {registry : PluginRegistry} {address : Address} {rest : List Address}
    {position depth : Nat}

theorem tally_unload_lt {dependent : Address} {plugins : List Address} {states : States}
    (mem : dependent ∈ plugins) (loaded : states dependent = some .loaded) :
    tally unloadWeight plugins (Function.update states dependent (some .unloading)) <
      tally unloadWeight plugins states := by
  apply tally_lt_of _ mem
  · rw [Function.update_self, loaded]
    decide
  · intro other
    by_cases same : other = dependent
    · rw [same, Function.update_self, loaded]
      decide
    · rw [Function.update_of_ne same]

theorem tally_unload_le {child : Address} {plugins : List Address} {states : States}
    {state : PluginState} (stateEq : states child = some state)
    (notAvailable : state ≠ .available) :
    tally unloadWeight plugins (Function.update states child (some .unloading)) ≤
      tally unloadWeight plugins states := by
  apply tally_le_of
  intro other
  by_cases same : other = child
  · rw [same, Function.update_self, stateEq]
    cases state <;> simp_all [unloadWeight]
  · rw [Function.update_of_ne same]

/-- A plugin waits for what the name of its dependent leads to. -/
theorem Layered.waits (layered : registry.Layered) {dependent child : Address}
    {plugin : PluginData} (entryEq : (registry.dependentsOf address)[position]? = some dependent)
    (done : DoneFrom registry address (position + 1))
    (dataEq : registry.data dependent = some plugin) (state : plugin.state = .loaded)
    (indexEq : registry.pluginsByName plugin.info.internalName = some child) :
    Waits registry address child ∧
      (registry.stateOf child = some .loaded ∨ address < child) := by
  by_cases same : dependent = child
  · subst same
    exact ⟨Waits.own entryEq done, Or.inl ((stateOf_eq dataEq).trans (congrArg some state))⟩
  · rcases layered.later address dependent (List.mem_of_getElem? entryEq) plugin child dataEq
      indexEq with child_eq | less
    · exact absurd child_eq.symm same
    · exact ⟨Waits.other entryEq done dataEq state indexEq same less, Or.inr less⟩

/-- Nested calls have a lower rank. -/
theorem Layered.rank_lt (layered : registry.Layered) {name : String} {child : Address}
    (indexEq : registry.pluginsByName name = some child)
    (notAvailable : registry.stateOf child ≠ some .available)
    (next : registry.stateOf child = some .loaded ∨ address < child)
    (enough : tally unloadWeight registry.plugins registry.stateOf * (registry.nextAddress + 1) +
      (registry.nextAddress - address) ≤ depth) : unloadRank registry child < depth := by
  rcases layered.grounded.indexed _ _ indexEq with ⟨plugin, dataEq, _⟩
  have alive : (registry.data child).isSome := by rw [dataEq]; rfl
  apply Nat.lt_of_lt_of_le _ enough
  unfold unloadRank
  rcases next with loaded | less
  · have fewer := tally_unload_lt (layered.grounded.listed child alive) loaded
    have product := Nat.mul_le_mul_right (registry.nextAddress + 1) (Nat.succ_le_of_lt fewer)
    rw [Nat.succ_mul] at product
    have small : registry.nextAddress - child < registry.nextAddress + 1 :=
      Nat.lt_succ_of_le (Nat.sub_le _ _)
    calc
      _ < _ := Nat.add_lt_add_left small _
      _ ≤ _ := product
      _ ≤ _ := Nat.le_add_right _ _
  · have stateEq := stateOf_eq dataEq
    have fewer : tally unloadWeight registry.plugins
        (Function.update registry.stateOf child (some .unloading)) ≤
          tally unloadWeight registry.plugins registry.stateOf := by
      apply tally_unload_le stateEq
      intro available
      exact notAvailable (stateEq.trans (congrArg some available))
    apply Nat.add_lt_add_of_le_of_lt (Nat.mul_le_mul_right _ fewer)
    exact Nat.sub_lt_sub_left (Nat.lt_trans less (layered.allocated child alive)) less

/-- After a dependent was unloaded it is erased, and the other plugins that wait still do. -/
theorem Released.exists_erase {reached : PluginRegistry} (released : Released registry reached)
    (layered : registry.Layered) (nodup : (address :: rest).Nodup)
    (waiting : Waiting registry (address :: rest))
    (kept : ∀ other ∈ address :: rest, Untouched registry reached other)
    (inside : position < (registry.dependentsOf address).length)
    (done : DoneFrom registry address (position + 1)) :
    ∃ next, reached.modify address (fun current =>
        { current with dependents := swapEraseAt current.dependents position }) = some next ∧
      Released registry next ∧ Waiting next (address :: rest) ∧
      position ≤ (next.dependentsOf address).length ∧ DoneFrom next address position ∧
      ∀ other ∈ rest, Untouched registry next other := by
  rw [List.nodup_cons] at nodup
  have unloading := waiting.state List.mem_cons_self
  have alive : (reached.data address).isSome := by
    rcases Option.map_eq_some_iff.mp ((kept address List.mem_cons_self).2.trans unloading) with
      ⟨current, currentEq, _⟩
    rw [currentEq]
    rfl
  rcases @erase_spec _ _ position alive with ⟨next, eraseEq, erased, states, lists⟩
  have nextReleased := released.trans erased
  have ownList : next.dependentsOf address =
      swapEraseAt (registry.dependentsOf address) position := by
    rw [lists, if_pos rfl, (kept address List.mem_cons_self).1]
  have restKept : ∀ other ∈ rest, Untouched registry next other := by
    intro other mem
    have other_ne : other ≠ address := by
      rintro rfl
      exact nodup.1 mem
    rcases kept other (List.mem_cons_of_mem _ mem) with ⟨list_eq, state_eq⟩
    exact ⟨by rw [lists, if_neg other_ne, list_eq], by rw [states, state_eq]⟩
  refine ⟨next, eraseEq, nextReleased, ?_, ?_, ?_, restKept⟩
  · have nextUnloading : next.stateOf address = some .unloading := by
      rw [states, (kept address List.mem_cons_self).2, unloading]
    cases rest with
    | nil => exact nextUnloading
    | cons parent others =>
        rcases waiting with ⟨_, waits, outer⟩
        refine ⟨nextUnloading, ?_, nextReleased.waiting layered.grounded restKept outer⟩
        exact nextReleased.waits layered.grounded (restKept parent List.mem_cons_self).1 waits
  · rw [ownList, length_swapEraseAt]
    exact Nat.le_sub_one_of_lt inside
  · intro later other le entryEq
    rw [ownList] at entryEq
    rcases getElem?_swapEraseAt inside le entryEq with ⟨before, less, beforeEq⟩
    exact nextReleased.available other (done before other less beforeEq)

/-- A loop that stops at once. -/
theorem loopEnds_of_stopped {result : Outcome} {text : Option String}
    (unloading : registry.stateOf address = some .unloading)
    (resultEq : result = some (registry, text)) : LoopEnds registry address rest result := by
  subst resultEq
  constructor
  · rintro _ ⟨rfl⟩
    exact ⟨Released.refl registry, unloading, fun other _ => Untouched.refl registry other⟩
  · intro _
    exact ⟨_, rfl⟩

/-- A loop that goes on elsewhere. -/
theorem LoopEnds.of_released {next : PluginRegistry} {result : Outcome}
    (ends : LoopEnds next address rest result) (released : Released registry next)
    (kept : ∀ other ∈ rest, Untouched registry next other) :
    LoopEnds registry address rest result := by
  constructor
  · intro outcome resultEq
    rcases ends.1 outcome resultEq with ⟨later, unloading, others⟩
    refine ⟨released.trans later, unloading, fun other mem => ?_⟩
    exact (kept other mem).trans (others other mem)
  · intro undangling
    exact ends.2 (released.undangling undangling)

/-- A dependent that is available is done with. -/
theorem DoneFrom.cons {dependent : Address} (done : DoneFrom registry address (position + 1))
    (entryEq : (registry.dependentsOf address)[position]? = some dependent)
    (available : registry.stateOf dependent = some .available) :
    DoneFrom registry address position := by
  intro later other le otherEq
  rcases Nat.eq_or_lt_of_le le with rfl | less
  · rw [entryEq] at otherEq
    cases otherEq
    exact available
  · exact done later other less otherEq

/-- There is room for a nested call as long as a dependent is loaded. -/
theorem Layered.pos_of_loaded (layered : registry.Layered) {dependent : Address}
    (loaded : registry.stateOf dependent = some .loaded)
    (enough : tally unloadWeight registry.plugins registry.stateOf * (registry.nextAddress + 1) +
      (registry.nextAddress - address) ≤ depth) : 0 < depth := by
  have alive : (registry.data dependent).isSome := by
    rcases Option.map_eq_some_iff.mp loaded with ⟨current, currentEq, _⟩
    rw [currentEq]
    rfl
  have fewer := tally_unload_lt (layered.grounded.listed dependent alive) loaded
  have product := Nat.mul_le_mul_right (registry.nextAddress + 1) (Nat.succ_le_of_lt fewer)
  rw [Nat.succ_mul] at product
  omega

/-- The call that unloads a dependent ends. -/
theorem CallsEnd.dependent (calls : CallsEnd depth) (layered : registry.Layered)
    (nodup : (address :: rest).Nodup) (waiting : Waiting registry (address :: rest))
    {dependent : Address} {plugin : PluginData}
    (entryEq : (registry.dependentsOf address)[position]? = some dependent)
    (done : DoneFrom registry address (position + 1))
    (dataEq : registry.data dependent = some plugin) (state : plugin.state = .loaded)
    (enough : tally unloadWeight registry.plugins registry.stateOf * (registry.nextAddress + 1) +
      (registry.nextAddress - address) ≤ depth) :
    CallEnds registry (address :: rest)
      (unloadPlugin depth registry plugin.info.internalName) := by
  have loaded : registry.stateOf dependent = some .loaded :=
    (stateOf_eq dataEq).trans (congrArg some state)
  apply calls registry (address :: rest) plugin.info.internalName layered nodup waiting _
    (layered.pos_of_loaded loaded enough)
  · intro child indexEq notAvailable
    exact layered.rank_lt indexEq notAvailable
      (layered.waits entryEq done dataEq state indexEq).2 enough
  · rintro _ _ child ⟨rfl, rfl⟩ indexEq
    exact layered.waits entryEq done dataEq state indexEq

/-- The loop ends if the call about its next dependent does, and what is left of it. -/
theorem CallEnds.loop {unload : PluginRegistry → String → Outcome} {dependent : PluginData}
    (called : CallEnds registry (address :: rest) (unload registry dependent.info.internalName))
    (visitedEq : registry.visited address position = some dependent)
    (loaded : dependent.state = .loaded) (unloading : registry.stateOf address = some .unloading)
    (goOn : ∀ reached, Released registry reached →
      (∀ other ∈ address :: rest, Untouched registry reached other) →
        ∃ next, reached.modify address (fun current =>
            { current with dependents := swapEraseAt current.dependents position }) = some next ∧
          LoopEnds registry address rest (unloadDependents unload address position next)) :
    LoopEnds registry address rest
      (unloadDependents unload address (position + 1) registry) := by
  rw [unloadDependents_loaded visitedEq loaded]
  constructor
  · intro outcome unloadEq
    cases callEq : unload registry dependent.info.internalName with
    | none => simp [callEq] at unloadEq
    | some result =>
        rcases called.1 result callEq with ⟨released, kept⟩
        rcases result with ⟨reached, message | message⟩
        · rcases goOn reached released kept with ⟨next, eraseEq, ends⟩
          simp only [callEq, eraseEq, Option.bind_some] at unloadEq
          exact ends.1 outcome unloadEq
        · simp only [callEq, Option.some.injEq] at unloadEq
          rw [← unloadEq]
          refine ⟨released, ?_, fun other mem => kept other (List.mem_cons_of_mem _ mem)⟩
          exact (kept address List.mem_cons_self).2.trans unloading
  · intro undangling
    rcases called.2 undangling with ⟨result, callEq⟩
    rcases called.1 result callEq with ⟨released, kept⟩
    rcases result with ⟨reached, message | message⟩
    · rcases goOn reached released kept with ⟨next, eraseEq, ends⟩
      simp only [callEq, eraseEq, Option.bind_some]
      exact ends.2 undangling
    · simp only [callEq]
      exact ⟨_, rfl⟩

/-- The loop over the dependents of a plugin ends if the calls in it do. -/
theorem CallsEnd.loop (calls : CallsEnd depth) (layered : registry.Layered)
    (nodup : (address :: rest).Nodup) (waiting : Waiting registry (address :: rest))
    (inside : position ≤ (registry.dependentsOf address).length)
    (done : DoneFrom registry address position)
    (enough : tally unloadWeight registry.plugins registry.stateOf * (registry.nextAddress + 1) +
      (registry.nextAddress - address) ≤ depth) :
    LoopEnds registry address rest
      (unloadDependents (unloadPlugin depth) address position registry) := by
  induction position generalizing registry with
  | zero => exact loopEnds_of_stopped (waiting.state List.mem_cons_self) rfl
  | succ position ih =>
      have unloading := waiting.state List.mem_cons_self
      have entryEq := List.getElem?_eq_getElem inside
      generalize (registry.dependentsOf address)[position] = dependent at entryEq
      cases dataEq : registry.data dependent with
      | none =>
          have visitedEq : registry.visited address position = none := by
            rw [visited, entryEq, Option.bind_some, dataEq]
          rw [unloadDependents_unreadable visitedEq]
          refine ⟨fun outcome unloadEq => by simp at unloadEq, fun undangling => ?_⟩
          have alive := undangling address dependent (List.mem_of_getElem? entryEq)
          rw [dataEq] at alive
          cases alive
      | some plugin =>
          have visitedEq : registry.visited address position = some plugin :=
            Option.bind_eq_some_iff.mpr ⟨dependent, entryEq, dataEq⟩
          cases state : plugin.state with
          | available =>
              have doneHere := done.cons entryEq ((stateOf_eq dataEq).trans (congrArg some state))
              rw [unloadDependents_available visitedEq state]
              exact ih layered waiting (Nat.le_of_succ_le inside) doneHere enough
          | loading =>
              rcases @unloadDependents_circular _ _ _ (unloadPlugin depth) _ visitedEq
                (Or.inl state) with ⟨text, stopEq⟩
              exact loopEnds_of_stopped unloading stopEq
          | unloading =>
              rcases @unloadDependents_circular _ _ _ (unloadPlugin depth) _ visitedEq
                (Or.inr state) with ⟨text, stopEq⟩
              exact loopEnds_of_stopped unloading stopEq
          | loaded =>
              have called :=
                calls.dependent layered nodup waiting entryEq done dataEq state enough
              apply called.loop visitedEq state unloading
              intro reached released kept
              rcases released.exists_erase layered nodup waiting kept inside done with
                ⟨next, eraseEq, nextReleased, nextWaiting, nextInside, nextDone, restKept⟩
              have nextEnough : tally unloadWeight next.plugins next.stateOf *
                  (next.nextAddress + 1) + (next.nextAddress - address) ≤ depth := by
                rw [nextReleased.same.nextAddress]
                refine Nat.le_trans (Nat.add_le_add_right ?_ _) enough
                exact Nat.mul_le_mul_right _ nextReleased.tally_le
              have later := ih (nextReleased.layered layered) nextWaiting nextInside nextDone
                nextEnough
              exact ⟨next, eraseEq, later.of_released nextReleased restKept⟩

/-- Marking a plugin that is not waited for makes it the innermost one. -/
theorem Layered.waiting_begin (layered : registry.Layered) {path : List Address}
    {child : Address} {plugin : PluginData} {name : String}
    (indexEq : registry.pluginsByName name = some child)
    (dataEq : registry.data child = some plugin) (notAvailable : plugin.state ≠ .available)
    (fresh : child ∉ path) (waiting : Waiting registry path)
    (next : ∀ parent others, path = parent :: others → Waits registry parent child) :
    Waiting (registry.beginUnloading child plugin) (child :: path) ∧
      ∀ other ∈ path, Untouched registry (registry.beginUnloading child plugin) other := by
  have released := released_beginUnloading dataEq ⟨name, indexEq⟩ notAvailable
  have marked : (registry.beginUnloading child plugin).stateOf child = some .unloading := by
    rw [beginUnloading, stateOf_write, if_pos rfl]
  have kept : ∀ other ∈ path, Untouched registry (registry.beginUnloading child plugin) other := by
    intro other mem
    refine ⟨dependentsOf_write_state dataEq _ _, ?_⟩
    have other_ne : other ≠ child := by
      rintro rfl
      exact fresh mem
    rw [beginUnloading, stateOf_write, if_neg other_ne]
  refine ⟨?_, kept⟩
  cases path with
  | nil => exact marked
  | cons parent others =>
      refine ⟨marked, ?_, released.waiting layered.grounded kept waiting⟩
      exact released.waits layered.grounded (kept parent List.mem_cons_self).1
        (next parent others rfl)

/-- A call that is refused. -/
theorem callEnds_of_refused {path : List Address} {result : Outcome} {text : String}
    (resultEq : result = some (registry, some text)) : CallEnds registry path result := by
  subst resultEq
  constructor
  · rintro _ ⟨rfl⟩
    exact ⟨Released.refl registry, fun other _ => Untouched.refl registry other⟩
  · intro _
    exact ⟨_, rfl⟩

section Call

variable {path : List Address} {child : Address} {name : String} {plugin : PluginData}

/-- A plugin that waits already is only reached through a name, and refused. -/
theorem Waiting.callEnds (waiting : Waiting registry path) (allocated : registry.Allocated)
    (indexEq : registry.pluginsByName name = some child) (again : child ∈ path)
    (next : ∀ parent rest, path = parent :: rest →
      registry.stateOf child = some .loaded ∨ parent < child)
    (enough : unloadRank registry child < depth) :
    CallEnds registry path (unloadPlugin depth registry name) := by
  have refuses : Refuses registry child := by
    cases path with
    | nil => cases again
    | cons parent others =>
        rcases waiting.refuses_or_le allocated again with refuses | ⟨le, _⟩
        · exact refuses
        · rcases next parent others rfl with loaded | less
          · rw [waiting.state again] at loaded
            cases loaded
          · exact absurd le (Nat.not_le_of_lt less)
  rcases refuses depth name indexEq with ⟨unchanged, ends⟩
  constructor
  · intro outcome unloadEq
    rw [(unchanged outcome unloadEq).1]
    exact ⟨Released.refl registry, fun other _ => Untouched.refl registry other⟩
  · intro _
    exact ends enough

/-- The end of a call leaves the other plugins alone. -/
theorem untouched_finishUnloading {reached : PluginRegistry} {current : PluginData}
    {other : Address} (currentEq : reached.data child = some current) (other_ne : other ≠ child) :
    Untouched reached (reached.finishUnloading child current) other := by
  constructor
  · exact dependentsOf_write_state currentEq .available other
  · have written := stateOf_write reached child other { current with state := .available }
    rw [if_neg other_ne] at written
    exact written

/-- A call ends if its loop does. -/
theorem LoopEnds.callEnds (indexEq : registry.pluginsByName name = some child)
    (dataEq : registry.data child = some plugin) (notAvailable : plugin.state ≠ .available)
    (allowed : plugin.info.allowDynamicUnload = true) (fresh : child ∉ path)
    (begun : ∀ other ∈ path, Untouched registry (registry.beginUnloading child plugin) other)
    (loop : LoopEnds (registry.beginUnloading child plugin) child path
      (unloadDependents (unloadPlugin depth) child plugin.dependents.length
        (registry.beginUnloading child plugin))) :
    CallEnds registry path (unloadPlugin (depth + 1) registry name) := by
  have released := released_beginUnloading dataEq ⟨name, indexEq⟩ notAvailable
  have kept := loop.of_released released begun
  rw [unloadPlugin_begins indexEq dataEq notAvailable allowed]
  constructor
  · intro outcome unloadEq
    cases loopEq : unloadDependents (unloadPlugin depth) child plugin.dependents.length
        (registry.beginUnloading child plugin) with
    | none => simp [loopEq] at unloadEq
    | some stopped =>
        rcases kept.1 stopped loopEq with ⟨loopReleased, _, others⟩
        rcases stopped with ⟨reached, message | message⟩
        · simp only [loopEq] at unloadEq
          rcases Option.map_eq_some_iff.mp unloadEq with ⟨current, currentEq, rfl⟩
          have stillIndexed : reached.pluginsByName name = some child := by
            rw [loopReleased.same.pluginsByName, indexEq]
          refine ⟨loopReleased.trans
            (released_finishUnloading currentEq ⟨name, stillIndexed⟩), ?_⟩
          intro other mem
          have other_ne : other ≠ child := by
            rintro rfl
            exact fresh mem
          exact (others other mem).trans (untouched_finishUnloading currentEq other_ne)
        · simp only [loopEq, Option.some.injEq] at unloadEq
          rw [← unloadEq]
          exact ⟨loopReleased, others⟩
  · intro undangling
    rcases kept.2 undangling with ⟨⟨reached, message⟩, loopEq⟩
    rcases kept.1 _ loopEq with ⟨_, stillUnloading, _⟩
    rw [loopEq]
    cases message with
    | some content => exact ⟨_, rfl⟩
    | none =>
        rcases Option.map_eq_some_iff.mp stillUnloading with ⟨current, currentEq, _⟩
        have alive : reached.data child = some current := currentEq
        simp only [alive, Option.map_some]
        exact ⟨_, rfl⟩

/-- A call ends if the calls that are nested in it do. -/
theorem CallsEnd.call (calls : CallsEnd depth) (layered : registry.Layered)
    (nodup : path.Nodup) (waiting : Waiting registry path)
    (indexEq : registry.pluginsByName name = some child)
    (dataEq : registry.data child = some plugin) (notAvailable : plugin.state ≠ .available)
    (allowed : plugin.info.allowDynamicUnload = true) (fresh : child ∉ path)
    (next : ∀ parent others, path = parent :: others → Waits registry parent child)
    (enough : unloadRank registry child < depth + 1) :
    CallEnds registry path (unloadPlugin (depth + 1) registry name) := by
  have released := released_beginUnloading dataEq ⟨name, indexEq⟩ notAvailable
  rcases layered.waiting_begin indexEq dataEq notAvailable fresh waiting next with
    ⟨begunWaiting, begunKept⟩
  have lists : (registry.beginUnloading child plugin).dependentsOf child = plugin.dependents := by
    rw [beginUnloading, dependentsOf_write, if_pos rfl]
  have allDone : DoneFrom (registry.beginUnloading child plugin) child
      plugin.dependents.length := by
    intro later other le entryEq
    rw [lists, List.getElem?_eq_none le] at entryEq
    cases entryEq
  have enoughLoop : tally unloadWeight (registry.beginUnloading child plugin).plugins
      (registry.beginUnloading child plugin).stateOf *
        ((registry.beginUnloading child plugin).nextAddress + 1) +
        ((registry.beginUnloading child plugin).nextAddress - child) ≤ depth := by
    rw [beginUnloading, stateOf_write_eq]
    exact Nat.le_of_lt_succ enough
  have loop := calls.loop (released.layered layered) (List.nodup_cons.mpr ⟨fresh, nodup⟩)
    begunWaiting (by rw [lists]) allDone enoughLoop
  exact loop.callEnds indexEq dataEq notAvailable allowed fresh begunKept

end Call

/-- All nested calls end. -/
theorem callsEnd (depth : Nat) : CallsEnd depth := by
  induction depth with
  | zero =>
      intro registry path name _ _ _ _ positive
      exact absurd positive (Nat.lt_irrefl _)
  | succ depth ih =>
      intro registry path name layered nodup waiting next _ enough
      cases indexEq : registry.pluginsByName name with
      | none =>
          rcases unloadPlugin_unknown depth indexEq with ⟨text, refusedEq⟩
          exact callEnds_of_refused refusedEq
      | some child =>
          rcases layered.grounded.indexed name child indexEq with ⟨plugin, dataEq, _⟩
          by_cases begins : plugin.state ≠ .available ∧ plugin.info.allowDynamicUnload = true
          · rcases begins with ⟨notAvailable, allowed⟩
            have enoughHere : unloadRank registry child < depth + 1 := by
              apply enough child indexEq
              rw [stateOf_eq dataEq, ne_eq, Option.some.injEq]
              exact notAvailable
            by_cases again : child ∈ path
            · exact waiting.callEnds layered.allocated indexEq again
                (fun parent others pathEq => (next parent others child pathEq indexEq).2)
                enoughHere
            · exact ih.call layered nodup waiting indexEq dataEq notAvailable allowed again
                (fun parent others pathEq => (next parent others child pathEq indexEq).1)
                enoughHere
          · rcases unloadPlugin_refused depth indexEq dataEq begins with ⟨text, refusedEq⟩
            exact callEnds_of_refused refusedEq

end Ends

end VoxelEngine.Plugin.PluginRegistry
