import Mathlib.Logic.Relation
import VoxelEngine.Plugin.LoadWalk

/-!
# When loading a plugin succeeds

A plugin can be loaded if all that it requires can be, down to plugins that require nothing else.
Going through the dependencies in their order finds out whether this is so, unless a plugin that
is only wanted as an option gets in the way.
-/

namespace VoxelEngine.Plugin.PluginRegistry

open Relation

/-- No plugin is known by two names. -/
def Distinct (known : String → Option (Address × PluginInfo)) : Prop :=
  ∀ name other plugin info otherInfo, known name = some (plugin, info) →
    known other = some (plugin, otherInfo) → name = other

/-- A plugin that is known by this name is loaded. -/
def IsLoaded (known : String → Option (Address × PluginInfo)) (states : States) (name : String) :
    Prop :=
  ∃ plugin info, known name = some (plugin, info) ∧ states plugin = some .loaded

/-- The plugin that a dependency names is known, in a version that will do. -/
def Suits (known : String → Option (Address × PluginInfo)) (dependency : Dependency) : Prop :=
  ∃ plugin info, known dependency.internalName = some (plugin, info) ∧
    dependency.requiredVersion.contains info.version = true

/-- The plugin that a dependency names is loaded, in a version that will do. -/
def Met (known : String → Option (Address × PluginInfo)) (states : States)
    (dependency : Dependency) : Prop :=
  ∃ plugin, standing known states dependency = .loaded plugin

/-- A plugin is available, may be loaded, and all that it requires is loaded or can be loaded as
well. -/
inductive Loadable (known : String → Option (Address × PluginInfo)) (states : States)
    (dynamic : Bool) : String → Prop
  | intro {name plugin info} :
      known name = some (plugin, info) →
      states plugin = some .available →
      (info.allowDynamicLoad = true ∨ dynamic = false) →
      (∀ dependency ∈ info.dependencies, dependency.required = true → Suits known dependency) →
      (∀ dependency ∈ info.dependencies, dependency.required = true →
        ¬IsLoaded known states dependency.internalName →
          Loadable known states dynamic dependency.internalName) →
      Loadable known states dynamic name

/-- One plugin requires another one, which is not loaded yet. -/
def Requires (known : String → Option (Address × PluginInfo)) (states : States)
    (name other : String) : Prop :=
  ∃ plugin info dependency, known name = some (plugin, info) ∧ dependency ∈ info.dependencies ∧
    dependency.required = true ∧ dependency.internalName = other ∧ ¬IsLoaded known states other

/-- Which dependencies are looked at, and in which states, while a list of them is gone through. -/
inductive Visits (known : String → Option (Address × PluginInfo)) :
    States → List Dependency → States → Dependency → Prop
  | here {states dependency rest} : Visits known states (dependency :: rest) states dependency
  | nested {states dependency rest plugin info reached visited} :
      standing known states dependency = .begins plugin info →
      Visits known (Function.update states plugin (some .loading)) info.dependencies reached
        visited →
      Visits known states (dependency :: rest) reached visited
  | later {states dependency rest middle reached visited} :
      Walk known states [dependency] middle true →
      Visits known middle rest reached visited →
      Visits known states (dependency :: rest) reached visited

/-- While a list of dependencies is gone through, nothing that is wanted begins to be loaded at a
time when something that it requires itself is only half way. -/
def InTurn (known : String → Option (Address × PluginInfo)) (base : States)
    (wanted : String → Prop) (states : States) (dependencies : List Dependency) : Prop :=
  ∀ reached visited began info, Visits known states dependencies reached visited →
    standing known reached visited = .begins began info → wanted visited.internalName →
      ∀ other found foundInfo, TransGen (Requires known base) visited.internalName other →
        known other = some (found, foundInfo) → reached found ≠ some .loading

/-- Nothing that a plugin requires refuses to be loaded, and all of it is loaded in turn. -/
structure Unhindered (known : String → Option (Address × PluginInfo)) (states : States)
    (name : String) : Prop where
  allowed : ∀ other plugin info, ReflTransGen (Requires known states) name other →
    known other = some (plugin, info) → info.allowDynamicLoad = true
  inTurn : ∀ plugin info, known name = some (plugin, info) →
    InTurn known states (TransGen (Requires known states) name)
      (Function.update states plugin (some .loading)) info.dependencies

section Rules

variable {known : String → Option (Address × PluginInfo)} {base states final reached : States}
  {dependencies : List Dependency} {dependency visited : Dependency} {plugin began : Address}
  {info beganInfo : PluginInfo} {name other : String} {success dynamic : Bool}

/-! ## What can be loaded -/

theorem Loadable.requires (loadable : Loadable known states dynamic name)
    (step : Requires known states name other) : Loadable known states dynamic other := by
  rcases loadable with ⟨knownEq, _, _, _, later⟩
  rcases step with ⟨plugin, info, dependency, otherEq, mem, required, rfl, notLoaded⟩
  cases knownEq.symm.trans otherEq
  exact later dependency mem required notLoaded

theorem Loadable.of_reflTransGen (loadable : Loadable known states dynamic name)
    (path : ReflTransGen (Requires known states) name other) :
    Loadable known states dynamic other := by
  induction path with
  | refl => exact loadable
  | tail _ step ih => exact ih.requires step

/-- Nothing that can be loaded requires itself. -/
theorem Loadable.acyclic (loadable : Loadable known states dynamic name) :
    ¬TransGen (Requires known states) name name := by
  induction loadable with
  | intro knownEq _ _ _ _ ih =>
      intro circle
      rcases TransGen.head'_iff.mp circle with ⟨middle, step, back⟩
      rcases step with ⟨plugin, info, dependency, otherEq, mem, required, rfl, notLoaded⟩
      cases knownEq.symm.trans otherEq
      refine ih dependency mem required notLoaded (TransGen.tail' back ?_)
      exact ⟨_, _, dependency, otherEq, mem, required, rfl, notLoaded⟩

/-- A plugin that can be loaded at runtime can be loaded in any case. -/
theorem Loadable.weaken (loadable : Loadable known states true name) (dynamic : Bool) :
    Loadable known states dynamic name := by
  induction loadable with
  | intro knownEq available allowed suits _ ih =>
      refine Loadable.intro knownEq available (Or.inl ?_) suits ih
      exact allowed.resolve_right Bool.true_eq_false.mp

/-! ## What is loaded on the way -/

theorem Met.mono (met : Met known states dependency)
    (kept : ∀ plugin, states plugin = some .loaded → final plugin = some .loaded) :
    Met known final dependency := by
  rcases met with ⟨plugin, standingEq⟩
  rcases standing_eq_loaded_iff.mp standingEq with ⟨info, knownEq, version, stateEq⟩
  exact ⟨plugin, standing_eq_loaded_iff.mpr ⟨info, knownEq, version, kept plugin stateEq⟩⟩

theorem Met.suits (met : Met known states dependency) : Suits known dependency := by
  rcases met with ⟨plugin, standingEq⟩
  rcases standing_eq_loaded_iff.mp standingEq with ⟨info, knownEq, version, _⟩
  exact ⟨plugin, info, knownEq, version⟩

theorem Met.isLoaded (met : Met known states dependency) :
    IsLoaded known states dependency.internalName := by
  rcases met with ⟨plugin, standingEq⟩
  rcases standing_eq_loaded_iff.mp standingEq with ⟨info, knownEq, _, stateEq⟩
  exact ⟨plugin, info, knownEq, stateEq⟩

theorem Walk.loaded (walk : Walk known states dependencies final success)
    (stateEq : states plugin = some .loaded) : final plugin = some .loaded := by
  rw [walk.state_eq (by rw [stateEq]; simp), stateEq]

theorem Walk.loading (walk : Walk known states dependencies final success)
    (stateEq : states plugin = some .loading) : final plugin = some .loading := by
  rw [walk.state_eq (by rw [stateEq]; simp), stateEq]

theorem loaded_update_loading (stateEq : states began = some .available) (plugin : Address)
    (loadedEq : states plugin = some .loaded) :
    Function.update states began (some .loading) plugin = some .loaded := by
  rw [Function.update_of_ne, loadedEq]
  rintro rfl
  rw [stateEq] at loadedEq
  cases loadedEq

theorem loaded_update_loaded (plugin : Address) (loadedEq : states plugin = some .loaded) :
    Function.update states began (some .loaded) plugin = some .loaded := by
  by_cases same : plugin = began
  · rw [same, Function.update_self]
  · rw [Function.update_of_ne same, loadedEq]

/-- What was loaded since the beginning could be loaded then, and what it requires is loaded as
well. -/
structure Progress (known : String → Option (Address × PluginInfo)) (base states : States) :
    Prop where
  available : ∀ plugin, states plugin = some .available → base plugin = some .available
  met : ∀ name plugin info, known name = some (plugin, info) → base plugin ≠ some .loaded →
    states plugin = some .loaded → ∀ dependency ∈ info.dependencies, dependency.required = true →
      Met known states dependency
  loadable : ∀ name plugin info, known name = some (plugin, info) → base plugin ≠ some .loaded →
    states plugin = some .loaded → Loadable known base true name

theorem Progress.refl (known : String → Option (Address × PluginInfo)) (states : States) :
    Progress known states states :=
  ⟨fun _ => id, fun _ _ _ _ notLoaded loaded => absurd loaded notLoaded,
    fun _ _ _ _ notLoaded loaded => absurd loaded notLoaded⟩

/-- A plugin begins to be loaded. -/
theorem Progress.begin (progress : Progress known base states)
    (available : states began = some .available) :
    Progress known base (Function.update states began (some .loading)) := by
  have before : ∀ plugin state, state ≠ .loading →
      Function.update states began (some .loading) plugin = some state →
        states plugin = some state := by
    intro plugin state state_ne stateEq
    by_cases same : plugin = began
    · rw [same, Function.update_self] at stateEq
      exact absurd (Option.some.inj stateEq).symm state_ne
    · rwa [Function.update_of_ne same] at stateEq
  constructor
  · intro plugin stateEq
    exact progress.available plugin (before plugin .available (by decide) stateEq)
  · intro name plugin info knownEq notLoaded stateEq dependency mem required
    have met := progress.met name plugin info knownEq notLoaded
      (before plugin .loaded (by decide) stateEq) dependency mem required
    exact met.mono (loaded_update_loading available)
  · intro name plugin info knownEq notLoaded stateEq
    exact progress.loadable name plugin info knownEq notLoaded
      (before plugin .loaded (by decide) stateEq)

/-- A plugin is loaded after all that it requires. -/
theorem Progress.finish (progress : Progress known base states)
    (distinct : Distinct known)
    (knownEq : known name = some (began, info)) (available : base began = some .available)
    (allowed : info.allowDynamicLoad = true)
    (met : ∀ dependency ∈ info.dependencies, dependency.required = true →
      Met known states dependency) :
    Progress known base (Function.update states began (some .loaded)) := by
  -- What is loaded now is the plugin itself, or was loaded before.
  have split : ∀ other plugin otherInfo, known other = some (plugin, otherInfo) →
      Function.update states began (some .loaded) plugin = some .loaded →
        (other = name ∧ otherInfo = info) ∨ states plugin = some .loaded := by
    intro other plugin otherInfo otherEq stateEq
    by_cases same : plugin = began
    · rw [same] at otherEq
      have name_eq := distinct other name began otherInfo info otherEq knownEq
      rw [name_eq, knownEq] at otherEq
      cases otherEq
      exact Or.inl ⟨name_eq, rfl⟩
    · rw [Function.update_of_ne same] at stateEq
      exact Or.inr stateEq
  constructor
  · intro plugin stateEq
    by_cases same : plugin = began
    · rw [same, available]
    · rw [Function.update_of_ne same] at stateEq
      exact progress.available plugin stateEq
  · intro other plugin otherInfo otherEq notLoaded stateEq dependency mem required
    apply Met.mono _ loaded_update_loaded
    rcases split other plugin otherInfo otherEq stateEq with ⟨_, rfl⟩ | before
    · exact met dependency mem required
    · exact progress.met other plugin otherInfo otherEq notLoaded before dependency mem required
  · intro other plugin otherInfo otherEq notLoaded stateEq
    rcases split other plugin otherInfo otherEq stateEq with ⟨rfl, _⟩ | before
    · refine Loadable.intro knownEq available (Or.inl allowed)
        (fun dependency mem required => (met dependency mem required).suits) ?_
      intro dependency mem required fresh
      rcases (met dependency mem required).isLoaded with ⟨found, foundInfo, foundEq, loaded⟩
      exact progress.loadable _ found foundInfo foundEq
        (fun already => fresh ⟨found, foundInfo, foundEq, already⟩) loaded
    · exact progress.loadable other plugin otherInfo otherEq notLoaded before

/-- Going through a list of dependencies keeps this, and has loaded what is required in it unless
it fails. -/
theorem Walk.progress
    (distinct : Distinct known)
    (walk : Walk known states dependencies final success)
    (progress : Progress known base states) :
    Progress known base final ∧ (success = true →
      ∀ dependency ∈ dependencies, dependency.required = true → Met known final dependency) := by
  induction walk with
  | done => exact ⟨progress, fun _ _ mem => (by cases mem)⟩
  | stop _ _ => exact ⟨progress, fun succeeded => (by cases succeeded)⟩
  | skip optional _ _ ih =>
      refine ⟨(ih progress).1, ?_⟩
      intro succeeded dependency mem required
      rcases List.mem_cons.mp mem with rfl | mem
      · rw [optional] at required
        cases required
      · exact (ih progress).2 succeeded dependency mem required
  | use loaded rest ih =>
      refine ⟨(ih progress).1, ?_⟩
      intro succeeded dependency mem required
      rcases List.mem_cons.mp mem with rfl | mem
      · exact Met.mono ⟨_, loaded⟩ fun _ => rest.loaded
      · exact (ih progress).2 succeeded dependency mem required
  | load begins nested rest nestedIh restIh =>
      rcases standing_eq_begins_iff.mp begins with ⟨knownEq, version, available, allowed⟩
      rcases nestedIh (progress.begin available) with ⟨reached, met⟩
      have finished := reached.finish distinct knownEq (progress.available _ available) allowed
        (met rfl)
      refine ⟨(restIh finished).1, ?_⟩
      intro succeeded dependency mem required
      rcases List.mem_cons.mp mem with rfl | mem
      · refine ⟨_, standing_eq_loaded_iff.mpr ⟨_, knownEq, version, ?_⟩⟩
        exact rest.loaded (Function.update_self _ _ _)
      · exact (restIh finished).2 succeeded dependency mem required
  | abort _ begins _ nestedIh =>
      rcases standing_eq_begins_iff.mp begins with ⟨_, _, available, _⟩
      exact ⟨(nestedIh (progress.begin available)).1, fun succeeded => (by cases succeeded)⟩
  | pass optional begins _ _ nestedIh restIh =>
      rcases standing_eq_begins_iff.mp begins with ⟨_, _, available, _⟩
      have reached := (nestedIh (progress.begin available)).1
      refine ⟨(restIh reached).1, ?_⟩
      intro succeeded dependency mem required
      rcases List.mem_cons.mp mem with rfl | mem
      · rw [optional] at required
        cases required
      · exact (restIh reached).2 succeeded dependency mem required

/-- All that a loaded plugin requires is loaded. -/
theorem Progress.loaded_of_transGen (progress : Progress known base states)
    (loaded : IsLoaded known states name) (fresh : ¬IsLoaded known base name)
    (path : TransGen (Requires known base) name other) :
    IsLoaded known states other ∧ ¬IsLoaded known base other := by
  have next : ∀ first second, IsLoaded known states first → ¬IsLoaded known base first →
      Requires known base first second →
        IsLoaded known states second ∧ ¬IsLoaded known base second := by
    intro first second firstLoaded firstFresh step
    rcases firstLoaded with ⟨plugin, info, knownEq, stateEq⟩
    rcases step with ⟨found, foundInfo, dependency, foundEq, mem, required, rfl, secondFresh⟩
    cases knownEq.symm.trans foundEq
    have met := progress.met first plugin info knownEq
      (fun already => firstFresh ⟨plugin, info, knownEq, already⟩) stateEq dependency mem required
    exact ⟨met.isLoaded, secondFresh⟩
  induction path with
  | single step => exact next _ _ loaded fresh step
  | tail _ step ih => exact next _ _ ih.1 ih.2 step

/-! ## What is looked at -/

/-- Only plugins that are available get another state on the way. -/
theorem Visits.state_eq (visits : Visits known states dependencies reached visited)
    (notAvailable : states plugin ≠ some .available) : reached plugin = states plugin := by
  induction visits with
  | here => rfl
  | @nested states dependency rest began info reached visited begins _ ih =>
      have other : plugin ≠ began := by
        rintro rfl
        exact notAvailable (standing_eq_begins_iff.mp begins).2.2.1
      rw [ih (by rwa [Function.update_of_ne other]), Function.update_of_ne other]
  | later walk _ ih =>
      have kept := walk.state_eq notAvailable
      rw [ih (by rwa [kept]), kept]

theorem Visits.progress
    (distinct : Distinct known)
    (visits : Visits known states dependencies reached visited)
    (progress : Progress known base states) : Progress known base reached := by
  induction visits with
  | here => exact progress
  | nested begins _ ih => exact ih (progress.begin (standing_eq_begins_iff.mp begins).2.2.1)
  | later walk _ ih => exact ih (walk.progress distinct progress).1

/-- What comes after the first of the dependencies. -/
theorem Walk.tail {rest : List Dependency}
    (walk : Walk known states (dependency :: rest) final success)
    (one : Walk known states [dependency] reached true) :
    Walk known reached rest final success := by
  cases walk with
  | stop required refused => cases (Walk.stop required refused).unique one |>.2
  | skip optional refused others =>
      rcases (Walk.skip optional refused Walk.done).unique one with ⟨rfl, _⟩
      exact others
  | use loaded others =>
      rcases (Walk.use loaded Walk.done).unique one with ⟨rfl, _⟩
      exact others
  | load begins nested others =>
      rcases (Walk.load begins nested Walk.done).unique one with ⟨rfl, _⟩
      exact others
  | abort required begins nested => cases (Walk.abort required begins nested).unique one |>.2
  | pass optional begins nested others =>
      rcases (Walk.pass optional begins nested Walk.done).unique one with ⟨rfl, _⟩
      exact others

/-- A plugin that begins to be loaded on the way is loaded, or stays half way. -/
theorem Visits.outcome (visits : Visits known states dependencies reached visited)
    (walk : Walk known states dependencies final success)
    (begins : standing known reached visited = .begins began beganInfo) :
    ∃ middle nestedSuccess,
      Walk known (Function.update reached began (some .loading)) beganInfo.dependencies middle
          nestedSuccess ∧
        (nestedSuccess = false → final began = some .loading) := by
  induction visits generalizing final success with
  | here =>
      cases walk with
      | stop _ refused => cases refused.symm.trans begins
      | skip _ refused _ => cases refused.symm.trans begins
      | use loaded _ => cases loaded.symm.trans begins
      | load otherBegins nested _ =>
          cases otherBegins.symm.trans begins
          exact ⟨_, true, nested, fun failed => by cases failed⟩
      | abort _ otherBegins nested =>
          cases otherBegins.symm.trans begins
          exact ⟨_, false, nested, fun _ => nested.loading (Function.update_self _ _ _)⟩
      | pass _ otherBegins nested rest =>
          cases otherBegins.symm.trans begins
          refine ⟨_, false, nested, fun _ => ?_⟩
          exact rest.loading (nested.loading (Function.update_self _ _ _))
  | @nested states dependency rest outer outerInfo reached visited outerBegins visits ih =>
      have other : began ≠ outer := by
        rintro rfl
        have available := (standing_eq_begins_iff.mp begins).2.2.1
        rw [visits.state_eq (by rw [Function.update_self]; simp), Function.update_self] at available
        cases available
      cases walk with
      | stop _ refused => cases refused.symm.trans outerBegins
      | skip _ refused _ => cases refused.symm.trans outerBegins
      | use loaded _ => cases loaded.symm.trans outerBegins
      | load otherBegins nested after =>
          cases otherBegins.symm.trans outerBegins
          rcases ih nested begins with ⟨middle, nestedSuccess, inner, failed⟩
          refine ⟨middle, nestedSuccess, inner, fun fails => ?_⟩
          exact after.loading (by rw [Function.update_of_ne other, failed fails])
      | abort _ otherBegins nested =>
          cases otherBegins.symm.trans outerBegins
          exact ih nested begins
      | pass _ otherBegins nested after =>
          cases otherBegins.symm.trans outerBegins
          rcases ih nested begins with ⟨middle, nestedSuccess, inner, failed⟩
          exact ⟨middle, nestedSuccess, inner, fun fails => after.loading (failed fails)⟩
  | later one _ ih => exact ih (walk.tail one) begins

/-! ## Success -/

/-- A load that succeeds loads a plugin that can be loaded, at runtime even. -/
theorem Walk.loadable (distinct : Distinct known) (knownEq : known name = some (plugin, info))
    (available : states plugin = some .available) (allowed : info.allowDynamicLoad = true)
    (walk : Walk known (Function.update states plugin (some .loading)) info.dependencies final true) :
    Loadable known states true name := by
  rcases walk.progress distinct ((Progress.refl known states).begin available) with
    ⟨progress, met⟩
  have finished := progress.finish distinct knownEq available allowed (met rfl)
  apply finished.loadable name plugin info knownEq
  · rw [available]
    simp
  · exact Function.update_self _ _ _

/-- A load that succeeds is not hindered. -/
theorem Walk.unhindered (distinct : Distinct known) (knownEq : known name = some (plugin, info))
    (available : states plugin = some .available) (allowed : info.allowDynamicLoad = true)
    (walk : Walk known (Function.update states plugin (some .loading)) info.dependencies final true) :
    Unhindered known states name where
  allowed other otherPlugin otherInfo path otherEq := by
    rcases (walk.loadable distinct knownEq available allowed).of_reflTransGen path with
      ⟨foundEq, _, may, _, _⟩
    cases foundEq.symm.trans otherEq
    exact may.resolve_right Bool.true_eq_false.mp
  inTurn found foundInfo foundEq reached visited began beganInfo visits begins needed other
      otherPlugin otherInfo path otherEq stateEq := by
    cases knownEq.symm.trans foundEq
    have start := (Progress.refl known states).begin available
    have stillLoading : reached plugin = some .loading := by
      rw [visits.state_eq (by rw [Function.update_self]; simp), Function.update_self]
    rcases standing_eq_begins_iff.mp begins with ⟨beganEq, _, beganAvailable, beganAllowed⟩
    have progress := visits.progress distinct start
    rcases visits.outcome walk begins with ⟨middle, success, nested, failed⟩
    cases success with
    | true =>
        -- What the nested load requires is loaded with it, and was half way all the time.
        rcases nested.progress distinct (progress.begin beganAvailable) with ⟨reachedEnd, met⟩
        have finished := reachedEnd.finish distinct beganEq
          (progress.available began beganAvailable) beganAllowed (met rfl)
        rcases (finished.loaded_of_transGen
          ⟨began, beganInfo, beganEq, Function.update_self _ _ _⟩ (by
            rintro ⟨same, sameInfo, sameEq, already⟩
            cases beganEq.symm.trans sameEq
            rw [progress.available began beganAvailable] at already
            cases already) path).1 with ⟨same, sameInfo, sameEq, loaded⟩
        cases otherEq.symm.trans sameEq
        have other_ne : otherPlugin ≠ began := by
          rintro rfl
          rw [beganAvailable] at stateEq
          cases stateEq
        rw [Function.update_of_ne other_ne,
          nested.loading (by rw [Function.update_of_ne other_ne, stateEq])] at loaded
        cases loaded
    | false =>
        -- The plugin that the nested load leaves half way is required to be loaded.
        rcases walk.progress distinct start with ⟨reachedEnd, met⟩
        have finished := reachedEnd.finish distinct knownEq available allowed (met rfl)
        rcases (finished.loaded_of_transGen
          ⟨plugin, info, knownEq, Function.update_self _ _ _⟩ (by
            rintro ⟨same, sameInfo, sameEq, already⟩
            cases knownEq.symm.trans sameEq
            rw [available] at already
            cases already) needed).1 with ⟨same, sameInfo, sameEq, loaded⟩
        cases beganEq.symm.trans sameEq
        have other_ne : began ≠ plugin := by
          rintro rfl
          rw [beganAvailable] at stillLoading
          cases stillLoading
        rw [Function.update_of_ne other_ne, failed rfl] at loaded
        cases loaded

/-- The plugins that are needed in the end, all of which can be loaded. -/
structure Wanted (known : String → Option (Address × PluginInfo)) (base : States)
    (wanted : String → Prop) : Prop where
  distinct : Distinct known
  loadable : ∀ name, wanted name → Loadable known base true name
  closed : ∀ name other, wanted name → Requires known base name other → wanted other

/-- How far the load of plugins that are needed can have come. -/
structure Tame (known : String → Option (Address × PluginInfo)) (base states : States)
    (wanted : String → Prop) : Prop where
  loaded : ∀ plugin, base plugin = some .loaded → states plugin = some .loaded
  wanted : ∀ name plugin info, wanted name → known name = some (plugin, info) →
    states plugin = some .available ∨ states plugin = some .loading ∨
      states plugin = some .loaded

/-- A required dependency that is not half way. -/
structure Ready (known : String → Option (Address × PluginInfo)) (base states : States)
    (wanted : String → Prop) (dependency : Dependency) : Prop where
  suits : Suits known dependency
  wanted : ¬IsLoaded known base dependency.internalName → wanted dependency.internalName
  notLoading : ∀ plugin info, known dependency.internalName = some (plugin, info) →
    states plugin ≠ some .loading

section Wanted

variable {wanted : String → Prop}

theorem Tame.begin (tame : Tame known base states wanted)
    (available : states began = some .available) :
    Tame known base (Function.update states began (some .loading)) wanted where
  loaded plugin stateEq := loaded_update_loading available plugin (tame.loaded plugin stateEq)
  wanted name plugin info isWanted knownEq := by
    by_cases same : plugin = began
    · rw [same, Function.update_self]
      exact Or.inr (Or.inl rfl)
    · rw [Function.update_of_ne same]
      exact tame.wanted name plugin info isWanted knownEq

theorem Tame.finish (tame : Tame known base states wanted) (began : Address) :
    Tame known base (Function.update states began (some .loaded)) wanted where
  loaded plugin stateEq := loaded_update_loaded plugin (tame.loaded plugin stateEq)
  wanted name plugin info isWanted knownEq := by
    by_cases same : plugin = began
    · rw [same, Function.update_self]
      exact Or.inr (Or.inr rfl)
    · rw [Function.update_of_ne same]
      exact tame.wanted name plugin info isWanted knownEq

theorem Walk.tame (walk : Walk known states dependencies final success)
    (tame : Tame known base states wanted) : Tame known base final wanted := by
  induction walk with
  | done => exact tame
  | stop _ _ => exact tame
  | skip _ _ _ ih => exact ih tame
  | use _ _ ih => exact ih tame
  | load begins _ _ nestedIh restIh =>
      exact restIh ((nestedIh (tame.begin (standing_eq_begins_iff.mp begins).2.2.1)).finish _)
  | abort _ begins _ nestedIh =>
      exact nestedIh (tame.begin (standing_eq_begins_iff.mp begins).2.2.1)
  | pass _ begins _ _ nestedIh restIh =>
      exact restIh (nestedIh (tame.begin (standing_eq_begins_iff.mp begins).2.2.1))

/-- A dependency that is ready is not refused. -/
theorem Ready.not_refused (ready : Ready known base states wanted dependency)
    (every : Wanted known base wanted) (tame : Tame known base states wanted) :
    standing known states dependency ≠ .refused := by
  intro refused
  rcases ready.suits with ⟨plugin, info, knownEq, version⟩
  have usable : states plugin ≠ some .loaded := by
    intro loaded
    cases refused.symm.trans (standing_eq_loaded_iff.mpr ⟨info, knownEq, version, loaded⟩)
  have fresh : ¬IsLoaded known base dependency.internalName := by
    rintro ⟨found, foundInfo, foundEq, loaded⟩
    cases knownEq.symm.trans foundEq
    exact usable (tame.loaded plugin loaded)
  rcases every.loadable _ (ready.wanted fresh) with ⟨foundEq, _, may, _, _⟩
  cases knownEq.symm.trans foundEq
  have allowed := may.resolve_right Bool.true_eq_false.mp
  rcases tame.wanted _ plugin info (ready.wanted fresh) knownEq with available | loading | loaded
  · cases refused.symm.trans
      (standing_eq_begins_iff.mpr ⟨knownEq, version, available, allowed⟩)
  · exact ready.notLoading plugin info knownEq loading
  · exact usable loaded

theorem Ready.mono (ready : Ready known base states wanted dependency)
    (tame : Tame known base final wanted)
    (kept : ∀ name plugin info, wanted name → known name = some (plugin, info) →
      states plugin ≠ some .loading → final plugin ≠ some .loading) :
    Ready known base final wanted dependency where
  suits := ready.suits
  wanted := ready.wanted
  notLoading plugin info knownEq := by
    by_cases already : IsLoaded known base dependency.internalName
    · rcases already with ⟨found, foundInfo, foundEq, loaded⟩
      cases knownEq.symm.trans foundEq
      rw [tame.loaded plugin loaded]
      simp
    · exact kept _ plugin info (ready.wanted already) knownEq
        (ready.notLoading plugin info knownEq)

/-- What a plugin requires is ready when it begins to be loaded. -/
theorem Wanted.ready (every : Wanted known base wanted) (tame : Tame known base states wanted)
    (knownEq : known name = some (began, info)) (available : states began = some .available)
    (loadable : Loadable known base true name)
    (requires : ∀ other, Requires known base name other → wanted other)
    (behind : ∀ other found foundInfo, TransGen (Requires known base) name other →
      known other = some (found, foundInfo) → states found ≠ some .loading) :
    ∀ dependency ∈ info.dependencies, dependency.required = true →
      Ready known base (Function.update states began (some .loading)) wanted dependency := by
  intro dependency mem required
  have acyclic := loadable.acyclic
  rcases loadable with ⟨sameEq, _, _, suits, _⟩
  cases knownEq.symm.trans sameEq
  have step : ¬IsLoaded known base dependency.internalName →
      Requires known base name dependency.internalName :=
    fun fresh => ⟨began, info, dependency, knownEq, mem, required, rfl, fresh⟩
  refine ⟨suits dependency mem required, fun fresh => requires _ (step fresh), ?_⟩
  intro found foundInfo foundEq
  by_cases already : IsLoaded known base dependency.internalName
  · rcases already with ⟨other, otherInfo, otherEq, loaded⟩
    cases foundEq.symm.trans otherEq
    rw [loaded_update_loading available found (tame.loaded found loaded)]
    simp
  · have path := TransGen.single (step already)
    have other_ne : found ≠ began := by
      rintro rfl
      rw [← every.distinct _ _ _ _ _ knownEq foundEq] at path
      exact acyclic path
    rw [Function.update_of_ne other_ne]
    exact behind _ found foundInfo path foundEq

/-- A wanted plugin that begins to be loaded does not fail, and other ones leave nothing that is
wanted half way, if this is so for what is nested in them. -/
theorem Wanted.of_failed {middle : States} {rest : List Dependency}
    (every : Wanted known base wanted) (tame : Tame known base states wanted)
    (begins : standing known states dependency = .begins began info)
    (inTurn : InTurn known base wanted states (dependency :: rest))
    (kept : ∀ name plugin info, wanted name → known name = some (plugin, info) →
      Function.update states began (some .loading) plugin ≠ some .loading →
        middle plugin ≠ some .loading)
    (failed : ¬∀ inner ∈ info.dependencies, inner.required = true →
      Ready known base (Function.update states began (some .loading)) wanted inner) :
    ¬wanted dependency.internalName ∧
      ∀ name plugin info, wanted name → known name = some (plugin, info) →
        states plugin ≠ some .loading → middle plugin ≠ some .loading := by
  rcases standing_eq_begins_iff.mp begins with ⟨beganEq, _, available, _⟩
  have unwanted : ¬wanted dependency.internalName := by
    intro isWanted
    apply failed
    exact every.ready tame beganEq available (every.loadable _ isWanted)
      (fun other => every.closed _ other isWanted)
      (inTurn states dependency began info Visits.here begins isWanted)
  refine ⟨unwanted, ?_⟩
  intro name plugin otherInfo isWanted knownEq notLoading
  apply kept name plugin otherInfo isWanted knownEq
  rw [Function.update_of_ne]
  · exact notLoading
  · rintro rfl
    rw [every.distinct _ _ _ _ _ knownEq beganEq] at isWanted
    exact unwanted isWanted

theorem InTurn.nested {rest : List Dependency}
    (inTurn : InTurn known base wanted states (dependency :: rest))
    (begins : standing known states dependency = .begins began info) :
    InTurn known base wanted (Function.update states began (some .loading)) info.dependencies :=
  fun reached visited other otherInfo visits =>
    inTurn reached visited other otherInfo (Visits.nested begins visits)

theorem InTurn.later {rest : List Dependency}
    (inTurn : InTurn known base wanted states (dependency :: rest))
    (one : Walk known states [dependency] reached true) :
    InTurn known base wanted reached rest :=
  fun further visited other otherInfo visits =>
    inTurn further visited other otherInfo (Visits.later one visits)

/-- Going through dependencies in turn leaves nothing that is wanted half way, and succeeds if
those that are required are ready. -/
theorem Walk.succeeds (every : Wanted known base wanted)
    (walk : Walk known states dependencies final success)
    (tame : Tame known base states wanted)
    (inTurn : InTurn known base wanted states dependencies) :
    (∀ name plugin info, wanted name → known name = some (plugin, info) →
        states plugin ≠ some .loading → final plugin ≠ some .loading) ∧
      ((∀ dependency ∈ dependencies, dependency.required = true →
        Ready known base states wanted dependency) → success = true) := by
  induction walk with
  | done => exact ⟨fun _ _ _ _ _ => id, fun _ => rfl⟩
  | stop required refused =>
      refine ⟨fun _ _ _ _ _ => id, fun ready => ?_⟩
      exact absurd refused ((ready _ List.mem_cons_self required).not_refused every tame)
  | skip optional refused _ ih =>
      rcases ih tame (inTurn.later (Walk.skip optional refused Walk.done)) with ⟨kept, succeeds⟩
      exact ⟨kept, fun ready => succeeds fun inner mem => ready inner (List.mem_cons_of_mem _ mem)⟩
  | use loaded _ ih =>
      rcases ih tame (inTurn.later (Walk.use loaded Walk.done)) with ⟨kept, succeeds⟩
      exact ⟨kept, fun ready => succeeds fun inner mem => ready inner (List.mem_cons_of_mem _ mem)⟩
  | @load states dependency rest began info middle final success begins nested _ nestedIh restIh =>
      have available := (standing_eq_begins_iff.mp begins).2.2.1
      rcases nestedIh (tame.begin available) (inTurn.nested begins) with ⟨inner, _⟩
      have between : ∀ name plugin info, wanted name → known name = some (plugin, info) →
          states plugin ≠ some .loading →
            Function.update middle began (some .loaded) plugin ≠ some .loading := by
        intro name plugin info isWanted knownEq notLoading
        by_cases same : plugin = began
        · rw [same, Function.update_self]
          simp
        · rw [Function.update_of_ne same]
          apply inner name plugin info isWanted knownEq
          rwa [Function.update_of_ne same]
      have after := (nested.tame (tame.begin available)).finish began
      rcases restIh after (inTurn.later (Walk.load begins nested Walk.done)) with
        ⟨kept, succeeds⟩
      constructor
      · intro name plugin info isWanted knownEq notLoading
        exact kept name plugin info isWanted knownEq
          (between name plugin info isWanted knownEq notLoading)
      · intro ready
        apply succeeds
        intro inner mem required
        exact (ready inner (List.mem_cons_of_mem _ mem) required).mono after between
  | @abort states dependency rest began info final required begins _ nestedIh =>
      rcases standing_eq_begins_iff.mp begins with ⟨beganEq, _, available, _⟩
      rcases nestedIh (tame.begin available) (inTurn.nested begins) with ⟨inner, fails⟩
      rcases every.of_failed tame begins inTurn inner (fun ready => by cases fails ready) with
        ⟨unwanted, kept⟩
      refine ⟨kept, fun ready => ?_⟩
      -- The plugin was not loaded in the beginning, so that it is wanted if it is required.
      refine absurd ((ready dependency List.mem_cons_self required).wanted ?_) unwanted
      rintro ⟨found, foundInfo, foundEq, loaded⟩
      cases beganEq.symm.trans foundEq
      rw [tame.loaded began loaded] at available
      cases available
  | @pass states dependency rest began info middle final success optional begins nested _ nestedIh
      restIh =>
      have available := (standing_eq_begins_iff.mp begins).2.2.1
      rcases nestedIh (tame.begin available) (inTurn.nested begins) with ⟨inner, fails⟩
      rcases every.of_failed tame begins inTurn inner (fun ready => by cases fails ready) with
        ⟨_, between⟩
      have after := nested.tame (tame.begin available)
      rcases restIh after (inTurn.later (Walk.pass optional begins nested Walk.done)) with
        ⟨kept, succeeds⟩
      constructor
      · intro name plugin info isWanted knownEq notLoading
        exact kept name plugin info isWanted knownEq
          (between name plugin info isWanted knownEq notLoading)
      · intro ready
        apply succeeds
        intro inner mem required
        exact (ready inner (List.mem_cons_of_mem _ mem) required).mono after between

end Wanted

/-- A load of a plugin that can be loaded succeeds if it is not hindered. -/
theorem Unhindered.succeeds (unhindered : Unhindered known states name) (distinct : Distinct known)
    (loadable : Loadable known states dynamic name) (knownEq : known name = some (plugin, info))
    (walk : Walk known (Function.update states plugin (some .loading)) info.dependencies final
      success) : success = true := by
  have can : ∀ other, ReflTransGen (Requires known states) name other →
      Loadable known states true other := by
    intro other path
    have at_all := loadable.of_reflTransGen path
    induction at_all with
    | @intro other otherPlugin otherInfo otherEq available _ suits _ ih =>
        refine Loadable.intro otherEq available
          (Or.inl (unhindered.allowed other otherPlugin otherInfo path otherEq)) suits ?_
        intro dependency mem required fresh
        exact ih dependency mem required fresh (path.tail
          ⟨otherPlugin, otherInfo, dependency, otherEq, mem, required, rfl, fresh⟩)
  have every : Wanted known states (TransGen (Requires known states) name) :=
    ⟨distinct, fun other path => can other path.to_reflTransGen,
      fun _ _ path step => path.tail step⟩
  have available : states plugin = some .available := by
    rcases loadable with ⟨foundEq, available, _, _, _⟩
    cases knownEq.symm.trans foundEq
    exact available
  have start : Tame known states states (TransGen (Requires known states) name) := by
    refine ⟨fun _ => id, ?_⟩
    intro other otherPlugin otherInfo path otherEq
    rcases every.loadable other path with ⟨foundEq, otherAvailable, _, _, _⟩
    cases otherEq.symm.trans foundEq
    exact Or.inl otherAvailable
  refine (walk.succeeds every (start.begin available) (unhindered.inTurn plugin info knownEq)).2 ?_
  apply every.ready start knownEq available (can name ReflTransGen.refl)
  · exact fun other step => TransGen.single step
  · intro other found foundInfo path foundEq
    rcases every.loadable other path with ⟨sameEq, otherAvailable, _, _, _⟩
    cases foundEq.symm.trans sameEq
    rw [otherAvailable]
    simp

end Rules

end VoxelEngine.Plugin.PluginRegistry
