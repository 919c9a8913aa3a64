import VoxelEngine.Data.SparseSet
import VoxelEngine.Ecs.ComponentLifecycle

/-!
# The remote initializer system

An initializer is invoked for the entities to which a component was added since the previous
update.  A handler collects them in a sparse set, which an update walks through while the
initializers may change the registry, and which it clears afterwards.
-/

namespace VoxelEngine.Ecs

open VoxelEngine.ClientServer
open VoxelEngine.Data
open VoxelEngine.Transition

/-- One initializer: the type of its component, its tags and the set of the handler.  The last
three fields record for which entities the component was created since the last update began,
for which entities that update was due to invoke the initializer, and with what it did. -/
structure Subsystem (S V : Type) where
  component : TypeHash
  requiredTags : List TypeHash
  excludedTags : List TypeHash
  newlyAdded : S
  created : List Entity
  due : List Entity
  passed : List (Entity × V)

/-- The loop of `subsystem::update`, with the entity whose initializer is running. -/
structure InitializerLoop (S V : Type) where
  subsystem : Subsystem S V
  current : Option Entity
  remaining : List Entity

/-- Between two updates, or in an update, with the subsystems that are through with it, the one
in its loop, and those that are still to come. -/
inductive InitializerPhase (S V : Type) where
  | idle (subsystems : List (Subsystem S V))
  | updating (finished : List (Subsystem S V)) (loop : Option (InitializerLoop S V))
      (pending : List (Subsystem S V))

namespace InitializerPhase

variable {S V : Type}

/-- The subsystems in the order of their addition. -/
def subsystems : InitializerPhase S V → List (Subsystem S V)
  | idle subsystems => subsystems
  | updating finished loop pending =>
      finished ++ loop.toList.map InitializerLoop.subsystem ++ pending

/-- Change all subsystems. -/
def map (change : Subsystem S V → Subsystem S V) : InitializerPhase S V → InitializerPhase S V
  | idle subsystems => idle (subsystems.map change)
  | updating finished loop pending =>
      updating (finished.map change)
        (loop.map fun running => { running with subsystem := change running.subsystem })
        (pending.map change)

end InitializerPhase

/-- `system_remote_initializer`, with the registry that owns it. -/
structure SystemRemoteInitializer (S V : Type) where
  registry : Registry V
  phase : InitializerPhase S V

/-- Calls of the registry, by anyone between the updates and by the running initializer in an
update, initializers that are added, and the parts of an update. -/
inductive InitializerAction (V : Type) where
  | perform (action : LifecycleAction V)
  | addInitializer (component : TypeHash) (requiredTags excludedTags : List TypeHash)
  | beginUpdate
  | enter (order : List Entity)
  | advance
  | leave
  | endUpdate

namespace SystemRemoteInitializer

variable {S V : Type}

/-- The entities for which a component of the type was created. -/
def creations (type : TypeHash) (notices : List (Notice V)) : List Entity :=
  notices.filterMap fun notice =>
    match notice with
    | .componentCreated created entity _ => if created = type then some entity else none
    | _ => none

/-- What the view gets for an entity: its component, if it has the tags. -/
def matched (registry : Registry V) (subsystem : Subsystem S V) (entity : Entity) : Option V :=
  if subsystem.requiredTags.all (fun tag => (registry.component tag entity).isSome) &&
      subsystem.excludedTags.all (fun tag => (registry.component tag entity).isNone) then
    registry.component subsystem.component entity
  else none

/-- The entity is in the storages with which the view joins the newly added ones. -/
def joined (registry : Registry V) (subsystem : Subsystem S V) (entity : Entity) : Bool :=
  (matched registry subsystem entity).isSome

section Operations

variable (sets : SparseSets Entity S)

/-- The handler for `component_created_event`. -/
def onComponentCreated (subsystem : Subsystem S V) (entity : Entity) : Subsystem S V :=
  { subsystem with
    newlyAdded :=
      if sets.contains subsystem.newlyAdded entity then subsystem.newlyAdded
      else sets.emplace subsystem.newlyAdded entity
    created := entity :: subsystem.created }

/-- The handler is called for the events of its component type. -/
def observe (notices : List (Notice V)) (subsystem : Subsystem S V) : Subsystem S V :=
  (creations subsystem.component notices).foldl (onComponentCreated sets) subsystem

/-- `add_initializer` -/
def addInitializer (component : TypeHash) (requiredTags excludedTags : List TypeHash) :
    Subsystem S V where
  component := component
  requiredTags := requiredTags
  excludedTags := excludedTags
  newlyAdded := sets.empty
  created := []
  due := []
  passed := []

/-- When an update begins, the initializer is due for the entities that got the component since
the last one began and still have it, together with the tags. -/
def begin (registry : Registry V) (subsystem : Subsystem S V) : Subsystem S V :=
  { subsystem with
    created := []
    due := subsystem.created.dedup.filter (joined registry subsystem)
    passed := [] }

/-- `newly_added.clear()` -/
def clear (subsystem : Subsystem S V) : Subsystem S V :=
  { subsystem with newlyAdded := sets.empty }

/-- Invoke the initializer, if the view has the entity. -/
def visit (registry : Registry V) (subsystem : Subsystem S V) (entity : Entity)
    (remaining : List Entity) : InitializerLoop S V :=
  match matched registry subsystem entity with
  | some component =>
      { subsystem := { subsystem with passed := subsystem.passed ++ [(entity, component)] }
        current := some entity
        remaining := remaining }
  | none => ⟨subsystem, none, remaining⟩

/-- A call takes a component over which the view iterates away from another entity than the
current one, which is not allowed during the iteration. -/
def disturbs (registry next : Registry V) (subsystem : Subsystem S V) (current : Entity) : Bool :=
  registry.pool.entities.any fun entity =>
    entity ≠ current && (subsystem.component :: subsystem.requiredTags).any fun type =>
      (registry.component type entity).isSome && (next.component type entity).isNone

/-- Calls are made between the updates and by a running initializer. -/
def permits (phase : InitializerPhase S V) (registry next : Registry V) : Bool :=
  match phase with
  | .idle _ => true
  | .updating _ (some ⟨subsystem, some current, _⟩) _ => !disturbs registry next subsystem current
  | .updating _ _ _ => false

/-- A call of the registry, whose events the handlers see. -/
def performCall (tags : ComponentTags) (state : SystemRemoteInitializer S V)
    (action : LifecycleAction V) : Option (SystemRemoteInitializer S V) :=
  (Lifecycle.perform tags state.registry action).bind fun result =>
    if permits state.phase state.registry result.1 then
      some ⟨result.1, state.phase.map (observe sets result.2)⟩
    else none

/-- The transition relation of the system and its registry. -/
def step (tags : ComponentTags) : Step (SystemRemoteInitializer S V) (InitializerAction V)
  | state, .perform action => performCall sets tags state action
  | state, .addInitializer component requiredTags excludedTags =>
      match state.phase with
      | .idle subsystems =>
          some { state with
            phase := .idle (subsystems ++ [addInitializer sets component requiredTags excludedTags]) }
      | _ => none
  | state, .beginUpdate =>
      match state.phase with
      | .idle subsystems =>
          some { state with phase := .updating [] none (subsystems.map (begin state.registry)) }
      | _ => none
  | state, .enter order =>
      match state.phase with
      | .updating finished none (subsystem :: pending) =>
          if sets.walks subsystem.newlyAdded (joined state.registry subsystem) order then
            some { state with phase := .updating finished (some ⟨subsystem, none, order⟩) pending }
          else none
      | _ => none
  | state, .advance =>
      match state.phase with
      | .updating finished (some ⟨subsystem, _, entity :: remaining⟩) pending =>
          some { state with
            phase := .updating finished (some (visit state.registry subsystem entity remaining))
              pending }
      | _ => none
  | state, .leave =>
      match state.phase with
      | .updating finished (some ⟨subsystem, _, []⟩) pending =>
          some { state with phase := .updating (finished ++ [clear sets subsystem]) none pending }
      | _ => none
  | state, .endUpdate =>
      match state.phase with
      | .updating finished none [] => some { state with phase := .idle finished }
      | _ => none

/-- No entities and no initializers. -/
def start : SystemRemoteInitializer S V :=
  ⟨Lifecycle.emptyRegistry, .idle []⟩

end Operations

/-! ## What the system is for -/

/-- A subsystem that is through with an update has invoked its initializer for exactly the
entities for which it was due, once for each. -/
def Served (subsystem : Subsystem S V) : Prop :=
  (subsystem.passed.map Prod.fst).Perm subsystem.due

/-- So have all that are through, and in a loop the initializer was invoked for no other
entity. -/
def AllServed : InitializerPhase S V → Prop
  | .idle subsystems => ∀ subsystem ∈ subsystems, Served subsystem
  | .updating finished loop pending =>
      (∀ subsystem ∈ finished, Served subsystem) ∧
        (∀ running ∈ loop,
          (running.subsystem.passed.map Prod.fst).Subperm running.subsystem.due) ∧
        ∀ subsystem ∈ pending, subsystem.passed.map Prod.fst = []

instance (subsystem : Subsystem S V) : Decidable (Served subsystem) :=
  inferInstanceAs (Decidable (List.Perm _ _))

instance : (phase : InitializerPhase S V) → Decidable (AllServed phase)
  | .idle subsystems => inferInstanceAs (Decidable (∀ subsystem ∈ subsystems, Served subsystem))
  | .updating finished loop pending =>
      inferInstanceAs (Decidable ((∀ subsystem ∈ finished, Served subsystem) ∧
        (∀ running ∈ loop,
          (running.subsystem.passed.map Prod.fst).Subperm running.subsystem.due) ∧
        ∀ subsystem ∈ pending, subsystem.passed.map Prod.fst = []))

section Guard

variable (sets : SparseSets Entity S)

/-- The subsystems that are not through with the update, with the entities to which their loops
may still come. -/
def waiting : InitializerPhase S V → List (Subsystem S V × List Entity)
  | .idle _ => []
  | .updating _ loop pending =>
      loop.toList.map (fun running => (running.subsystem, running.remaining)) ++
        pending.map fun subsystem => (subsystem, sets.entries subsystem.newlyAdded)

/-- A call creates no component for an entity that is hidden in the set of the handler, and
neither creates components of a type whose subsystem is not through with the update nor changes
whether the view of that subsystem has an entity that waits for it. -/
def GentleCall (state : SystemRemoteInitializer S V) (result : Registry V × List (Notice V)) :
    Prop :=
  (∀ subsystem ∈ state.phase.subsystems, ∀ entity ∈ creations subsystem.component result.2,
      ¬sets.Hidden subsystem.newlyAdded entity) ∧
    ∀ entry ∈ waiting sets state.phase, creations entry.1.component result.2 = [] ∧
      ∀ entity ∈ entry.2, joined result.1 entry.1 entity = joined state.registry entry.1 entity

/-- The calls of the registry are gentle. -/
def Gentle (tags : ComponentTags) (state : SystemRemoteInitializer S V) :
    InitializerAction V → Prop
  | .perform action => ∀ result ∈ Lifecycle.perform tags state.registry action,
      GentleCall sets state result
  | _ => True

instance (state : SystemRemoteInitializer S V) (result : Registry V × List (Notice V)) :
    Decidable (GentleCall sets state result) :=
  inferInstanceAs (Decidable (_ ∧ _))

instance (tags : ComponentTags) (state : SystemRemoteInitializer S V) :
    (action : InitializerAction V) → Decidable (Gentle sets tags state action)
  | .perform action =>
      inferInstanceAs (Decidable (∀ result ∈ Lifecycle.perform tags state.registry action,
        GentleCall sets state result))
  | .addInitializer _ _ _ | .beginUpdate | .enter _ | .advance | .leave | .endUpdate =>
      inferInstanceAs (Decidable True)

end Guard

/-! ## Which components a call creates -/

section Calls

variable {tags : ComponentTags} {registry next : Registry V} {notices : List (Notice V)}
  {type : TypeHash} {entity : Entity}

theorem mem_creations_iff :
    entity ∈ creations type notices ↔ ∃ component, .componentCreated type entity component ∈
      notices.filter (Lifecycle.about type entity) := by
  rw [creations, List.mem_filterMap]
  constructor
  · rintro ⟨notice, mem, creates⟩
    cases notice with
    | componentCreated created at_ component =>
        simp only [Option.ite_none_right_eq_some, Option.some.injEq] at creates
        rcases creates with ⟨rfl, rfl⟩
        exact ⟨component, List.mem_filter.mpr ⟨mem, by simp [Lifecycle.about]⟩⟩
    | _ => contradiction
  · rintro ⟨component, mem⟩
    exact ⟨_, (List.mem_filter.mp mem).1, by simp⟩

/-- Only live entities have components. -/
def OnlyLive (registry : Registry V) : Prop :=
  ∀ type entity, (registry.component type entity).isSome = true →
    entity ∈ registry.pool.entities

/-- The events announce exactly the components that were not there before. -/
theorem mem_creations_of_perform (live : OnlyLive registry) {action : LifecycleAction V}
    (performed : Lifecycle.perform tags registry action = some (next, notices)) :
    entity ∈ creations type notices ↔
      registry.component type entity = none ∧ (next.component type entity).isSome = true := by
  by_cases destroys : ∃ destroyed, action = .destroyEntity destroyed
  · rcases destroys with ⟨destroyed, rfl⟩
    rcases Lifecycle.destroyEntity_eq_some performed with ⟨rfl, _, cleared⟩
    apply iff_of_false
    · simp [creations]
    · rintro ⟨absent, present⟩
      rw [cleared, absent, ite_self] at present
      contradiction
  · have bare : Lifecycle.DestroysBare ⟨registry, []⟩ action := by
      cases action with
      | destroyEntity destroyed => exact absurd ⟨destroyed, rfl⟩ destroys
      | _ => trivial
    have sound : Lifecycle.Sound ⟨registry, ([] : List (Notice V))⟩ := live
    have change := Lifecycle.perform_change sound bare performed type entity
    rw [mem_creations_iff]
    generalize registry.component type entity = before at change
    generalize next.component type entity = after at change
    cases change with
    | kept same silent =>
        rw [silent, ← same]
        cases before <;> simp
    | created noted =>
        rw [noted]
        cases tags.hasAddedCallback type <;> simp
    | removed noted =>
        rw [noted]
        cases tags.hasRemovedCallback type <;> simp

end Calls

/-! ## The set of the handler -/

section Handler

variable {sets : SparseSets Entity S} {registry next : Registry V} {subsystem : Subsystem S V}

/-- No entity is stored twice, and the hidden ones do not have the component. -/
structure Tracks (sets : SparseSets Entity S) (registry : Registry V)
    (subsystem : Subsystem S V) : Prop where
  nodup : (sets.entries subsystem.newlyAdded).Nodup
  hidden : ∀ entity, sets.Hidden subsystem.newlyAdded entity →
    registry.component subsystem.component entity = none

theorem tracks_of_empty (lawful : sets.Lawful) (empty : subsystem.newlyAdded = sets.empty) :
    Tracks sets registry subsystem where
  nodup := by
    rw [empty, lawful.entries_empty]
    exact List.nodup_nil
  hidden entity hidden := by
    rw [SparseSets.Hidden, empty, lawful.entries_empty] at hidden
    exact absurd hidden.1 List.not_mem_nil

/-- An entity that has the component and is not contained is not stored either. -/
theorem Tracks.notMem (tracks : Tracks sets registry subsystem) {entity : Entity}
    (has : (registry.component subsystem.component entity).isSome = true)
    (absent : sets.contains subsystem.newlyAdded entity = false) :
    entity ∉ sets.entries subsystem.newlyAdded := by
  intro mem
  rw [tracks.hidden entity ⟨mem, absent⟩] at has
  contradiction

theorem mem_entries_onComponentCreated (lawful : sets.Lawful) (entity other : Entity) :
    other ∈ sets.entries (onComponentCreated sets subsystem entity).newlyAdded ↔
      other = entity ∨ other ∈ sets.entries subsystem.newlyAdded := by
  rw [onComponentCreated]
  cases contained : sets.contains subsystem.newlyAdded entity with
  | true =>
      have mem := lawful.mem_of_contains _ _ contained
      constructor
      · exact Or.inr
      · rintro (rfl | old)
        · exact mem
        · exact old
  | false =>
      simp only [Bool.false_eq_true, if_false]
      rw [(lawful.entries_emplace _ _ contained).mem_iff, List.mem_cons]

/-- Storing a live entity hides at most dead ones. -/
theorem Tracks.onComponentCreated (lawful : sets.Lawful) (live : OnlyLive registry)
    (tracks : Tracks sets registry subsystem) {entity : Entity}
    (has : (registry.component subsystem.component entity).isSome = true) :
    Tracks sets registry (onComponentCreated sets subsystem entity) := by
  have mem_iff := @mem_entries_onComponentCreated _ _ sets subsystem lawful entity
  rw [SystemRemoteInitializer.onComponentCreated] at mem_iff ⊢
  cases contained : sets.contains subsystem.newlyAdded entity with
  | true => exact ⟨tracks.nodup, tracks.hidden⟩
  | false =>
      simp only [contained, Bool.false_eq_true, if_false] at mem_iff ⊢
      constructor
      · simp only
        rw [(lawful.entries_emplace _ _ contained).nodup_iff, List.nodup_cons]
        exact ⟨tracks.notMem has contained, tracks.nodup⟩
      · rintro other ⟨stored, uncontained⟩
        by_contra present
        have otherHas := Option.isSome_iff_ne_none.mpr present
        have other_ne : other ≠ entity := by
          rintro rfl
          rw [lawful.contains_emplace_self _ _ contained] at uncontained
          contradiction
        have index_ne : other.index ≠ entity.index := by
          intro same
          exact other_ne (registry.pool.eq_of_index_eq (live _ _ otherHas) (live _ _ has) same)
        rw [lawful.contains_emplace_of_slot_ne _ _ _ contained index_ne] at uncontained
        rw [tracks.hidden other ⟨((mem_iff other).mp stored).resolve_left other_ne, uncontained⟩]
          at otherHas
        contradiction

/-- What the handler does not change. -/
theorem observe_frame (sets : SparseSets Entity S) (notices : List (Notice V))
    (subsystem : Subsystem S V) :
    (observe sets notices subsystem).component = subsystem.component ∧
      (observe sets notices subsystem).requiredTags = subsystem.requiredTags ∧
      (observe sets notices subsystem).excludedTags = subsystem.excludedTags ∧
      (observe sets notices subsystem).due = subsystem.due ∧
      (observe sets notices subsystem).passed = subsystem.passed := by
  rw [observe]
  generalize creations subsystem.component notices = entities
  induction entities generalizing subsystem with
  | nil => exact ⟨rfl, rfl, rfl, rfl, rfl⟩
  | cons entity rest ih => exact ih (onComponentCreated sets subsystem entity)

theorem observe_of_creations_eq_nil {notices : List (Notice V)}
    (silent : creations subsystem.component notices = []) :
    observe sets notices subsystem = subsystem := by
  rw [observe, silent, List.foldl_nil]

/-- The handler stores the entities for which the component was created. -/
theorem mem_entries_observe (lawful : sets.Lawful) (notices : List (Notice V))
    (same : ∀ entity, entity ∈ sets.entries subsystem.newlyAdded ↔ entity ∈ subsystem.created)
    (entity : Entity) :
    entity ∈ sets.entries (observe sets notices subsystem).newlyAdded ↔
      entity ∈ (observe sets notices subsystem).created := by
  rw [observe]
  generalize creations subsystem.component notices = entities
  induction entities generalizing subsystem with
  | nil => exact same entity
  | cons first rest ih =>
      apply ih
      intro other
      rw [mem_entries_onComponentCreated lawful, same]
      exact List.mem_cons.symm

theorem Tracks.observe (lawful : sets.Lawful) (live : OnlyLive registry)
    (tracks : Tracks sets registry subsystem) {notices : List (Notice V)}
    (has : ∀ entity ∈ creations subsystem.component notices,
      (registry.component subsystem.component entity).isSome = true) :
    Tracks sets registry (observe sets notices subsystem) := by
  rw [SystemRemoteInitializer.observe]
  generalize creations subsystem.component notices = entities at has ⊢
  induction entities generalizing subsystem with
  | nil => exact tracks
  | cons first rest ih =>
      apply ih (tracks.onComponentCreated lawful live (has first List.mem_cons_self))
      exact fun entity mem => has entity (List.mem_cons_of_mem _ mem)

/-- A call that creates no component for a hidden entity lets no hidden entity have one. -/
theorem Tracks.perform {tags : ComponentTags} {notices : List (Notice V)}
    {action : LifecycleAction V} (live : OnlyLive registry)
    (tracks : Tracks sets registry subsystem)
    (performed : Lifecycle.perform tags registry action = some (next, notices))
    (visible : ∀ entity ∈ creations subsystem.component notices,
      ¬sets.Hidden subsystem.newlyAdded entity) : Tracks sets next subsystem := by
  refine ⟨tracks.nodup, fun entity hidden => ?_⟩
  by_contra present
  have created := (mem_creations_of_perform live performed).mpr
    ⟨tracks.hidden entity hidden, Option.isSome_iff_ne_none.mpr present⟩
  exact visible entity created hidden

theorem Tracks.not_hidden_of_joined (tracks : Tracks sets registry subsystem) (entity : Entity)
    (isJoined : joined registry subsystem entity = true) :
    ¬sets.Hidden subsystem.newlyAdded entity := by
  intro hidden
  rw [joined, matched, tracks.hidden entity hidden, ite_self] at isJoined
  contradiction

end Handler

/-! ## The phases of an update -/

section Phases

variable {sets : SparseSets Entity S} {registry next : Registry V} {subsystem : Subsystem S V}

/-- A subsystem that collects entities for the next update, and was through with the last one. -/
structure Collects (sets : SparseSets Entity S) (registry : Registry V)
    (subsystem : Subsystem S V) : Prop extends Tracks sets registry subsystem where
  mem_iff : ∀ entity, entity ∈ sets.entries subsystem.newlyAdded ↔ entity ∈ subsystem.created
  served : Served subsystem

/-- A subsystem whose loop is still to come. -/
structure Awaits (sets : SparseSets Entity S) (registry : Registry V)
    (subsystem : Subsystem S V) : Prop extends Tracks sets registry subsystem where
  created_eq : subsystem.created = []
  passed_eq : subsystem.passed = []
  due_nodup : subsystem.due.Nodup
  mem_due_iff : ∀ entity, entity ∈ subsystem.due ↔
    entity ∈ sets.entries subsystem.newlyAdded ∧ joined registry subsystem entity = true

/-- A subsystem in its loop. -/
structure Loops (sets : SparseSets Entity S) (registry : Registry V)
    (subsystem : Subsystem S V) (remaining : List Entity) : Prop
    extends Tracks sets registry subsystem where
  created_eq : subsystem.created = []
  perm : (subsystem.passed.map Prod.fst ++
    remaining.filter (joined registry subsystem)).Perm subsystem.due

theorem collects_addInitializer (lawful : sets.Lawful) (component : TypeHash)
    (requiredTags excludedTags : List TypeHash) :
    Collects sets registry (addInitializer sets component requiredTags excludedTags) where
  toTracks := tracks_of_empty lawful rfl
  mem_iff entity := by
    rw [addInitializer, lawful.entries_empty]
  served := List.Perm.refl []

theorem Collects.perform (lawful : sets.Lawful) {tags : ComponentTags}
    {notices : List (Notice V)} {action : LifecycleAction V} (live : OnlyLive registry)
    (nextLive : OnlyLive next) (collects : Collects sets registry subsystem)
    (performed : Lifecycle.perform tags registry action = some (next, notices))
    (visible : ∀ entity ∈ creations subsystem.component notices,
      ¬sets.Hidden subsystem.newlyAdded entity) :
    Collects sets next (observe sets notices subsystem) := by
  have tracks := collects.toTracks.perform live performed visible
  refine ⟨tracks.observe lawful nextLive ?_, ?_, ?_⟩
  · intro entity mem
    exact ((mem_creations_of_perform live performed).mp mem).2
  · exact mem_entries_observe lawful notices collects.mem_iff
  · rcases observe_frame sets notices subsystem with ⟨_, _, _, due_eq, passed_eq⟩
    rw [Served, due_eq, passed_eq]
    exact collects.served

theorem Collects.begin (collects : Collects sets registry subsystem) :
    Awaits sets registry (begin registry subsystem) where
  nodup := collects.nodup
  hidden := collects.hidden
  created_eq := rfl
  passed_eq := rfl
  due_nodup := (List.nodup_dedup subsystem.created).filter _
  mem_due_iff entity := by
    rw [SystemRemoteInitializer.begin, List.mem_filter, List.mem_dedup, ← collects.mem_iff]
    rfl

theorem Awaits.perform {tags : ComponentTags} {notices : List (Notice V)}
    {action : LifecycleAction V} (live : OnlyLive registry)
    (awaits : Awaits sets registry subsystem)
    (performed : Lifecycle.perform tags registry action = some (next, notices))
    (silent : creations subsystem.component notices = [])
    (unchanged : ∀ entity ∈ sets.entries subsystem.newlyAdded,
      joined next subsystem entity = joined registry subsystem entity) :
    Awaits sets next (observe sets notices subsystem) := by
  rw [observe_of_creations_eq_nil silent]
  refine ⟨awaits.toTracks.perform live performed (by simp [silent]), awaits.created_eq,
    awaits.passed_eq, awaits.due_nodup, fun entity => ?_⟩
  rw [awaits.mem_due_iff]
  constructor
  · rintro ⟨stored, isJoined⟩
    exact ⟨stored, (unchanged entity stored).trans isJoined⟩
  · rintro ⟨stored, isJoined⟩
    exact ⟨stored, (unchanged entity stored).symm.trans isJoined⟩

/-- The loop walks through the entities for which the initializer is due. -/
theorem Awaits.enter (lawful : sets.Lawful) (awaits : Awaits sets registry subsystem)
    {order : List Entity}
    (walked : sets.walks subsystem.newlyAdded (joined registry subsystem) order = true) :
    Loops sets registry subsystem order := by
  refine ⟨awaits.toTracks, awaits.created_eq, ?_⟩
  have visited := lawful.walk_perm _ _ _ walked awaits.nodup
    awaits.toTracks.not_hidden_of_joined
  rw [awaits.passed_eq, List.map_nil, List.nil_append]
  apply visited.trans
  rw [List.perm_ext_iff_of_nodup (awaits.nodup.filter _) awaits.due_nodup]
  intro entity
  rw [List.mem_filter, awaits.mem_due_iff]

theorem Loops.perform {tags : ComponentTags} {notices : List (Notice V)}
    {action : LifecycleAction V} {remaining : List Entity} (live : OnlyLive registry)
    (loops : Loops sets registry subsystem remaining)
    (performed : Lifecycle.perform tags registry action = some (next, notices))
    (silent : creations subsystem.component notices = [])
    (unchanged : ∀ entity ∈ remaining,
      joined next subsystem entity = joined registry subsystem entity) :
    Loops sets next (observe sets notices subsystem) remaining := by
  rw [observe_of_creations_eq_nil silent]
  refine ⟨loops.toTracks.perform live performed (by simp [silent]), loops.created_eq, ?_⟩
  rw [List.filter_congr unchanged]
  exact loops.perm

/-- The entity is passed to the initializer if it is still in the view. -/
theorem Loops.visit {entity : Entity} {remaining : List Entity}
    (loops : Loops sets registry subsystem (entity :: remaining)) :
    Loops sets registry (visit registry subsystem entity remaining).subsystem
      (visit registry subsystem entity remaining).remaining := by
  have perm := loops.perm
  rw [List.filter_cons] at perm
  cases found : matched registry subsystem entity with
  | some component =>
      have isJoined : joined registry subsystem entity = true := by
        rw [joined, found]
        rfl
      rw [if_pos isJoined] at perm
      simp only [SystemRemoteInitializer.visit, found]
      refine ⟨⟨loops.nodup, loops.hidden⟩, loops.created_eq, ?_⟩
      rw [List.map_append, List.append_assoc]
      exact perm
  | none =>
      have notJoined : ¬joined registry subsystem entity = true := by
        rw [joined, found]
        simp
      rw [if_neg notJoined] at perm
      simp only [SystemRemoteInitializer.visit, found]
      exact ⟨loops.toTracks, loops.created_eq, perm⟩

theorem Loops.leave (lawful : sets.Lawful) (loops : Loops sets registry subsystem []) :
    Collects sets registry (clear sets subsystem) where
  toTracks := tracks_of_empty lawful rfl
  mem_iff entity := by
    rw [clear, lawful.entries_empty]
    simp only [loops.created_eq]
  served := by
    have perm := loops.perm
    rw [List.filter_nil, List.append_nil] at perm
    exact perm

end Phases

/-! ## Runs -/

section Runs

variable {sets : SparseSets Entity S} {tags : ComponentTags}
  {state next : SystemRemoteInitializer S V}

/-- Every subsystem is as its place in the update says. -/
def PhaseSound (sets : SparseSets Entity S) (registry : Registry V) :
    InitializerPhase S V → Prop
  | .idle subsystems => ∀ subsystem ∈ subsystems, Collects sets registry subsystem
  | .updating finished loop pending =>
      (∀ subsystem ∈ finished, Collects sets registry subsystem) ∧
        (∀ running ∈ loop, Loops sets registry running.subsystem running.remaining) ∧
        ∀ subsystem ∈ pending, Awaits sets registry subsystem

/-- Only live entities have components, and the subsystems are in order. -/
structure Sound (sets : SparseSets Entity S) (state : SystemRemoteInitializer S V) : Prop where
  live : OnlyLive state.registry
  phase : PhaseSound sets state.registry state.phase

theorem sound_start : Sound sets (start : SystemRemoteInitializer S V) where
  live type entity has := by cases has
  phase subsystem mem := by cases mem

/-- A gentle call keeps the subsystems in order, whatever part of an update makes it. -/
theorem Sound.performCall (lawful : sets.Lawful) (sound : Sound sets state)
    {action : LifecycleAction V} (gentle : Gentle sets tags state (.perform action))
    (performedCall : performCall sets tags state action = some next) : Sound sets next := by
  rcases Option.bind_eq_some_iff.mp performedCall with ⟨⟨registry, notices⟩, performed, permitted⟩
  rcases Option.ite_none_right_eq_some.mp permitted with ⟨_, nextEq⟩
  cases nextEq
  have nextLive : OnlyLive registry := Lifecycle.perform_sound sound.live performed
  have calm := gentle ⟨registry, notices⟩ performed
  rcases state with ⟨before, phase⟩
  have ordered := sound.phase
  refine ⟨nextLive, ?_⟩
  cases phase with
  | idle subsystems =>
      intro observed mem
      rcases List.mem_map.mp mem with ⟨subsystem, old, rfl⟩
      exact (ordered subsystem old).perform lawful sound.live nextLive performed
        (calm.1 subsystem old)
  | updating finished loop pending =>
      rcases ordered with ⟨collected, looping, awaiting⟩
      refine ⟨?_, ?_, ?_⟩
      · intro observed mem
        rcases List.mem_map.mp mem with ⟨subsystem, old, rfl⟩
        apply (collected subsystem old).perform lawful sound.live nextLive performed
        apply calm.1 subsystem
        simp [InitializerPhase.subsystems, old]
      · intro observed mem
        rcases Option.map_eq_some_iff.mp mem with ⟨running, old, rfl⟩
        have here := calm.2 (running.subsystem, running.remaining)
          (by simp [waiting, Option.mem_def.mp old])
        exact (looping running old).perform sound.live performed here.1 here.2
      · intro observed mem
        rcases List.mem_map.mp mem with ⟨subsystem, old, rfl⟩
        have here := calm.2 (subsystem, sets.entries subsystem.newlyAdded)
          (List.mem_append_right _ (List.mem_map.mpr ⟨subsystem, old, rfl⟩))
        exact (awaiting subsystem old).perform sound.live performed here.1 here.2

/-- Every part of an update and every gentle call keeps the subsystems in order. -/
theorem Sound.step (lawful : sets.Lawful) (sound : Sound sets state)
    {action : InitializerAction V} (gentle : Gentle sets tags state action)
    (stepEq : step sets tags state action = some next) : Sound sets next := by
  cases action with
  | perform action => exact sound.performCall lawful gentle stepEq
  | addInitializer component requiredTags excludedTags =>
      rcases state with ⟨registry, ⟨subsystems⟩ | ⟨finished, loop, pending⟩⟩
      · cases stepEq
        refine ⟨sound.live, fun subsystem mem => ?_⟩
        rcases List.mem_append.mp mem with old | added
        · exact sound.phase subsystem old
        · rw [List.mem_singleton.mp added]
          exact collects_addInitializer lawful component requiredTags excludedTags
      · contradiction
  | beginUpdate =>
      rcases state with ⟨registry, ⟨subsystems⟩ | ⟨finished, loop, pending⟩⟩
      · cases stepEq
        refine ⟨sound.live, by simp, by simp, fun begun mem => ?_⟩
        rcases List.mem_map.mp mem with ⟨subsystem, old, rfl⟩
        exact (sound.phase subsystem old).begin
      · contradiction
  | enter order =>
      rcases state with ⟨registry, ⟨subsystems⟩ | ⟨finished, _ | running, _ | ⟨subsystem, pending⟩⟩⟩
      · contradiction
      · contradiction
      · rcases Option.ite_none_right_eq_some.mp stepEq with ⟨walked, nextEq⟩
        cases nextEq
        rcases sound.phase with ⟨collected, _, awaiting⟩
        refine ⟨sound.live, collected, ?_, ?_⟩
        · intro running mem
          cases mem
          exact (awaiting subsystem List.mem_cons_self).enter lawful walked
        · exact fun other mem => awaiting other (List.mem_cons_of_mem _ mem)
      · contradiction
      · contradiction
  | advance =>
      rcases state with ⟨registry, ⟨subsystems⟩ |
        ⟨finished, _ | ⟨subsystem, current, _ | ⟨entity, remaining⟩⟩, pending⟩⟩
      · contradiction
      · contradiction
      · contradiction
      · cases stepEq
        rcases sound.phase with ⟨collected, looping, awaiting⟩
        refine ⟨sound.live, collected, ?_, awaiting⟩
        intro running mem
        cases mem
        exact (looping _ rfl).visit
  | leave =>
      rcases state with ⟨registry, ⟨subsystems⟩ |
        ⟨finished, _ | ⟨subsystem, current, _ | ⟨entity, remaining⟩⟩, pending⟩⟩
      · contradiction
      · contradiction
      · cases stepEq
        rcases sound.phase with ⟨collected, looping, awaiting⟩
        refine ⟨sound.live, ?_, by simp, awaiting⟩
        intro other mem
        rcases List.mem_append.mp mem with old | left
        · exact collected other old
        · rw [List.mem_singleton.mp left]
          exact (looping _ rfl).leave lawful
      · contradiction
  | endUpdate =>
      rcases state with ⟨registry, ⟨subsystems⟩ | ⟨finished, _ | running, _ | ⟨subsystem, pending⟩⟩⟩
      · contradiction
      · cases stepEq
        exact ⟨sound.live, sound.phase.1⟩
      · contradiction
      · contradiction
      · contradiction

theorem Sound.allServed (sound : Sound sets state) : AllServed state.phase := by
  rcases state with ⟨registry, ⟨subsystems⟩ | ⟨finished, loop, pending⟩⟩
  · exact fun subsystem mem => (sound.phase subsystem mem).served
  · rcases sound.phase with ⟨collected, looping, awaiting⟩
    refine ⟨fun subsystem mem => (collected subsystem mem).served, ?_, ?_⟩
    · intro running mem
      exact (List.sublist_append_left _ _).subperm.trans (looping running mem).perm.subperm
    · intro subsystem mem
      rw [(awaiting subsystem mem).passed_eq, List.map_nil]

/-- The action is a part of an update that was begun. -/
def IsUpdate : InitializerAction V → Prop
  | .enter _ | .advance | .leave | .endUpdate => True
  | .perform _ | .addInitializer _ _ _ | .beginUpdate => False

theorem gentle_of_isUpdate {action : InitializerAction V} (isUpdate : IsUpdate action) :
    Gentle sets tags state action := by
  cases action with
  | perform action => cases isUpdate
  | _ => trivial

/-- A loop ends if the initializers return. -/
theorem exists_leave (registry : Registry V) (finished : List (Subsystem S V))
    (subsystem : Subsystem S V) (current : Option Entity) (remaining : List Entity)
    (pending : List (Subsystem S V)) :
    ∃ rest through, (∀ action ∈ rest, IsUpdate action) ∧
      run (step sets tags)
          ⟨registry, .updating finished (some ⟨subsystem, current, remaining⟩) pending⟩ rest =
        some ⟨registry, .updating (finished ++ [through]) none pending⟩ := by
  induction remaining generalizing subsystem current with
  | nil => exact ⟨[.leave], clear sets subsystem, by simp [IsUpdate], rfl⟩
  | cons entity others ih =>
      have remaining_eq : (visit registry subsystem entity others).remaining = others := by
        rw [visit]
        cases matched registry subsystem entity <;> rfl
      cases visited : visit registry subsystem entity others with
      | mk passed running left =>
          rw [visited] at remaining_eq
          subst remaining_eq
          rcases ih passed running with ⟨rest, through, isUpdate, restRun⟩
          refine ⟨.advance :: rest, through, List.forall_mem_cons.mpr ⟨trivial, isUpdate⟩, ?_⟩
          rw [run_cons_eq_some_iff]
          refine ⟨_, rfl, ?_⟩
          rw [visited]
          exact restRun

/-- An update ends if the initializers return. -/
theorem exists_endUpdate (lawful : sets.Lawful) (registry : Registry V)
    (finished pending : List (Subsystem S V)) :
    ∃ rest subsystems, (∀ action ∈ rest, IsUpdate action) ∧
      run (step sets tags) ⟨registry, .updating finished none pending⟩ rest =
        some ⟨registry, .idle subsystems⟩ := by
  induction pending generalizing finished with
  | nil => exact ⟨[.endUpdate], finished, by simp [IsUpdate], rfl⟩
  | cons subsystem others ih =>
      rcases lawful.walk_exists subsystem.newlyAdded (joined registry subsystem) with
        ⟨order, walked⟩
      rcases @exists_leave _ _ sets tags registry finished subsystem none order others with
        ⟨looping, through, loopIsUpdate, loopRun⟩
      rcases ih (finished ++ [through]) with ⟨rest, subsystems, isUpdate, restRun⟩
      refine ⟨.enter order :: (looping ++ rest), subsystems, ?_, ?_⟩
      · rw [List.forall_mem_cons, List.forall_mem_append]
        exact ⟨trivial, loopIsUpdate, isUpdate⟩
      · rw [run_cons_eq_some_iff]
        refine ⟨⟨registry, .updating finished (some ⟨subsystem, none, order⟩) others⟩, ?_, ?_⟩
        · exact Option.ite_none_right_eq_some.mpr ⟨walked, rfl⟩
        · rw [run_append_eq_some_iff]
          exact ⟨_, loopRun, restRun⟩

/-- **Initializers run exactly once.**  If all calls of the registry are gentle, then in every
state that is reached each subsystem that is through with an update has invoked its initializer
exactly once for every entity for which it was due and for no other one, and every update comes
to its end if the initializers return. -/
theorem allServed_of_gentle (lawful : sets.Lawful) (actions : List (InitializerAction V))
    {final : SystemRemoteInitializer S V}
    (runEq : run (step sets tags) start actions = some final)
    (gentle : Guarded (step sets tags) (Gentle sets tags) start actions) :
    AllServed final.phase ∧
      ∃ rest subsystems, (∀ action ∈ rest, IsUpdate action) ∧
        run (step sets tags) final rest = some ⟨final.registry, .idle subsystems⟩ ∧
        AllServed (.idle subsystems) := by
  have sound : Sound sets final :=
    run_invariant (fun _ _ _ sound gentle stepEq => sound.step lawful gentle stepEq)
      sound_start gentle runEq
  refine ⟨sound.allServed, ?_⟩
  have ends : ∃ rest subsystems, (∀ action ∈ rest, IsUpdate action) ∧
      run (step sets tags) final rest = some ⟨final.registry, .idle subsystems⟩ := by
    rcases final with ⟨registry, ⟨subsystems⟩ |
      ⟨finished, _ | ⟨subsystem, current, remaining⟩, pending⟩⟩
    · exact ⟨[], subsystems, by simp, rfl⟩
    · exact exists_endUpdate lawful registry finished pending
    · rcases @exists_leave _ _ sets tags registry finished subsystem current remaining pending
        with ⟨looping, through, loopIsUpdate, loopRun⟩
      rcases @exists_endUpdate _ _ sets tags lawful registry (finished ++ [through]) pending with
        ⟨rest, subsystems, isUpdate, restRun⟩
      refine ⟨looping ++ rest, subsystems, ?_, ?_⟩
      · exact List.forall_mem_append.mpr ⟨loopIsUpdate, isUpdate⟩
      · rw [run_append_eq_some_iff]
        exact ⟨_, loopRun, restRun⟩
  rcases ends with ⟨rest, subsystems, isUpdate, restRun⟩
  refine ⟨rest, subsystems, isUpdate, restRun, ?_⟩
  have guarded : Guarded (step sets tags) (fun _ action => IsUpdate action) final rest := by
    have trivially := (guarded_true (step sets tags) final rest).and_of_forall_mem isUpdate
    exact trivially.mono fun _ _ both => both.2
  have ended : Sound sets (⟨final.registry, .idle subsystems⟩ : SystemRemoteInitializer S V) :=
    run_invariant
      (fun _ _ _ sound isUpdate stepEq => sound.step lawful (gentle_of_isUpdate isUpdate) stepEq)
      sound guarded restRun
  exact ended.allServed

end Runs

/-- Two initializers of one component type, an entity whose index is reused before the update,
and an initializer that creates an entity and adds another component. -/
def gentleRun : List (InitializerAction Bool) :=
  [.addInitializer 5 [] [], .addInitializer 5 [6] [7], .perform (.createEntity 0 [(5, true)]),
    .perform (.createEntity 1 [(5, false), (6, true)]), .perform (.destroyEntity ⟨0, 0⟩),
    .perform (.createEntity 0 [(5, true)]), .beginUpdate, .enter [⟨0, 1⟩, ⟨1, 0⟩, ⟨0, 0⟩],
    .advance, .perform (.createEntity 2 [(8, true)]), .perform (.setComponent 9 ⟨0, 1⟩ true),
    .advance, .advance, .leave, .enter [⟨0, 1⟩, ⟨1, 0⟩, ⟨0, 0⟩], .advance, .advance, .advance,
    .leave, .endUpdate]

theorem allServed_gentleRun :
    ∃ final, run (step PackedSet.sets Lifecycle.allTags) start gentleRun = some final ∧
      final.phase.subsystems.map Subsystem.passed =
        [[(⟨0, 1⟩, true), (⟨1, 0⟩, false)], [(⟨1, 0⟩, false)]] ∧
      AllServed final.phase := by
  rcases Option.map_eq_some_iff.mp (by decide +kernel :
    (run (step PackedSet.sets Lifecycle.allTags) start gentleRun).map
      (fun final => final.phase.subsystems.map Subsystem.passed) =
        some [[(⟨0, 1⟩, true), (⟨1, 0⟩, false)], [(⟨1, 0⟩, false)]]) with ⟨final, runEq, passed⟩
  refine ⟨final, runEq, passed, ?_⟩
  exact (allServed_of_gentle PackedSet.lawful gentleRun runEq (by decide +kernel)).1

/-- An initializer creates an entity with the component that it is invoked for. -/
def creatingRun : List (InitializerAction Bool) :=
  [.addInitializer 5 [] [], .perform (.createEntity 0 [(5, true)]), .beginUpdate,
    .enter [⟨0, 0⟩], .advance, .perform (.createEntity 1 [(5, false)]), .leave, .endUpdate,
    .beginUpdate, .enter [], .leave, .endUpdate]

/-- An identifier is used again after another version of it, before the update. -/
def returningRun : List (InitializerAction Bool) :=
  [.addInitializer 5 [] [], .perform (.createEntity 0 [(5, true)]),
    .perform (.createEntity 1 [(5, true)]), .perform (.createEntity 2 [(5, true)]), .beginUpdate,
    .enter [⟨2, 0⟩, ⟨1, 0⟩, ⟨0, 0⟩], .advance, .advance, .advance, .leave, .endUpdate,
    .perform (.createEntityWithId ⟨7, 0⟩ 8 [(5, true)]), .perform (.destroyEntity ⟨7, 0⟩),
    .perform (.createEntity 7 [(5, true)]), .perform (.destroyEntity ⟨7, 1⟩),
    .perform (.createEntityWithId ⟨7, 0⟩ 8 [(5, true)]), .beginUpdate,
    .enter [⟨7, 0⟩, ⟨7, 1⟩, ⟨7, 0⟩], .advance, .advance, .advance, .leave, .endUpdate]

/-- The new entity of the first run is forgotten although the next update is due for it, and the
entity of the second run is initialized twice. -/
theorem initializers_not_once :
    (∃ final, run (step PackedSet.sets Lifecycle.allTags) start creatingRun = some final ∧
      final.phase.subsystems.map Subsystem.due = [[⟨1, 0⟩]] ∧
      final.phase.subsystems.map Subsystem.passed = [[]] ∧ ¬AllServed final.phase) ∧
    ∃ final, run (step PackedSet.sets Lifecycle.allTags) start returningRun = some final ∧
      final.phase.subsystems.map Subsystem.due = [[⟨7, 0⟩]] ∧
      final.phase.subsystems.map Subsystem.passed = [[(⟨7, 0⟩, true), (⟨7, 0⟩, true)]] ∧
      ¬AllServed final.phase := by
  constructor
  · rcases Option.map_eq_some_iff.mp (by decide +kernel :
      (run (step PackedSet.sets Lifecycle.allTags) start creatingRun).map
        (fun final => (final.phase.subsystems.map Subsystem.due,
          final.phase.subsystems.map Subsystem.passed, decide (AllServed final.phase))) =
        some ([[⟨1, 0⟩]], [[]], false)) with ⟨final, runEq, records⟩
    rcases Prod.mk.inj records with ⟨due, others⟩
    rcases Prod.mk.inj others with ⟨passed, served⟩
    exact ⟨final, runEq, due, passed, of_decide_eq_false served⟩
  · rcases Option.map_eq_some_iff.mp (by decide +kernel :
      (run (step PackedSet.sets Lifecycle.allTags) start returningRun).map
        (fun final => (final.phase.subsystems.map Subsystem.due,
          final.phase.subsystems.map Subsystem.passed, decide (AllServed final.phase))) =
        some ([[⟨7, 0⟩]], [[(⟨7, 0⟩, true), (⟨7, 0⟩, true)]], false)) with
      ⟨final, runEq, records⟩
    rcases Prod.mk.inj records with ⟨due, others⟩
    rcases Prod.mk.inj others with ⟨passed, served⟩
    exact ⟨final, runEq, due, passed, of_decide_eq_false served⟩

end SystemRemoteInitializer

end VoxelEngine.Ecs
