import VoxelEngine.ClientServer.CoreMessage

/-!
# The entity visibility system

For every connection the system stores the visibility status of every entity.  One
update consults the visibility rule for every live entity, collects the entities
whose status changed, tells the remote about them and forgets the entities that
were destroyed since the previous update.
-/

namespace VoxelEngine.Ecs

open VoxelEngine.ClientServer
open VoxelEngine.Data

/-- `visibility_status`, a visibility bit and a bit that says whether it changed. -/
inductive VisibilityStatus where
  | invisible
  | visible
  | becameInvisible
  | becameVisible
  deriving DecidableEq

namespace VisibilityStatus

/-- `status & VISIBILITY_BIT` -/
def visibilityBit : VisibilityStatus → Bool
  | invisible | becameInvisible => false
  | visible | becameVisible => true

/-- `status & CHANGED_BIT` -/
def changedBit : VisibilityStatus → Bool
  | invisible | visible => false
  | becameInvisible | becameVisible => true

/-- The status with the given bits. -/
def ofBits : (visibility changed : Bool) → VisibilityStatus
  | false, false => invisible
  | true, false => visible
  | false, true => becameInvisible
  | true, true => becameVisible

/-- The status after an update in which the rule gave `isVisible`. -/
def update (old : VisibilityStatus) (isVisible : Bool) : VisibilityStatus :=
  ofBits isVisible (old.visibilityBit != isVisible)

@[simp]
theorem visibilityBit_update (old : VisibilityStatus) (isVisible : Bool) :
    (old.update isVisible).visibilityBit = isVisible := by
  cases old <;> cases isVisible <;> rfl

theorem update_eq_becameVisible_iff (old : VisibilityStatus) (isVisible : Bool) :
    old.update isVisible = becameVisible ↔
      old.visibilityBit = false ∧ isVisible = true := by
  cases old <;> cases isVisible <;> simp [update, ofBits, visibilityBit]

theorem update_eq_becameInvisible_iff (old : VisibilityStatus) (isVisible : Bool) :
    old.update isVisible = becameInvisible ↔
      old.visibilityBit = true ∧ isVisible = false := by
  cases old <;> cases isVisible <;> simp [update, ofBits, visibilityBit]

end VisibilityStatus

/-- The statuses stored for one connection, `storage_type<visibility_status>`. -/
abbrev StatusStorage := SlotStorage Entity VisibilityStatus

namespace StatusStorage

/-- The stored status; an entity that was never visited counts as invisible. -/
def status (storage : StatusStorage) (entity : Entity) : VisibilityStatus :=
  (storage.get? entity).getD .invisible

/-- The remote currently sees the entity. -/
def Sees (storage : StatusStorage) (entity : Entity) : Prop :=
  (status storage entity).visibilityBit = true

instance (storage : StatusStorage) (entity : Entity) : Decidable (Sees storage entity) :=
  inferInstanceAs (Decidable (_ = true))

theorem sees_iff (storage : StatusStorage) (entity : Entity) :
    Sees storage entity ↔
      ∃ status, storage.get? entity = some status ∧ status.visibilityBit = true := by
  unfold Sees status
  cases stored : storage.get? entity with
  | none => simp [VisibilityStatus.visibilityBit]
  | some status => simp

end StatusStorage

open StatusStorage

/-- What one update computes for one connection. -/
structure VisibilityPass where
  storage : StatusStorage
  added : List Entity
  removed : List Entity

namespace VisibilityPass

/-- The loop body for one entity of the view: insert it when it is new, update its
status and note the change. -/
def visit (rule : Entity → Bool) (pass : VisibilityPass) (entity : Entity) :
    VisibilityPass :=
  let newStatus := (status pass.storage entity).update (rule entity)
  { storage := pass.storage.emplace entity newStatus
    added := if newStatus = .becameVisible then pass.added ++ [entity] else pass.added
    removed := if newStatus = .becameInvisible then pass.removed ++ [entity] else pass.removed }

/-- The loop over all entities. -/
def visitAll (rule : Entity → Bool) (entities : List Entity) (pass : VisibilityPass) :
    VisibilityPass :=
  entities.foldl (visit rule) pass

/-- The loop over the entities that were destroyed since the last update.  Only those
the storage still knows are in its view. -/
def visitDestroyed (destroyed : List Entity) (pass : VisibilityPass) : VisibilityPass :=
  let destroyedView := destroyed.filter pass.storage.contains
  { storage := pass.storage.eraseAll destroyedView
    added := pass.added
    removed := pass.removed ++
      destroyedView.filter fun entity => pass.storage.get? entity = some .visible }

/-- The body of `on_system_update` for one connection. -/
def updateConnection (rule : Entity → Bool) (entities destroyed : List Entity)
    (storage : StatusStorage) : VisibilityPass :=
  visitDestroyed destroyed (visitAll rule entities ⟨storage, [], []⟩)

/-- The lists of additions and deletions, sent in this order when not empty. -/
def messages (pass : VisibilityPass) : List CoreMessage :=
  (if pass.added = [] then [] else [.addEntity pass.added]) ++
    (if pass.removed = [] then [] else [.delEntity pass.removed])

/-- The visibility messages are plain messages. -/
@[simp]
theorem leaves_messages (pass : VisibilityPass) :
    pass.messages.flatMap CoreMessage.leaves = pass.messages := by
  unfold messages
  split <;> split <;> simp [CoreMessage.leaves]

@[simp]
theorem visitAll_cons (rule : Entity → Bool) (entity : Entity) (rest : List Entity)
    (pass : VisibilityPass) :
    visitAll rule (entity :: rest) pass = visitAll rule rest (visit rule pass entity) :=
  rfl

/-- Visiting an entity changes no status in another slot. -/
theorem visit_get?_of_index_ne (rule : Entity → Bool) (pass : VisibilityPass)
    {entity other : Entity} (index_ne : other.index ≠ entity.index) :
    (visit rule pass entity).storage.get? other = pass.storage.get? other :=
  pass.storage.get?_emplace_of_slot_ne _ index_ne

theorem visitAll_get?_of_index_ne (rule : Entity → Bool) {entities : List Entity}
    {other : Entity} (index_ne : ∀ entity ∈ entities, other.index ≠ entity.index)
    (pass : VisibilityPass) :
    (visitAll rule entities pass).storage.get? other = pass.storage.get? other := by
  induction entities generalizing pass with
  | nil => rfl
  | cons entity rest ih =>
      rw [visitAll_cons, ih fun later mem => index_ne later (List.mem_cons_of_mem _ mem)]
      exact visit_get?_of_index_ne rule pass (index_ne entity List.mem_cons_self)

theorem index_ne_of_nodup_cons {first : Entity} {rest : List Entity}
    (distinct : ((first :: rest).map Entity.index).Nodup) :
    ∀ later ∈ rest, later.index ≠ first.index := by
  rw [List.map_cons, List.nodup_cons] at distinct
  intro later mem equal
  exact distinct.1 (List.mem_map.mpr ⟨later, mem, equal⟩)

/-- Every visited entity ends up with its updated status. -/
theorem visitAll_get?_of_mem (rule : Entity → Bool) {entities : List Entity}
    (distinct : (entities.map Entity.index).Nodup) {entity : Entity}
    (mem : entity ∈ entities) (pass : VisibilityPass) :
    (visitAll rule entities pass).storage.get? entity =
      some ((status pass.storage entity).update (rule entity)) := by
  induction entities generalizing pass with
  | nil => simp at mem
  | cons first rest ih =>
      have ne_first := index_ne_of_nodup_cons distinct
      have first_ne : ∀ later ∈ rest, first.index ≠ later.index :=
        fun later mem => (ne_first later mem).symm
      rw [List.map_cons, List.nodup_cons] at distinct
      rw [visitAll_cons]
      rcases List.mem_cons.mp mem with rfl | later
      · rw [visitAll_get?_of_index_ne rule first_ne]
        simp [visit]
      · rw [ih distinct.2 later]
        unfold status
        rw [visit_get?_of_index_ne rule pass (ne_first entity later)]

/-- An entity outside the view loses its status when its slot is visited under
another version. -/
theorem visitAll_get?_of_displaced (rule : Entity → Bool) {entities : List Entity}
    {other : Entity} (notMem : other ∉ entities)
    (displaced : ∃ entity ∈ entities, other.index = entity.index) (pass : VisibilityPass) :
    (visitAll rule entities pass).storage.get? other = none := by
  induction entities generalizing pass with
  | nil => simp at displaced
  | cons first rest ih =>
      rw [List.mem_cons, not_or] at notMem
      rw [visitAll_cons]
      by_cases later : ∃ entity ∈ rest, other.index = entity.index
      · exact ih notMem.2 later _
      · have rest_ne : ∀ entity ∈ rest, other.index ≠ entity.index := fun entity mem equal =>
          later ⟨entity, mem, equal⟩
        obtain ⟨entity, mem, index_eq⟩ := displaced
        rcases List.mem_cons.mp mem with rfl | mem
        · rw [visitAll_get?_of_index_ne rule rest_ne]
          exact pass.storage.get?_emplace_of_slot_eq _ notMem.1 index_eq
        · exact absurd index_eq (rest_ne entity mem)

/-- The statuses of later entities do not depend on the ones visited before them. -/
private theorem filter_visit_eq (rule : Entity → Bool) (pass : VisibilityPass)
    {first : Entity} {rest : List Entity} (first_ne : ∀ later ∈ rest, later.index ≠ first.index)
    (wanted : VisibilityStatus) :
    (rest.filter fun entity =>
        decide ((status (visit rule pass first).storage entity).update (rule entity) = wanted)) =
      rest.filter fun entity =>
        decide ((status pass.storage entity).update (rule entity) = wanted) := by
  apply List.filter_congr
  intro entity mem
  unfold status
  rw [visit_get?_of_index_ne rule pass (first_ne entity mem)]

/-- The additions are the visited entities whose status becomes `becameVisible`, the deletions those
whose status becomes `becameInvisible`. -/
theorem visitAll_lists (rule : Entity → Bool) {entities : List Entity}
    (distinct : (entities.map Entity.index).Nodup) (pass : VisibilityPass) :
    ((visitAll rule entities pass).added = pass.added ++ entities.filter fun entity =>
        (status pass.storage entity).update (rule entity) = .becameVisible) ∧
      (visitAll rule entities pass).removed = pass.removed ++ entities.filter fun entity =>
        (status pass.storage entity).update (rule entity) = .becameInvisible := by
  induction entities generalizing pass with
  | nil => simp [visitAll]
  | cons first rest ih =>
      have first_ne := index_ne_of_nodup_cons distinct
      rw [List.map_cons, List.nodup_cons] at distinct
      rw [visitAll_cons, (ih distinct.2 _).1, (ih distinct.2 _).2,
        filter_visit_eq rule pass first_ne, filter_visit_eq rule pass first_ne]
      cases became : (status pass.storage first).update (rule first) <;> simp [visit, became]

/-! ## The whole pass -/

section UpdateConnection

variable (rule : Entity → Bool) {entities destroyed : List Entity}
  (storage : StatusStorage) {entity : Entity}

theorem updateConnection_get? (entities destroyed : List Entity) (entity : Entity) :
    (updateConnection rule entities destroyed storage).storage.get? entity =
      if entity ∈ destroyed then none
      else (visitAll rule entities ⟨storage, [], []⟩).storage.get? entity := by
  simp only [updateConnection, visitDestroyed]
  rw [SlotStorage.get?_eraseAll]
  by_cases mem : entity ∈ destroyed
  · simp only [List.mem_filter, mem, true_and, if_true]
    split
    · rfl
    · rename_i absent
      simpa [SlotStorage.contains] using absent
  · simp [mem]

/-- A live entity gets its updated status. -/
theorem updateConnection_get?_of_mem (distinct : (entities.map Entity.index).Nodup)
    (dead : ∀ other ∈ destroyed, other ∉ entities) (mem : entity ∈ entities) :
    (updateConnection rule entities destroyed storage).storage.get? entity =
      some ((status storage entity).update (rule entity)) := by
  rw [updateConnection_get?, if_neg fun reported => dead entity reported mem]
  exact visitAll_get?_of_mem rule distinct mem _

/-- A dead entity never gains a status. -/
theorem updateConnection_get?_of_notMem (destroyed : List Entity) (notMem : entity ∉ entities) :
    (updateConnection rule entities destroyed storage).storage.get? entity = none ∨
      (updateConnection rule entities destroyed storage).storage.get? entity =
        storage.get? entity := by
  rw [updateConnection_get?]
  by_cases reported : entity ∈ destroyed
  · exact Or.inl (if_pos reported)
  · rw [if_neg reported]
    by_cases displaced : ∃ other ∈ entities, entity.index = other.index
    · exact Or.inl (visitAll_get?_of_displaced rule notMem displaced _)
    · refine Or.inr (visitAll_get?_of_index_ne rule ?_ _)
      intro other otherMem index_eq
      exact displaced ⟨other, otherMem, index_eq⟩

/-- After an update a live entity is seen exactly when the rule says so. -/
theorem sees_updateConnection_of_mem (distinct : (entities.map Entity.index).Nodup)
    (dead : ∀ other ∈ destroyed, other ∉ entities) (mem : entity ∈ entities) :
    Sees (updateConnection rule entities destroyed storage).storage entity ↔
      rule entity = true := by
  rw [sees_iff, updateConnection_get?_of_mem rule storage distinct dead mem]
  simp

theorem sees_of_sees_updateConnection (notMem : entity ∉ entities)
    (sees : Sees (updateConnection rule entities destroyed storage).storage entity) :
    Sees storage entity := by
  rw [sees_iff] at sees ⊢
  rcases updateConnection_get?_of_notMem rule storage destroyed notMem with
    absent | same
  · rw [absent] at sees
    simp at sees
  · rwa [same] at sees

/-- The remote is told of the live entities it sees now but did not see before. -/
theorem mem_added_updateConnection_iff (distinct : (entities.map Entity.index).Nodup) :
    entity ∈ (updateConnection rule entities destroyed storage).added ↔
      entity ∈ entities ∧ ¬Sees storage entity ∧ rule entity = true := by
  simp only [updateConnection, visitDestroyed]
  rw [(visitAll_lists rule distinct _).1]
  simp [VisibilityStatus.update_eq_becameVisible_iff, Sees]

/-- A live entity is taken back when it was seen before but is not seen any more. -/
theorem mem_removed_updateConnection_iff (distinct : (entities.map Entity.index).Nodup)
    (dead : ∀ other ∈ destroyed, other ∉ entities) (mem : entity ∈ entities) :
    entity ∈ (updateConnection rule entities destroyed storage).removed ↔
      Sees storage entity ∧ rule entity = false := by
  simp only [updateConnection, visitDestroyed]
  rw [(visitAll_lists rule distinct _).2]
  have notReported : entity ∉ destroyed := fun reported => dead entity reported mem
  simp [VisibilityStatus.update_eq_becameInvisible_iff, Sees, mem, notReported]

/-- A destroyed entity that was visible is taken back, unless a live entity sits in its
slot. -/
theorem mem_removed_of_destroyed (visible : storage.get? entity = some .visible)
    (reported : entity ∈ destroyed) (slotFree : ∀ other ∈ entities, entity.index ≠ other.index) :
    entity ∈ (updateConnection rule entities destroyed storage).removed := by
  simp only [updateConnection, visitDestroyed]
  have kept := visitAll_get?_of_index_ne rule slotFree ⟨storage, [], []⟩
  rw [visible] at kept
  refine List.mem_append_right _ (List.mem_filter.mpr ⟨List.mem_filter.mpr ⟨reported, ?_⟩, ?_⟩)
  · simp [SlotStorage.contains, kept]
  · simp [kept]

/-- The added entities are live, and each of them is added once. -/
theorem added_updateConnection_sublist (destroyed : List Entity)
    (distinct : (entities.map Entity.index).Nodup) :
    (updateConnection rule entities destroyed storage).added.Sublist entities := by
  simp only [updateConnection, visitDestroyed]
  rw [(visitAll_lists rule distinct _).1, List.nil_append]
  exact List.filter_sublist

/-- Only what was visible is taken back. -/
theorem sees_of_mem_removed (distinct : (entities.map Entity.index).Nodup)
    (dead : ∀ other ∈ destroyed, other ∉ entities)
    (mem : entity ∈ (updateConnection rule entities destroyed storage).removed) :
    Sees storage entity := by
  by_cases live : entity ∈ entities
  · exact ((mem_removed_updateConnection_iff rule storage distinct dead live).mp mem).1
  · simp only [updateConnection, visitDestroyed] at mem
    rw [(visitAll_lists rule distinct _).2, List.nil_append, List.mem_append] at mem
    rcases mem with updated | reported
    · exact absurd (List.mem_of_mem_filter updated) live
    · have visible := (List.mem_filter.mp reported).2
      simp only [decide_eq_true_eq] at visible
      by_cases displaced : ∃ other ∈ entities, entity.index = other.index
      · rw [visitAll_get?_of_displaced rule live displaced] at visible
        contradiction
      · have slotFree : ∀ other ∈ entities, entity.index ≠ other.index :=
          fun other otherMem index_eq => displaced ⟨other, otherMem, index_eq⟩
        rw [visitAll_get?_of_index_ne rule slotFree] at visible
        exact (sees_iff storage entity).mpr ⟨.visible, visible, rfl⟩

/-- No entity is taken back twice. -/
theorem removed_updateConnection_nodup (distinct : (entities.map Entity.index).Nodup)
    (dead : ∀ other ∈ destroyed, other ∉ entities) (destroyedNodup : destroyed.Nodup) :
    (updateConnection rule entities destroyed storage).removed.Nodup := by
  simp only [updateConnection, visitDestroyed]
  rw [(visitAll_lists rule distinct _).2, List.nil_append, List.nodup_append]
  refine ⟨(List.Nodup.of_map _ distinct).filter _, (destroyedNodup.filter _).filter _, ?_⟩
  rintro first firstMem second secondMem rfl
  exact dead first (List.mem_of_mem_filter (List.mem_of_mem_filter secondMem))
    (List.mem_of_mem_filter firstMem)

end UpdateConnection

end VisibilityPass

/-- The state of `system_entity_visibility`. -/
structure EntityVisibility where
  storage : InstanceId → StatusStorage
  destroyedEntities : List Entity

namespace EntityVisibility

/-- The state after `on_system_added`. -/
def initial : EntityVisibility where
  storage _ := SlotStorage.empty
  destroyedEntities := []

/-- The handler of `entity_destroyed_event`.  The set of destroyed entities is itself
sparse: it remembers one version of an index. -/
def onEntityDestroyed (system : EntityVisibility) (entity : Entity) : EntityVisibility :=
  if entity ∈ system.destroyedEntities then system
  else
    { system with
      destroyedEntities :=
        entity :: system.destroyedEntities.filter fun other => other.index ≠ entity.index }

/-- The handler of `instance_disconnected_event`. -/
def onRemoteDisconnected (system : EntityVisibility) (remote : InstanceId) :
    EntityVisibility :=
  { system with storage := Function.update system.storage remote SlotStorage.empty }

@[simp]
theorem storage_onEntityDestroyed (system : EntityVisibility) (entity : Entity) :
    (system.onEntityDestroyed entity).storage = system.storage := by
  unfold onEntityDestroyed
  split <;> rfl

theorem storage_onRemoteDisconnected_of_ne (system : EntityVisibility)
    {remote other : InstanceId} (ne : other ≠ remote) :
    (system.onRemoteDisconnected remote).storage other = system.storage other :=
  Function.update_of_ne ne _ _

theorem mem_onEntityDestroyed_iff (system : EntityVisibility) (entity other : Entity) :
    other ∈ (system.onEntityDestroyed entity).destroyedEntities ↔
      other = entity ∨ (other ∈ system.destroyedEntities ∧
        (entity ∈ system.destroyedEntities ∨ other.index ≠ entity.index)) := by
  unfold onEntityDestroyed
  by_cases known : entity ∈ system.destroyedEntities
  · rw [if_pos known]
    constructor
    · intro mem
      exact Or.inr ⟨mem, Or.inl known⟩
    · rintro (rfl | ⟨mem, _⟩)
      · exact known
      · exact mem
  · rw [if_neg known]
    simp [known]

theorem nodup_onEntityDestroyed (system : EntityVisibility) (entity : Entity)
    (nodup : system.destroyedEntities.Nodup) :
    (system.onEntityDestroyed entity).destroyedEntities.Nodup := by
  unfold onEntityDestroyed
  split
  · exact nodup
  · rename_i unknown
    exact List.nodup_cons.mpr ⟨fun mem => unknown (List.mem_of_mem_filter mem), nodup.filter _⟩

end EntityVisibility

end VoxelEngine.Ecs
