import VoxelEngine.Data.Slots
import Mathlib.Data.List.Nodup

/-!
# Entity identifiers and the entity pool

An entity identifier is an index together with a version.  Destroying an entity
lets its index be handed out again under the next version, so an identifier is
never reused although its index may be.  The pool records the live entities and
the version each index will get next.
-/

namespace VoxelEngine.Ecs

open VoxelEngine.Data

/-- `entt::entity`: an index and the number of times that index was reused. -/
structure Entity where
  index : Nat
  version : Nat
  deriving DecidableEq

/-- Sparse storages are addressed by the index alone. -/
instance : Slotted Entity Nat where
  slot := Entity.index

@[simp]
theorem slot_eq_index (entity : Entity) : Slotted.slot entity = entity.index :=
  rfl

/-- The live entities.  No two of them share an index, and all of them carry a
version that was handed out. -/
structure EntityPool where
  entities : List Entity
  nextVersion : Nat → Nat
  distinct : (entities.map Entity.index).Nodup
  issued : ∀ entity ∈ entities, entity.version < nextVersion entity.index

namespace EntityPool

/-- No entity was created yet. -/
def empty : EntityPool where
  entities := []
  nextVersion _ := 0
  distinct := List.nodup_nil
  issued := by simp

/-- The identifier a creation at `index` would hand out. -/
def fresh (pool : EntityPool) (index : Nat) : Entity :=
  ⟨index, pool.nextVersion index⟩

/-- `storage.create()`: hand out an index that no live entity occupies.  Which free
index is taken is left open. -/
def create (pool : EntityPool) (index : Nat) : Option EntityPool :=
  if free : index ∉ pool.entities.map Entity.index then
    some {
      entities := pool.fresh index :: pool.entities
      nextVersion := Function.update pool.nextVersion index (pool.nextVersion index + 1)
      distinct := by
        rw [List.map_cons, List.nodup_cons]
        exact ⟨free, pool.distinct⟩
      issued := by
        intro entity mem
        rcases List.mem_cons.mp mem with rfl | old
        · simp [fresh]
        · have index_ne : entity.index ≠ index := fun equal =>
            free (List.mem_map.mpr ⟨entity, old, equal⟩)
          rw [Function.update_of_ne index_ne]
          exact pool.issued entity old
    }
  else none

/-- `storage.create(hint)`: hand out the identifier itself if its index is free, and any other
one otherwise. -/
def createWithId (pool : EntityPool) (id : Entity) (index : Nat) : Option (Entity × EntityPool) :=
  if free : id.index ∉ pool.entities.map Entity.index then
    some (id, {
      entities := id :: pool.entities
      nextVersion := Function.update pool.nextVersion id.index (id.version + 1)
      distinct := by
        rw [List.map_cons, List.nodup_cons]
        exact ⟨free, pool.distinct⟩
      issued := by
        intro entity mem
        rcases List.mem_cons.mp mem with rfl | old
        · simp
        · have index_ne : entity.index ≠ id.index := fun equal =>
            free (List.mem_map.mpr ⟨entity, old, equal⟩)
          rw [Function.update_of_ne index_ne]
          exact pool.issued entity old
    })
  else (pool.create index).map fun created => (pool.fresh index, created)

/-- `storage.destroy(entity)`: the index becomes free again.  Destroying an entity
that is not alive is not a defined operation. -/
def destroy (pool : EntityPool) (entity : Entity) : Option EntityPool :=
  if entity ∈ pool.entities then
    some {
      entities := pool.entities.erase entity
      nextVersion := pool.nextVersion
      distinct := pool.distinct.sublist (List.erase_sublist.map _)
      issued := fun other mem => pool.issued other (List.mem_of_mem_erase mem)
    }
  else none

theorem nodup (pool : EntityPool) : pool.entities.Nodup :=
  List.Nodup.of_map _ pool.distinct

/-- Live entities are determined by their index. -/
theorem eq_of_index_eq (pool : EntityPool) {first second : Entity}
    (firstLive : first ∈ pool.entities) (secondLive : second ∈ pool.entities)
    (index_eq : first.index = second.index) : first = second :=
  List.inj_on_of_nodup_map pool.distinct firstLive secondLive index_eq

/-- Everything a successful creation does. -/
theorem create_eq_some {pool next : EntityPool} {index : Nat}
    (created : pool.create index = some next) :
    (∀ entity ∈ pool.entities, entity.index ≠ index) ∧
      next.entities = pool.fresh index :: pool.entities ∧
      next.nextVersion =
        Function.update pool.nextVersion index (pool.nextVersion index + 1) := by
  unfold create at created
  split at created
  · rename_i free
    cases created
    refine ⟨?_, rfl, rfl⟩
    intro entity live index_eq
    exact free (List.mem_map.mpr ⟨entity, live, index_eq⟩)
  · contradiction

/-- What was handed out stays handed out. -/
theorem issued_create {pool next : EntityPool} {index : Nat} {entity : Entity}
    (created : pool.create index = some next)
    (issued : entity.version < pool.nextVersion entity.index) :
    entity.version < next.nextVersion entity.index := by
  obtain ⟨_, _, versionEq⟩ := create_eq_some created
  rw [versionEq, Function.update_apply]
  split
  · rename_i index_eq
    rw [index_eq] at issued
    exact Nat.lt_succ_of_lt issued
  · exact issued

/-- A creation brings back nothing that was handed out. -/
theorem mem_of_mem_create {pool next : EntityPool} {index : Nat} {entity : Entity}
    (created : pool.create index = some next)
    (issued : entity.version < pool.nextVersion entity.index)
    (live : entity ∈ next.entities) : entity ∈ pool.entities := by
  rw [(create_eq_some created).2.1] at live
  rcases List.mem_cons.mp live with rfl | old
  · exact absurd issued (Nat.lt_irrefl _)
  · exact old

/-- A creation with a requested identifier adds the entity that it hands out. -/
theorem createWithId_eq_some {pool next : EntityPool} {id entity : Entity} {index : Nat}
    (created : pool.createWithId id index = some (entity, next)) :
    next.entities = entity :: pool.entities := by
  unfold createWithId at created
  split at created
  · cases created
    rfl
  · rcases Option.map_eq_some_iff.mp created with ⟨other, createdEq, pair_eq⟩
    cases pair_eq
    exact (create_eq_some createdEq).2.1

/-- Everything a successful destruction does. -/
theorem destroy_eq_some {pool next : EntityPool} {entity : Entity}
    (destroyed : pool.destroy entity = some next) :
    entity ∈ pool.entities ∧ next.entities = pool.entities.erase entity ∧
      next.nextVersion = pool.nextVersion := by
  unfold destroy at destroyed
  split at destroyed
  · rename_i live
    cases destroyed
    exact ⟨live, rfl, rfl⟩
  · contradiction

/-- After a destruction exactly the other entities are alive. -/
theorem mem_destroy_iff {pool next : EntityPool} {entity other : Entity}
    (destroyed : pool.destroy entity = some next) :
    other ∈ next.entities ↔ other ≠ entity ∧ other ∈ pool.entities := by
  rw [(destroy_eq_some destroyed).2.1]
  exact pool.nodup.mem_erase_iff

end EntityPool

end VoxelEngine.Ecs
