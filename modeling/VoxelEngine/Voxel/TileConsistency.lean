import Mathlib.Data.List.Nodup
import VoxelEngine.Voxel.TileRegistry

/-!
# Tiles and slots agree

A registered tile occupies exactly the slot its id and metadata describe, and freed slots
are empty.  Every call keeps it that way, so it holds of every reachable registry.
-/

namespace VoxelEngine.Voxel

open VoxelEngine.Data
open VoxelEngine.Data.SlotVector
open VoxelEngine.Transition
open Tile (numStates)

variable {T : Type} [Tile T]

namespace TileRegistry

/-- Tiles and slots agree, and the tombstones lead to empty slots. -/
structure Consistent (registry : TileRegistry T) : Prop where
  stateful_owner : ∀ index tile, occupant registry.statefulTiles index = some tile →
    isStateless tile = false ∧ (registry.info tile).id.toNat = index
  stateless_owner : ∀ id index tile, occupant (registry.statelessTiles id) index = some tile →
    id < reservedStatelessTileIds ∧ isStateless tile = true ∧
      (registry.info tile).id.toNat = id ∧ (registry.info tile).metastate.toNat = index
  stateful_home : ∀ tile, registry.Registered tile → isStateless tile = false →
    occupant registry.statefulTiles (registry.info tile).id.toNat = some tile
  stateless_home : ∀ tile, registry.Registered tile → isStateless tile = true →
    (registry.info tile).id.toNat < reservedStatelessTileIds ∧
      occupant (registry.statelessTiles (registry.info tile).id.toNat)
        (registry.info tile).metastate.toNat = some tile
  stateful_size : registry.statefulTiles.length < invalidTileId.toNat
  stateless_size : ∀ id, (registry.statelessTiles id).length ≤ maxTileMetadata
  stateful_vacant : ∀ id ∈ registry.statefulTombstones,
    id.toNat + 1 < invalidTileId.toNat ∧ occupant registry.statefulTiles id.toNat = none
  stateless_vacant : ∀ entry ∈ registry.statelessTombstones,
    entry.1.toNat < reservedStatelessTileIds ∧ entry.2.toNat + 1 ≤ maxTileMetadata ∧
      occupant (registry.statelessTiles entry.1.toNat) entry.2.toNat = none
  stateful_nodup : registry.statefulTombstones.Nodup
  stateless_nodup : registry.statelessTombstones.Nodup
  has_states : ∀ tile, registry.Registered tile → numStates tile ≠ 0

theorem consistent_empty : (empty : TileRegistry T).Consistent where
  stateful_owner := by simp [empty]
  stateless_owner := by simp [empty]
  stateful_home tile registered := absurd rfl registered
  stateless_home tile registered := absurd rfl registered
  stateful_size := by simp [empty]
  stateless_size := by simp [empty]
  stateful_vacant := by simp [empty]
  stateless_vacant := by simp [empty]
  stateful_nodup := List.nodup_nil
  stateless_nodup := List.nodup_nil
  has_states tile registered := absurd rfl registered

section Vacancy

variable {registry : TileRegistry T} {tile : T}

/-- An unregistered tile occupies no slot. -/
private theorem Consistent.stateful_occupant_ne (consistent : registry.Consistent)
    (unregistered : ¬registry.Registered tile) {index : Nat} {other : T}
    (occupied : occupant registry.statefulTiles index = some other) : other ≠ tile := by
  rintro rfl
  refine unregistered fun invalid => ?_
  have owner := (consistent.stateful_owner index other occupied).2
  have size := consistent.stateful_size
  have inside := lt_of_occupant occupied
  rw [invalid] at owner
  exact Nat.lt_irrefl _ (Nat.lt_trans (owner ▸ inside) size)

private theorem Consistent.stateless_occupant_ne (consistent : registry.Consistent)
    (unregistered : ¬registry.Registered tile) {id index : Nat} {other : T}
    (occupied : occupant (registry.statelessTiles id) index = some other) : other ≠ tile := by
  rintro rfl
  refine unregistered fun invalid => ?_
  obtain ⟨reserved, _, owner, _⟩ := consistent.stateless_owner id index other occupied
  rw [invalid, toNat_invalidTileId] at owner
  exact Nat.lt_irrefl _ (Nat.lt_trans (owner ▸ reserved) reservedStatelessTileIds_lt)

/-- Forgetting tombstones does no harm. -/
private theorem Consistent.forget (consistent : registry.Consistent)
    {stateful : List TileId} {stateless : List (TileId × TileId)}
    (statefulSublist : stateful.Sublist registry.statefulTombstones)
    (statelessSublist : stateless.Sublist registry.statelessTombstones) :
    Consistent { registry with
      statefulTombstones := stateful
      statelessTombstones := stateless } :=
  { consistent with
    stateful_vacant := fun id mem => consistent.stateful_vacant id (statefulSublist.subset mem)
    stateless_vacant := fun entry mem =>
      consistent.stateless_vacant entry (statelessSublist.subset mem)
    stateful_nodup := consistent.stateful_nodup.sublist statefulSublist
    stateless_nodup := consistent.stateless_nodup.sublist statelessSublist }

/-- Cutting off empty slots keeps the registry consistent. -/
private theorem Consistent.resizeStateful (consistent : registry.Consistent) {size : Nat}
    (small : size < invalidTileId.toNat)
    (covers : ∀ tile, registry.Registered tile → isStateless tile = false →
      (registry.info tile).id.toNat < size) :
    Consistent { registry with statefulTiles := resize registry.statefulTiles size } where
  stateful_owner index tile occupied := by
    simp only [occupant_resize] at occupied
    split at occupied
    · exact consistent.stateful_owner index tile occupied
    · contradiction
  stateless_owner := consistent.stateless_owner
  stateful_home tile registered stateful := by
    simp only [occupant_resize]
    rw [if_pos (covers tile registered stateful)]
    exact consistent.stateful_home tile registered stateful
  stateless_home := consistent.stateless_home
  stateful_size := by simpa using small
  stateless_size := consistent.stateless_size
  stateful_vacant id mem := by
    obtain ⟨idSmall, empty⟩ := consistent.stateful_vacant id mem
    refine ⟨idSmall, ?_⟩
    simp only [occupant_resize, empty, ite_self]
  stateless_vacant := consistent.stateless_vacant
  stateful_nodup := consistent.stateful_nodup
  stateless_nodup := consistent.stateless_nodup
  has_states := consistent.has_states

private theorem Consistent.resizeStateless (consistent : registry.Consistent) {id size : Nat}
    (small : size ≤ maxTileMetadata)
    (covers : ∀ tile, registry.Registered tile → isStateless tile = true →
      (registry.info tile).id.toNat = id → (registry.info tile).metastate.toNat < size) :
    Consistent { registry with
      statelessTiles := Function.update registry.statelessTiles id
        (resize (registry.statelessTiles id) size) } where
  stateful_owner := consistent.stateful_owner
  stateless_owner otherId index tile occupied := by
    simp only [occupant_update_resize] at occupied
    split at occupied
    · contradiction
    · exact consistent.stateless_owner otherId index tile occupied
  stateful_home := consistent.stateful_home
  stateless_home tile registered stateless := by
    obtain ⟨reserved, home⟩ := consistent.stateless_home tile registered stateless
    refine ⟨reserved, ?_⟩
    simp only [occupant_update_resize]
    rw [if_neg, home]
    rintro ⟨sameId, outside⟩
    exact Nat.not_lt.mpr outside (covers tile registered stateless sameId)
  stateful_size := consistent.stateful_size
  stateless_size otherId := by
    simp only [Function.update_apply]
    split
    · simpa using small
    · exact consistent.stateless_size otherId
  stateful_vacant := consistent.stateful_vacant
  stateless_vacant entry mem := by
    obtain ⟨reserved, entrySmall, empty⟩ := consistent.stateless_vacant entry mem
    refine ⟨reserved, entrySmall, ?_⟩
    simp only [occupant_update_resize, empty, ite_self]
  stateful_nodup := consistent.stateful_nodup
  stateless_nodup := consistent.stateless_nodup
  has_states := consistent.has_states

/-- The tiles of the stateful vector are registered and all different. -/
theorem Consistent.stateful_slots (consistent : registry.Consistent) :
    Distinct registry.statefulTiles ∧
      ∀ tile, some tile ∈ registry.statefulTiles →
        registry.Registered tile ∧ isStateless tile = false ∧
          (registry.info tile).id.toNat < invalidTileId.toNat - 1 := by
  refine ⟨distinct_of_injective fun first second tile firstHolds secondHolds => ?_, ?_⟩
  · exact (consistent.stateful_owner first tile firstHolds).2.symm.trans
      (consistent.stateful_owner second tile secondHolds).2
  · intro tile mem
    obtain ⟨index, occupied⟩ := occupant_of_mem mem
    obtain ⟨stateful, owner⟩ := consistent.stateful_owner index tile occupied
    have inside := lt_of_occupant occupied
    have size := consistent.stateful_size
    refine ⟨fun invalid => ?_, stateful, by omega⟩
    rw [invalid] at owner
    omega

/-- The tiles of a stateless vector are registered under its id and all different. -/
theorem Consistent.stateless_slots (consistent : registry.Consistent) (id : Nat) :
    Distinct (registry.statelessTiles id) ∧
      ∀ tile, some tile ∈ registry.statelessTiles id →
        registry.Registered tile ∧ (registry.info tile).id.toNat = id ∧
          (registry.info tile).metastate.toNat < maxTileMetadata := by
  refine ⟨distinct_of_injective fun first second tile firstHolds secondHolds => ?_, ?_⟩
  · exact (consistent.stateless_owner id first tile firstHolds).2.2.2.symm.trans
      (consistent.stateless_owner id second tile secondHolds).2.2.2
  · intro tile mem
    obtain ⟨index, occupied⟩ := occupant_of_mem mem
    obtain ⟨reserved, _, owner, metastate⟩ := consistent.stateless_owner id index tile occupied
    have inside := lt_of_occupant occupied
    have size := consistent.stateless_size id
    refine ⟨fun invalid => ?_, owner, by omega⟩
    rw [invalid, toNat_invalidTileId] at owner
    have small := reservedStatelessTileIds_lt
    omega

end Vacancy

variable [DecidableEq T]

section Register

variable {registry : TileRegistry T} {tile : T}

/-- Putting a stateful tile into an empty slot. -/
private theorem consistent_registerStateful (consistent : registry.Consistent)
    (unregistered : ¬registry.Registered tile) (states : numStates tile ≠ 0)
    (stateful : isStateless tile = false) (removable : Bool) {id : TileId}
    (vacant : occupant registry.statefulTiles id.toNat = none)
    (small : id.toNat + 1 < invalidTileId.toNat) (notFreed : id ∉ registry.statefulTombstones) :
    (registry.registerStateful tile removable id).Consistent where
  stateful_owner index other occupied := by
    simp only [registerStateful, occupant_place] at occupied ⊢
    split at occupied
    · rename_i index_eq
      cases occupied
      simp [stateful, index_eq]
    · have ne := consistent.stateful_occupant_ne unregistered occupied
      rw [Function.update_of_ne ne]
      exact consistent.stateful_owner index other occupied
  stateless_owner otherId index other occupied := by
    have ne := consistent.stateless_occupant_ne unregistered occupied
    simp only [registerStateful, Function.update_of_ne ne]
    exact consistent.stateless_owner otherId index other occupied
  stateful_home other registered otherStateful := by
    simp only [registerStateful, Registered] at registered ⊢
    by_cases other_eq : other = tile
    · subst other_eq
      simp [occupant_place]
    · rw [Function.update_of_ne other_eq] at registered ⊢
      have home := consistent.stateful_home other registered otherStateful
      rw [occupant_place, if_neg, home]
      intro same
      rw [same, vacant] at home
      contradiction
  stateless_home other registered otherStateless := by
    have other_ne : other ≠ tile := by
      rintro rfl
      rw [stateful] at otherStateless
      contradiction
    simp only [registerStateful, Registered, Function.update_of_ne other_ne] at registered ⊢
    exact consistent.stateless_home other registered otherStateless
  stateful_size := by
    simp only [registerStateful, length_place]
    exact Nat.max_lt.mpr ⟨small, consistent.stateful_size⟩
  stateless_size := consistent.stateless_size
  stateful_vacant freed mem := by
    obtain ⟨freedSmall, empty⟩ := consistent.stateful_vacant freed mem
    simp only [registerStateful, occupant_place]
    refine ⟨freedSmall, ?_⟩
    rw [if_neg, empty]
    intro same
    exact notFreed (UInt16.toNat_inj.mp same ▸ mem)
  stateless_vacant := consistent.stateless_vacant
  stateful_nodup := consistent.stateful_nodup
  stateless_nodup := consistent.stateless_nodup
  has_states other registered := by
    by_cases other_eq : other = tile
    · rw [other_eq]
      exact states
    · simp only [registerStateful, Registered, Function.update_of_ne other_eq] at registered
      exact consistent.has_states other registered

/-- Putting a stateless tile into an empty slot. -/
private theorem consistent_registerStateless (consistent : registry.Consistent)
    (unregistered : ¬registry.Registered tile) (states : numStates tile ≠ 0)
    (stateless : isStateless tile = true) (removable : Bool) {id index : TileId}
    (reserved : id.toNat < reservedStatelessTileIds)
    (vacant : occupant (registry.statelessTiles id.toNat) index.toNat = none)
    (small : index.toNat + 1 ≤ maxTileMetadata)
    (notFreed : (id, index) ∉ registry.statelessTombstones) :
    (registry.registerStateless tile removable id index).Consistent where
  stateful_owner otherIndex other occupied := by
    have ne := consistent.stateful_occupant_ne unregistered occupied
    simp only [registerStateless, Function.update_of_ne ne]
    exact consistent.stateful_owner otherIndex other occupied
  stateless_owner otherId otherIndex other occupied := by
    simp only [registerStateless, occupant_update_place] at occupied ⊢
    split at occupied
    · rename_i same
      cases occupied
      simp [stateless, same.1, same.2, reserved]
    · have ne := consistent.stateless_occupant_ne unregistered occupied
      rw [Function.update_of_ne ne]
      exact consistent.stateless_owner otherId otherIndex other occupied
  stateful_home other registered otherStateful := by
    have other_ne : other ≠ tile := by
      rintro rfl
      rw [stateless] at otherStateful
      contradiction
    simp only [registerStateless, Registered, Function.update_of_ne other_ne] at registered ⊢
    exact consistent.stateful_home other registered otherStateful
  stateless_home other registered otherStateless := by
    simp only [registerStateless, Registered] at registered ⊢
    by_cases other_eq : other = tile
    · subst other_eq
      simp [occupant_place, reserved]
    · rw [Function.update_of_ne other_eq] at registered ⊢
      obtain ⟨otherReserved, home⟩ := consistent.stateless_home other registered otherStateless
      refine ⟨otherReserved, ?_⟩
      rw [occupant_update_place, if_neg, home]
      rintro ⟨sameId, sameIndex⟩
      rw [sameId, sameIndex, vacant] at home
      contradiction
  stateful_size := consistent.stateful_size
  stateless_size otherId := by
    simp only [registerStateless, Function.update_apply]
    split
    · rw [length_place]
      exact Nat.max_le.mpr ⟨small, consistent.stateless_size id.toNat⟩
    · exact consistent.stateless_size otherId
  stateful_vacant := consistent.stateful_vacant
  stateless_vacant freed mem := by
    obtain ⟨freedReserved, freedSmall, empty⟩ := consistent.stateless_vacant freed mem
    simp only [registerStateless, occupant_update_place]
    refine ⟨freedReserved, freedSmall, ?_⟩
    rw [if_neg, empty]
    rintro ⟨sameId, sameIndex⟩
    have freed_eq : freed = (id, index) :=
      Prod.ext (UInt16.toNat_inj.mp sameId) (UInt16.toNat_inj.mp sameIndex)
    exact notFreed (freed_eq ▸ mem)
  stateful_nodup := consistent.stateful_nodup
  stateless_nodup := consistent.stateless_nodup
  has_states other registered := by
    by_cases other_eq : other = tile
    · rw [other_eq]
      exact states
    · simp only [registerStateless, Registered, Function.update_of_ne other_eq] at registered
      exact consistent.has_states other registered

/-- Where a stateful tile is put: into the slot of a tombstone, which is taken off the list,
or behind the last slot. -/
structure StatefulSlot (registry : TileRegistry T) (tombstones : List TileId) (id : TileId) :
    Prop where
  origin : id ∈ registry.statefulTombstones ∨ id.toNat = registry.statefulTiles.length
  vacant : occupant registry.statefulTiles id.toNat = none
  small : id.toNat + 1 < invalidTileId.toNat
  sublist : tombstones.Sublist registry.statefulTombstones
  mem_iff : ∀ freed, freed ∈ tombstones ↔ freed ≠ id ∧ freed ∈ registry.statefulTombstones

/-- Where a stateless tile is put. -/
structure StatelessSlot (registry : TileRegistry T) (tombstones : List (TileId × TileId))
    (id index : TileId) : Prop where
  origin : (id, index) ∈ registry.statelessTombstones ∨
    index.toNat = (registry.statelessTiles id.toNat).length
  reserved : id.toNat < reservedStatelessTileIds
  vacant : occupant (registry.statelessTiles id.toNat) index.toNat = none
  small : index.toNat + 1 ≤ maxTileMetadata
  sublist : tombstones.Sublist registry.statelessTombstones
  mem_iff : ∀ freed, freed ∈ tombstones ↔
    freed ≠ (id, index) ∧ freed ∈ registry.statelessTombstones

omit [Tile T] [DecidableEq T] in
/-- Taking the first tombstone leaves the other ones. -/
private theorem mem_rest_iff {α : Type} {first : α} {rest tombstones : List α}
    (freed : tombstones = first :: rest) (nodup : tombstones.Nodup) (entry : α) :
    entry ∈ rest ↔ entry ≠ first ∧ entry ∈ tombstones := by
  subst freed
  rw [List.nodup_cons] at nodup
  rw [List.mem_cons]
  constructor
  · intro mem
    exact ⟨fun same => nodup.1 (same ▸ mem), .inr mem⟩
  · rintro ⟨other, same | mem⟩
    · exact absurd same other
    · exact mem

omit [DecidableEq T] in
/-- The slot of the first tombstone takes a stateful tile. -/
private theorem statefulSlot_of_tombstone (consistent : registry.Consistent) {id : TileId}
    {rest : List TileId} (freed : registry.statefulTombstones = id :: rest) :
    registry.StatefulSlot rest id := by
  have mem : id ∈ registry.statefulTombstones := freed ▸ List.mem_cons_self
  rcases consistent.stateful_vacant id mem with ⟨small, vacant⟩
  refine ⟨.inl mem, vacant, small, ?_, mem_rest_iff freed consistent.stateful_nodup⟩
  rw [freed]
  exact List.sublist_cons_self id rest

omit [Tile T] [DecidableEq T] in
/-- Without tombstones the slot behind the last one does. -/
private theorem statefulSlot_of_room (freed : registry.statefulTombstones = [])
    (room : registry.statefulTiles.length + 1 < invalidTileId.toNat) :
    registry.StatefulSlot [] (UInt16.ofNat registry.statefulTiles.length) := by
  have sizeSmall : registry.statefulTiles.length < 65536 := by
    rw [toNat_invalidTileId] at room
    omega
  have sizeEq : (UInt16.ofNat registry.statefulTiles.length).toNat =
      registry.statefulTiles.length := UInt16.toNat_ofNat_of_lt' sizeSmall
  refine ⟨.inr sizeEq, ?_, ?_, List.nil_sublist _, by simp [freed]⟩
  · rw [sizeEq]
    exact occupant_of_length_le (Nat.le_refl _)
  · rw [sizeEq]
    exact room

omit [DecidableEq T] in
/-- The slot of the first tombstone takes a stateless tile. -/
private theorem statelessSlot_of_tombstone (consistent : registry.Consistent)
    {id index : TileId} {rest : List (TileId × TileId)}
    (freed : registry.statelessTombstones = (id, index) :: rest) :
    registry.StatelessSlot rest id index := by
  have mem : (id, index) ∈ registry.statelessTombstones := freed ▸ List.mem_cons_self
  rcases consistent.stateless_vacant (id, index) mem with ⟨reserved, small, vacant⟩
  refine ⟨.inl mem, reserved, vacant, small, ?_, mem_rest_iff freed consistent.stateless_nodup⟩
  rw [freed]
  exact List.sublist_cons_self (id, index) rest

omit [DecidableEq T] in
/-- Without tombstones the slot behind the last one of a reserved id with room does. -/
private theorem statelessSlot_of_room (consistent : registry.Consistent)
    (freed : registry.statelessTombstones = []) {id : Nat}
    (reserved : id < reservedStatelessTileIds)
    (room : (registry.statelessTiles id).length < maxTileMetadata) :
    registry.StatelessSlot [] (UInt16.ofNat id)
      (UInt16.ofNat (registry.statelessTiles id).length) := by
  have idSmall : id < 65536 := Nat.lt_trans reserved (by decide)
  have sizeSmall : (registry.statelessTiles id).length < 65536 :=
    Nat.lt_of_le_of_lt (consistent.stateless_size id) (by decide)
  have idEq : (UInt16.ofNat id).toNat = id := UInt16.toNat_ofNat_of_lt' idSmall
  have sizeEq : (UInt16.ofNat (registry.statelessTiles id).length).toNat =
      (registry.statelessTiles id).length := UInt16.toNat_ofNat_of_lt' sizeSmall
  refine ⟨?_, ?_, ?_, ?_, List.nil_sublist _, by simp [freed]⟩
  · rw [idEq]
    exact .inr sizeEq
  · rw [idEq]
    exact reserved
  · rw [idEq, sizeEq]
    exact occupant_of_length_le (Nat.le_refl _)
  · rw [sizeEq]
    exact Nat.succ_le_of_lt room

/-- Everything registering a tile does. -/
theorem placeTile_eq_some (consistent : registry.Consistent) {removable : Bool}
    {next : TileRegistry T} (placed : registry.placeTile tile removable = some next) :
    numStates tile ≠ 0 ∧ ¬registry.Registered tile ∧
      ((isStateless tile = true ∧ ∃ tombstones id index,
          registry.StatelessSlot tombstones id index ∧
          next = { registry with statelessTombstones := tombstones }.registerStateless tile
            removable id index) ∨
        (isStateless tile = false ∧ ∃ tombstones id, registry.StatefulSlot tombstones id ∧
          next = { registry with statefulTombstones := tombstones }.registerStateful tile
            removable id)) := by
  unfold placeTile at placed
  split at placed
  · contradiction
  · rename_i allowed
    rcases not_or.mp allowed with ⟨states, unregistered⟩
    refine ⟨states, unregistered, ?_⟩
    split at placed
    · rename_i stateless
      refine .inl ⟨stateless, ?_⟩
      cases freed : registry.statelessTombstones with
      | cons entry rest =>
          rcases entry with ⟨id, index⟩
          rw [freed] at placed
          cases placed
          exact ⟨rest, id, index, statelessSlot_of_tombstone consistent freed, rfl⟩
      | nil =>
          rw [freed] at placed
          rcases Option.map_eq_some_iff.mp placed with ⟨id, found, rfl⟩
          have room := List.find?_some found
          have reserved := List.mem_range.mp (List.mem_of_find?_eq_some found)
          exact ⟨[], _, _,
            statelessSlot_of_room consistent freed reserved (of_decide_eq_true room),
            by rw [← freed]⟩
    · rename_i hasState
      refine .inr ⟨eq_false_of_ne_true hasState, ?_⟩
      cases freed : registry.statefulTombstones with
      | cons id rest =>
          rw [freed] at placed
          cases placed
          exact ⟨rest, id, statefulSlot_of_tombstone consistent freed, rfl⟩
      | nil =>
          rw [freed] at placed
          simp only at placed
          split at placed
          · rename_i room
            cases placed
            exact ⟨[], _, statefulSlot_of_room freed room, by rw [← freed]⟩
          · contradiction

/-- Registering a tile keeps the registry consistent. -/
theorem consistent_placeTile (consistent : registry.Consistent) {removable : Bool}
    {next : TileRegistry T} (placed : registry.placeTile tile removable = some next) :
    next.Consistent := by
  rcases placeTile_eq_some consistent placed with
    ⟨states, unregistered, ⟨stateless, tombstones, id, index, slot, rfl⟩ |
      ⟨stateful, tombstones, id, slot, rfl⟩⟩
  · have remaining := consistent.forget (List.Sublist.refl _) slot.sublist
    apply consistent_registerStateless remaining unregistered states stateless removable
      slot.reserved slot.vacant slot.small
    exact fun mem => ((slot.mem_iff (id, index)).mp mem).1 rfl
  · have remaining := consistent.forget slot.sublist (List.Sublist.refl _)
    apply consistent_registerStateful remaining unregistered states stateful removable
      slot.vacant slot.small
    exact fun mem => ((slot.mem_iff id).mp mem).1 rfl

end Register

section Unregister

variable {registry next : TileRegistry T} {tile : T}

/-- Everything unregistering a tile does. -/
theorem unregisterTile_eq_some (unregistered : registry.unregisterTile tile = some next) :
    registry.Registered tile ∧ (registry.info tile).removable = true ∧
      next.info = Function.update registry.info tile
        { registry.info tile with id := invalidTileId, metastate := invalidTileId } ∧
      if isStateless tile then
        next.statefulTiles = registry.statefulTiles ∧
          next.statefulTombstones = registry.statefulTombstones ∧
          next.statelessTiles = Function.update registry.statelessTiles
            (registry.info tile).id.toNat
            (vacate (registry.statelessTiles (registry.info tile).id.toNat)
              (registry.info tile).metastate.toNat) ∧
          next.statelessTombstones =
            ((registry.info tile).id, (registry.info tile).metastate) ::
              registry.statelessTombstones
      else
        next.statefulTiles = vacate registry.statefulTiles (registry.info tile).id.toNat ∧
          next.statefulTombstones = (registry.info tile).id :: registry.statefulTombstones ∧
          next.statelessTiles = registry.statelessTiles ∧
          next.statelessTombstones = registry.statelessTombstones := by
  unfold unregisterTile at unregistered
  simp only at unregistered
  split at unregistered
  · contradiction
  · rename_i allowed
    obtain ⟨registered, removable⟩ := not_or.mp allowed
    split at unregistered
    · cases unregistered
      rename_i stateless
      exact ⟨not_not.mp registered, eq_true_of_ne_false removable, rfl,
        by rw [if_pos stateless]; exact ⟨rfl, rfl, rfl, rfl⟩⟩
    · cases unregistered
      rename_i stateful
      exact ⟨not_not.mp registered, eq_true_of_ne_false removable, rfl,
        by rw [if_neg stateful]; exact ⟨rfl, rfl, rfl, rfl⟩⟩

/-- Exactly the other tiles stay registered, and they keep what is stored in them. -/
theorem registered_of_unregisterTile
    (unregistered : registry.unregisterTile tile = some next) {other : T}
    (registered : next.Registered other) :
    other ≠ tile ∧ next.info other = registry.info other ∧ registry.Registered other := by
  have info_eq := (unregisterTile_eq_some unregistered).2.2.1
  rw [Registered, info_eq] at registered
  have other_ne : other ≠ tile := by
    rintro rfl
    simp at registered
  rw [Function.update_of_ne other_ne] at registered
  refine ⟨other_ne, ?_, registered⟩
  rw [info_eq, Function.update_of_ne other_ne]

theorem info_of_ne (unregistered : registry.unregisterTile tile = some next)
    {other : T} (other_ne : other ≠ tile) : next.info other = registry.info other := by
  rw [(unregisterTile_eq_some unregistered).2.2.1, Function.update_of_ne other_ne]

/-- Unregistering a stateless tile keeps the registry consistent. -/
private theorem consistent_unregisterStateless (consistent : registry.Consistent)
    (unregistered : registry.unregisterTile tile = some next)
    (stateless : isStateless tile = true) : next.Consistent := by
  obtain ⟨registered, _, _, slots⟩ := unregisterTile_eq_some unregistered
  rw [if_pos stateless] at slots
  obtain ⟨tiles_eq, tombstones_eq, statelessTiles_eq, statelessTombstones_eq⟩ := slots
  obtain ⟨reserved, home⟩ := consistent.stateless_home tile registered stateless
  refine ⟨?_, ?_, ?_, ?_, ?_, ?_, ?_, ?_, ?_, ?_, ?_⟩
  · intro index other occupied
    rw [tiles_eq] at occupied
    obtain ⟨stateful, owner⟩ := consistent.stateful_owner index other occupied
    have other_ne : other ≠ tile := by
      rintro rfl
      rw [stateless] at stateful
      contradiction
    rw [info_of_ne unregistered other_ne]
    exact ⟨stateful, owner⟩
  · intro id index other occupied
    rw [statelessTiles_eq, occupant_update_vacate] at occupied
    split at occupied
    · contradiction
    · rename_i elsewhere
      have owner := consistent.stateless_owner id index other occupied
      have other_ne : other ≠ tile := by
        rintro rfl
        exact elsewhere ⟨owner.2.2.1.symm, owner.2.2.2.symm⟩
      rw [info_of_ne unregistered other_ne]
      exact owner
  · intro other otherRegistered stateful
    obtain ⟨_, info_eq, before⟩ := registered_of_unregisterTile unregistered otherRegistered
    rw [tiles_eq, info_eq]
    exact consistent.stateful_home other before stateful
  · intro other otherRegistered otherStateless
    obtain ⟨other_ne, info_eq, before⟩ := registered_of_unregisterTile unregistered otherRegistered
    obtain ⟨otherReserved, otherHome⟩ := consistent.stateless_home other before otherStateless
    rw [statelessTiles_eq, info_eq, occupant_update_vacate]
    refine ⟨otherReserved, ?_⟩
    rw [if_neg, otherHome]
    rintro ⟨sameId, sameIndex⟩
    rw [sameId, sameIndex, home] at otherHome
    exact other_ne (Option.some.inj otherHome).symm
  · rw [tiles_eq]
    exact consistent.stateful_size
  · intro id
    rw [statelessTiles_eq, length_update_vacate]
    exact consistent.stateless_size id
  · rw [tombstones_eq, tiles_eq]
    exact consistent.stateful_vacant
  · intro entry mem
    rw [statelessTombstones_eq, List.mem_cons] at mem
    rw [statelessTiles_eq, occupant_update_vacate]
    rcases mem with rfl | old
    · exact ⟨reserved, Nat.le_trans (lt_of_occupant home) (consistent.stateless_size _),
        if_pos ⟨rfl, rfl⟩⟩
    · obtain ⟨entryReserved, entrySmall, empty⟩ := consistent.stateless_vacant entry old
      refine ⟨entryReserved, entrySmall, ?_⟩
      split
      · rfl
      · exact empty
  · rw [tombstones_eq]
    exact consistent.stateful_nodup
  · rw [statelessTombstones_eq, List.nodup_cons]
    refine ⟨fun freed => ?_, consistent.stateless_nodup⟩
    have empty := (consistent.stateless_vacant _ freed).2.2
    rw [home] at empty
    contradiction
  · intro other otherRegistered
    exact consistent.has_states other
      (registered_of_unregisterTile unregistered otherRegistered).2.2

/-- Unregistering a stateful tile keeps the registry consistent. -/
private theorem consistent_unregisterStateful (consistent : registry.Consistent)
    (unregistered : registry.unregisterTile tile = some next)
    (stateful : isStateless tile = false) : next.Consistent := by
  obtain ⟨registered, _, _, slots⟩ := unregisterTile_eq_some unregistered
  rw [if_neg (by rw [stateful]; exact Bool.false_ne_true)] at slots
  obtain ⟨tiles_eq, tombstones_eq, statelessTiles_eq, statelessTombstones_eq⟩ := slots
  have home := consistent.stateful_home tile registered stateful
  refine ⟨?_, ?_, ?_, ?_, ?_, ?_, ?_, ?_, ?_, ?_, ?_⟩
  · intro index other occupied
    rw [tiles_eq, occupant_vacate] at occupied
    split at occupied
    · contradiction
    · rename_i elsewhere
      have owner := consistent.stateful_owner index other occupied
      have other_ne : other ≠ tile := by
        rintro rfl
        exact elsewhere owner.2.symm
      rw [info_of_ne unregistered other_ne]
      exact owner
  · intro id index other occupied
    rw [statelessTiles_eq] at occupied
    have owner := consistent.stateless_owner id index other occupied
    have other_ne : other ≠ tile := by
      rintro rfl
      rw [stateful] at owner
      exact Bool.false_ne_true owner.2.1
    rw [info_of_ne unregistered other_ne]
    exact owner
  · intro other otherRegistered otherStateful
    obtain ⟨other_ne, info_eq, before⟩ := registered_of_unregisterTile unregistered otherRegistered
    have otherHome := consistent.stateful_home other before otherStateful
    rw [tiles_eq, info_eq, occupant_vacate, if_neg, otherHome]
    intro same
    rw [same, home] at otherHome
    exact other_ne (Option.some.inj otherHome).symm
  · intro other otherRegistered otherStateless
    obtain ⟨_, info_eq, before⟩ := registered_of_unregisterTile unregistered otherRegistered
    rw [statelessTiles_eq, info_eq]
    exact consistent.stateless_home other before otherStateless
  · rw [tiles_eq, length_vacate]
    exact consistent.stateful_size
  · rw [statelessTiles_eq]
    exact consistent.stateless_size
  · intro id mem
    rw [tombstones_eq, List.mem_cons] at mem
    rw [tiles_eq, occupant_vacate]
    rcases mem with rfl | old
    · exact ⟨Nat.lt_of_le_of_lt (lt_of_occupant home) consistent.stateful_size, if_pos rfl⟩
    · obtain ⟨small, empty⟩ := consistent.stateful_vacant id old
      refine ⟨small, ?_⟩
      split
      · rfl
      · exact empty
  · rw [statelessTombstones_eq, statelessTiles_eq]
    exact consistent.stateless_vacant
  · rw [tombstones_eq, List.nodup_cons]
    refine ⟨fun freed => ?_, consistent.stateful_nodup⟩
    have empty := (consistent.stateful_vacant _ freed).2
    rw [home] at empty
    contradiction
  · rw [statelessTombstones_eq]
    exact consistent.stateless_nodup
  · intro other otherRegistered
    exact consistent.has_states other
      (registered_of_unregisterTile unregistered otherRegistered).2.2

/-- Unregistering a tile keeps the registry consistent. -/
theorem consistent_unregisterTile (consistent : registry.Consistent)
    (unregistered : registry.unregisterTile tile = some next) : next.Consistent := by
  cases stateless : isStateless tile with
  | true => exact consistent_unregisterStateless consistent unregistered stateless
  | false => exact consistent_unregisterStateful consistent unregistered stateless

/-- A registered tile that is removable can be unregistered. -/
theorem isSome_unregisterTile (registered : registry.Registered tile)
    (removable : (registry.info tile).removable = true) :
    (registry.unregisterTile tile).isSome := by
  unfold unregisterTile
  simp only
  rw [if_neg (by simp [registered, removable])]
  split <;> rfl

end Unregister

section UnregisterAll

variable {registry next : TileRegistry T}

/-- Unregistering one tile of a vector leaves the other ones registered. -/
private theorem remains_of_unregisterTile {tile : T}
    (unregistered : registry.unregisterTile tile = some next) {other : T}
    (other_ne : other ≠ tile) (registered : registry.Registered other) :
    next.Registered other := by
  rw [Registered, info_of_ne unregistered other_ne]
  exact registered

/-- What the loops of `unregister_all` leave behind: a consistent registry with some of
the tiles, and a bound on the positions of those the loop has seen. -/
theorem unregisterSlots_spec (position : TileInfo → TileId) {slots : List (Option T)}
    (distinct : Distinct slots) {last final bound : Nat} (consistent : registry.Consistent)
    (registered : ∀ tile, some tile ∈ slots → registry.Registered tile)
    (lastBound : last < bound)
    (positionBound : ∀ tile, some tile ∈ slots →
      (position (registry.info tile)).toNat < bound)
    (looped : unregisterSlots position slots registry last = some (next, final)) :
    next.Consistent ∧
      (∀ tile, next.Registered tile →
        registry.Registered tile ∧ next.info tile = registry.info tile) ∧
      last ≤ final ∧ final < bound ∧
      ∀ tile, some tile ∈ slots → next.Registered tile →
        (position (next.info tile)).toNat ≤ final := by
  induction slots generalizing registry last with
  | nil =>
      cases looped
      exact ⟨consistent, fun _ remains => ⟨remains, rfl⟩, Nat.le_refl _, lastBound, by simp⟩
  | cons slot rest ih =>
      obtain ⟨others, restDistinct⟩ := List.pairwise_cons.mp distinct
      cases slot with
      | none => contradiction
      | some tile =>
          have restNe : ∀ other, some other ∈ rest → other ≠ tile := fun other mem equal =>
            others (some other) mem tile rfl (congrArg some equal)
          rw [unregisterSlots] at looped
          split at looped
          · obtain ⟨middle, unregistered, restLooped⟩ := Option.bind_eq_some_iff.mp looped
            obtain ⟨nextConsistent, shrinks, lastLe, finalBound, restLast⟩ :=
              ih restDistinct (consistent_unregisterTile consistent unregistered)
                (fun other mem => remains_of_unregisterTile unregistered (restNe other mem)
                  (registered other (List.mem_cons_of_mem _ mem)))
                lastBound
                (fun other mem => by
                  rw [info_of_ne unregistered (restNe other mem)]
                  exact positionBound other (List.mem_cons_of_mem _ mem))
                restLooped
            refine ⟨nextConsistent, fun other remains => ?_, lastLe, finalBound, ?_⟩
            · obtain ⟨middleRemains, info_eq⟩ := shrinks other remains
              obtain ⟨_, before, original⟩ :=
                registered_of_unregisterTile unregistered middleRemains
              exact ⟨original, info_eq.trans before⟩
            · intro other mem remains
              rcases List.mem_cons.mp mem with same | later
              · have gone := registered_of_unregisterTile unregistered (shrinks other remains).1
                exact absurd (Option.some.inj same) gone.1
              · exact restLast other later remains
          · obtain ⟨nextConsistent, shrinks, lastLe, finalBound, restLast⟩ :=
              ih restDistinct consistent
                (fun other mem => registered other (List.mem_cons_of_mem _ mem))
                (Nat.max_lt.mpr ⟨lastBound, positionBound tile List.mem_cons_self⟩)
                (fun other mem => positionBound other (List.mem_cons_of_mem _ mem)) looped
            refine ⟨nextConsistent, shrinks, Nat.le_trans (Nat.le_max_left _ _) lastLe,
              finalBound, ?_⟩
            intro other mem remains
            rcases List.mem_cons.mp mem with same | later
            · cases same
              rw [(shrinks tile remains).2]
              exact Nat.le_trans (Nat.le_max_right _ _) lastLe
            · exact restLast other later remains

/-- The loops are defined exactly on the vectors without empty slots. -/
private theorem isSome_unregisterSlots_iff (position : TileInfo → TileId)
    {slots : List (Option T)} (distinct : Distinct slots) (last : Nat)
    (registered : ∀ tile, some tile ∈ slots → registry.Registered tile) :
    (unregisterSlots position slots registry last).isSome ↔ none ∉ slots := by
  induction slots generalizing registry last with
  | nil => simp [unregisterSlots]
  | cons slot rest ih =>
      obtain ⟨others, restDistinct⟩ := List.pairwise_cons.mp distinct
      cases slot with
      | none => simp [unregisterSlots]
      | some tile =>
          have tileRegistered := registered tile List.mem_cons_self
          have restNe : ∀ other, some other ∈ rest → other ≠ tile := fun other mem equal =>
            others (some other) mem tile rfl (congrArg some equal)
          rw [unregisterSlots, List.mem_cons]
          split
          · rename_i removable
            obtain ⟨middle, unregistered⟩ := Option.isSome_iff_exists.mp
              (isSome_unregisterTile tileRegistered removable)
            rw [unregistered, Option.bind_some, ih restDistinct last fun other mem =>
              remains_of_unregisterTile unregistered (restNe other mem)
                (registered other (List.mem_cons_of_mem _ mem))]
            simp
          · rw [ih restDistinct _ fun other mem => registered other (List.mem_cons_of_mem _ mem)]
            simp

/-- The loops only touch the vectors their tiles live in. -/
private theorem unregisterSlots_statelessTiles (position : TileInfo → TileId)
    {slots : List (Option T)} (distinct : Distinct slots) {last final id : Nat}
    (elsewhere : ∀ tile, some tile ∈ slots → isStateless tile = true →
      (registry.info tile).id.toNat ≠ id)
    (looped : unregisterSlots position slots registry last = some (next, final)) :
    next.statelessTiles id = registry.statelessTiles id := by
  induction slots generalizing registry last with
  | nil =>
      cases looped
      rfl
  | cons slot rest ih =>
      obtain ⟨others, restDistinct⟩ := List.pairwise_cons.mp distinct
      cases slot with
      | none => contradiction
      | some tile =>
          rw [unregisterSlots] at looped
          split at looped
          · obtain ⟨middle, unregistered, restLooped⟩ := Option.bind_eq_some_iff.mp looped
            have restElsewhere : ∀ other, some other ∈ rest → isStateless other = true →
                (middle.info other).id.toNat ≠ id := by
              intro other mem stateless
              have other_ne : other ≠ tile := fun equal =>
                others (some other) mem tile rfl (congrArg some equal)
              rw [info_of_ne unregistered other_ne]
              exact elsewhere other (List.mem_cons_of_mem _ mem) stateless
            rw [ih restDistinct restElsewhere restLooped]
            have slotsEq := (unregisterTile_eq_some unregistered).2.2.2
            split at slotsEq
            · rename_i stateless
              rw [slotsEq.2.2.1, Function.update_of_ne]
              exact (elsewhere tile List.mem_cons_self stateless).symm
            · rw [slotsEq.2.2.1]
          · exact ih restDistinct (fun other mem => elsewhere other (List.mem_cons_of_mem _ mem))
              looped

/-- The first half of `unregister_all` keeps the registry consistent. -/
theorem consistent_unregisterAllStateful (consistent : registry.Consistent)
    (unregistered : registry.unregisterAllStateful = some next) :
    next.Consistent ∧ next.statelessTiles = registry.statelessTiles := by
  obtain ⟨⟨looped, last⟩, loopedEq, rfl⟩ := Option.map_eq_some_iff.mp unregistered
  obtain ⟨distinct, slots⟩ := consistent.stateful_slots
  obtain ⟨loopedConsistent, shrinks, _, lastBound, covers⟩ :=
    unregisterSlots_spec TileInfo.id distinct consistent (fun tile mem => (slots tile mem).1)
      (by decide) (fun tile mem => (slots tile mem).2.2) loopedEq
  constructor
  · refine Consistent.forget (Consistent.resizeStateful loopedConsistent ?_ ?_)
      List.filter_sublist (List.Sublist.refl _)
    · omega
    · intro tile registered stateful
      have before := shrinks tile registered
      have home := consistent.stateful_home tile before.1 stateful
      exact Nat.lt_succ_of_le (covers tile (mem_of_occupant home) registered)
  · funext id
    have untouched : looped.statelessTiles id = registry.statelessTiles id := by
      refine unregisterSlots_statelessTiles TileInfo.id distinct ?_ loopedEq
      intro tile mem stateless
      rw [(slots tile mem).2.1] at stateless
      contradiction
    exact untouched

/-- One round of the loop over the reserved ids. -/
theorem unregisterStatelessId_spec (consistent : registry.Consistent) {id last : Nat}
    (looped : unregisterSlots TileInfo.metastate (registry.statelessTiles id) registry 0 =
      some (next, last)) :
    Consistent { next with
        statelessTiles := Function.update next.statelessTiles id
          (resize (next.statelessTiles id) (last + 1)) } ∧
      ∀ other, other ≠ id → next.statelessTiles other = registry.statelessTiles other := by
  obtain ⟨distinct, slots⟩ := consistent.stateless_slots id
  obtain ⟨nextConsistent, shrinks, _, lastBound, covers⟩ :=
    unregisterSlots_spec TileInfo.metastate distinct consistent
      (fun tile mem => (slots tile mem).1) (by decide)
      (fun tile mem => (slots tile mem).2.2) looped
  constructor
  · refine nextConsistent.resizeStateless lastBound ?_
    intro tile registered stateless sameId
    obtain ⟨before, info_eq⟩ := shrinks tile registered
    have home := (consistent.stateless_home tile before stateless).2
    rw [← info_eq, sameId] at home
    exact Nat.lt_succ_of_le (covers tile (mem_of_occupant home) registered)
  · intro other other_ne
    refine unregisterSlots_statelessTiles TileInfo.metastate distinct ?_ looped
    intro tile mem _ same
    exact other_ne (same.symm.trans (slots tile mem).2.1)

/-- The loop over the reserved ids keeps the registry consistent. -/
private theorem consistent_unregisterStatelessIds {ids : List Nat} {lasts finals : Nat → Nat}
    (consistent : registry.Consistent)
    (unregistered : unregisterStatelessIds ids registry lasts = some (next, finals)) :
    next.Consistent := by
  induction ids generalizing registry lasts with
  | nil =>
      cases unregistered
      exact consistent
  | cons id rest ih =>
      obtain ⟨⟨looped, last⟩, loopedEq, restEq⟩ := Option.bind_eq_some_iff.mp unregistered
      exact ih (unregisterStatelessId_spec consistent loopedEq).1 restEq

/-- `unregister_all` keeps the registry consistent. -/
theorem consistent_unregisterAll (consistent : registry.Consistent)
    (unregistered : registry.unregisterAll = some next) : next.Consistent := by
  obtain ⟨middle, statefulEq, statelessEq⟩ := Option.bind_eq_some_iff.mp unregistered
  obtain ⟨⟨looped, lasts⟩, loopedEq, rfl⟩ := Option.map_eq_some_iff.mp statelessEq
  have middleConsistent := (consistent_unregisterAllStateful consistent statefulEq).1
  exact (consistent_unregisterStatelessIds middleConsistent loopedEq).forget
    (List.Sublist.refl _) List.filter_sublist

private theorem isSome_unregisterStatelessIds_iff {ids : List Nat} (nodup : ids.Nodup)
    (lasts : Nat → Nat) (consistent : registry.Consistent) :
    (unregisterStatelessIds ids registry lasts).isSome ↔
      ∀ id ∈ ids, none ∉ registry.statelessTiles id := by
  induction ids generalizing registry lasts with
  | nil => simp [unregisterStatelessIds]
  | cons id rest ih =>
      rw [List.nodup_cons] at nodup
      obtain ⟨distinct, slots⟩ := consistent.stateless_slots id
      have defined := isSome_unregisterSlots_iff TileInfo.metastate distinct 0
        fun tile mem => (slots tile mem).1
      rw [unregisterStatelessIds, List.forall_mem_cons, ← defined]
      cases loopedEq : unregisterSlots TileInfo.metastate (registry.statelessTiles id) registry 0
        with
      | none => simp
      | some result =>
          obtain ⟨resized, others⟩ := unregisterStatelessId_spec consistent loopedEq
          rw [Option.bind_some, ih nodup.2 _ resized]
          simp only [Option.isSome_some, true_and]
          refine forall₂_congr fun other mem => ?_
          have other_ne : other ≠ id := fun equal => nodup.1 (equal ▸ mem)
          rw [Function.update_of_ne other_ne, others other other_ne]

/-- `unregister_all` is defined exactly while no slot is empty. -/
theorem isSome_unregisterAll_iff (consistent : registry.Consistent) :
    registry.unregisterAll.isSome ↔
      none ∉ registry.statefulTiles ∧
        ∀ id < reservedStatelessTileIds, none ∉ registry.statelessTiles id := by
  obtain ⟨distinct, slots⟩ := consistent.stateful_slots
  have defined := isSome_unregisterSlots_iff TileInfo.id distinct 0
    fun tile mem => (slots tile mem).1
  rw [← defined, unregisterAll]
  cases statefulEq : registry.unregisterAllStateful with
  | none =>
      rw [unregisterAllStateful, Option.map_eq_none_iff] at statefulEq
      simp [statefulEq]
  | some middle =>
      obtain ⟨middleConsistent, untouched⟩ :=
        consistent_unregisterAllStateful consistent statefulEq
      have looped : (unregisterSlots TileInfo.id registry.statefulTiles registry 0).isSome := by
        rw [← Option.isSome_map (f := _), ← unregisterAllStateful, statefulEq]
        rfl
      rw [Option.bind_some, unregisterAllStateless, Option.isSome_map,
        isSome_unregisterStatelessIds_iff List.nodup_range _ middleConsistent, untouched]
      simp [looped]

end UnregisterAll

/-- Every call keeps the registry consistent. -/
theorem consistent_step {registry next : TileRegistry T} {action : RegistryAction T}
    (consistent : registry.Consistent) (stepEq : step registry action = some next) :
    next.Consistent := by
  cases action with
  | registerTile tile removable =>
      obtain ⟨⟨placed, td⟩, registeredEq, rfl⟩ := Option.map_eq_some_iff.mp stepEq
      obtain ⟨placedTile, placedEq, resultEq⟩ := Option.map_eq_some_iff.mp registeredEq
      cases resultEq
      exact consistent_placeTile consistent placedEq
  | unregisterTile tile => exact consistent_unregisterTile consistent stepEq
  | unregisterAll => exact consistent_unregisterAll consistent stepEq

/-- Every reachable registry is consistent. -/
theorem consistent_run {registry next : TileRegistry T} {actions : List (RegistryAction T)}
    (consistent : registry.Consistent) (runEq : run step registry actions = some next) :
    next.Consistent :=
  run_invariant (fun _ _ _ holds _ stepEq => consistent_step holds stepEq) consistent
    (guarded_true _ _ _) runEq

end TileRegistry

end VoxelEngine.Voxel
