import VoxelEngine.Voxel.TileRoundTrip

/-!
# Empty slots and tombstones

Every empty slot of the tile registry should be listed among the tombstones, from which it is
handed out again.  Removing all tiles at once walks over every slot and cuts the vectors off
behind the last tile that stays, which relies on vectors that have a slot and no empty one.
-/

namespace VoxelEngine.Voxel

open VoxelEngine.Data.SlotVector
open VoxelEngine.Transition

variable {T : Type}

namespace TileRegistry

/-- Every empty slot is listed.  The stateless tombstones may lead behind the end of a vector,
as they do while `unregister_all` cuts the vectors off. -/
structure Covered (registry : TileRegistry T) : Prop where
  stateful_hole : ∀ id ∈ registry.statefulTombstones, Hole registry.statefulTiles id.toNat
  stateful_listed : ∀ index, Hole registry.statefulTiles index →
    ∃ id ∈ registry.statefulTombstones, id.toNat = index
  stateless_listed : ∀ id < reservedStatelessTileIds, ∀ index,
    Hole (registry.statelessTiles id) index →
      ∃ entry ∈ registry.statelessTombstones, entry.1.toNat = id ∧ entry.2.toNat = index

/-- Every empty slot is listed among the tombstones of its table, and nothing else is.  That it
is listed once is a part of the consistency. -/
structure Listed (registry : TileRegistry T) : Prop extends Covered registry where
  stateless_hole : ∀ entry ∈ registry.statelessTombstones,
    entry.1.toNat < reservedStatelessTileIds ∧
      Hole (registry.statelessTiles entry.1.toNat) entry.2.toNat

theorem listed_empty : (empty : TileRegistry T).Listed where
  stateful_hole := by simp [empty]
  stateful_listed := by simp [empty]
  stateless_listed := by simp [empty]
  stateless_hole := by simp [empty]

variable [Tile T] [DecidableEq T]

section Register

variable {registry : TileRegistry T} {tile : T}

omit [Tile T] in
private theorem listed_registerStateless (listed : registry.Listed) (removable : Bool)
    {tombstones : List (TileId × TileId)} {id index : TileId}
    (slot : registry.StatelessSlot tombstones id index) :
    ({ registry with statelessTombstones := tombstones }.registerStateless tile removable id
      index).Listed := by
  have reachable : index.toNat ≤ (registry.statelessTiles id.toNat).length := by
    rcases slot.origin with freed | last
    · exact Nat.le_of_lt (listed.stateless_hole _ freed).2.1
    · exact Nat.le_of_eq last
  constructor
  · constructor
    · exact listed.stateful_hole
    · exact listed.stateful_listed
    · intro otherId reserved otherIndex hole
      simp only [registerStateless, hole_update_place _ _ _ _ _ reachable] at hole ⊢
      rcases listed.stateless_listed otherId reserved otherIndex hole.2 with
        ⟨entry, mem, idEq, indexEq⟩
      refine ⟨entry, (slot.mem_iff entry).mpr ⟨?_, mem⟩, idEq, indexEq⟩
      rintro rfl
      exact hole.1 ⟨idEq.symm, indexEq.symm⟩
  · intro entry mem
    simp only [registerStateless, hole_update_place _ _ _ _ _ reachable] at mem ⊢
    rcases (slot.mem_iff entry).mp mem with ⟨other, old⟩
    rcases listed.stateless_hole entry old with ⟨reserved, hole⟩
    refine ⟨reserved, ?_, hole⟩
    rintro ⟨sameId, sameIndex⟩
    exact other (Prod.ext (UInt16.toNat_inj.mp sameId) (UInt16.toNat_inj.mp sameIndex))

omit [Tile T] in
private theorem listed_registerStateful (listed : registry.Listed) (removable : Bool)
    {tombstones : List TileId} {id : TileId} (slot : registry.StatefulSlot tombstones id) :
    ({ registry with statefulTombstones := tombstones }.registerStateful tile removable
      id).Listed := by
  have reachable : id.toNat ≤ registry.statefulTiles.length := by
    rcases slot.origin with freed | last
    · exact Nat.le_of_lt (listed.stateful_hole _ freed).1
    · exact Nat.le_of_eq last
  constructor
  · constructor
    · intro freed mem
      simp only [registerStateful, hole_place reachable] at mem ⊢
      rcases (slot.mem_iff freed).mp mem with ⟨other, old⟩
      refine ⟨?_, listed.stateful_hole freed old⟩
      exact fun same => other (UInt16.toNat_inj.mp same)
    · intro index hole
      simp only [registerStateful, hole_place reachable] at hole ⊢
      rcases listed.stateful_listed index hole.2 with ⟨freed, mem, indexEq⟩
      refine ⟨freed, (slot.mem_iff freed).mpr ⟨?_, mem⟩, indexEq⟩
      rintro rfl
      exact hole.1 indexEq.symm
    · exact listed.stateless_listed
  · exact listed.stateless_hole

/-- Registering a tile takes its slot off the tombstones. -/
theorem listed_placeTile (consistent : registry.Consistent) (listed : registry.Listed)
    {removable : Bool} {next : TileRegistry T}
    (placed : registry.placeTile tile removable = some next) : next.Listed := by
  rcases placeTile_eq_some consistent placed with
    ⟨_, _, ⟨_, tombstones, id, index, slot, rfl⟩ | ⟨_, tombstones, id, slot, rfl⟩⟩
  · exact listed_registerStateless listed removable slot
  · exact listed_registerStateful listed removable slot

end Register

section Unregister

variable {registry next : TileRegistry T} {tile : T}

/-- Unregistering a tile lists its slot. -/
theorem covered_unregisterTile (consistent : registry.Consistent) (covered : registry.Covered)
    (unregistered : registry.unregisterTile tile = some next) : next.Covered := by
  rcases unregisterTile_eq_some unregistered with ⟨registered, _, _, slots⟩
  split at slots
  · rename_i stateless
    rcases slots with ⟨tiles_eq, tombstones_eq, statelessTiles_eq, statelessTombstones_eq⟩
    have inside := lt_of_occupant (consistent.stateless_home tile registered stateless).2
    constructor
    · rw [tiles_eq, tombstones_eq]
      exact covered.stateful_hole
    · rw [tiles_eq, tombstones_eq]
      exact covered.stateful_listed
    · intro id reserved index hole
      rw [statelessTiles_eq, hole_update_vacate _ _ _ _ _ inside] at hole
      rw [statelessTombstones_eq]
      rcases hole with ⟨sameId, sameIndex⟩ | old
      · exact ⟨_, List.mem_cons_self, sameId.symm, sameIndex.symm⟩
      · rcases covered.stateless_listed id reserved index old with ⟨entry, mem, entryEq⟩
        exact ⟨entry, List.mem_cons_of_mem _ mem, entryEq⟩
  · rename_i hasState
    rcases slots with ⟨tiles_eq, tombstones_eq, statelessTiles_eq, statelessTombstones_eq⟩
    have inside := lt_of_occupant
      (consistent.stateful_home tile registered (eq_false_of_ne_true hasState))
    constructor
    · intro id mem
      rw [tombstones_eq, List.mem_cons] at mem
      rw [tiles_eq, hole_vacate inside]
      rcases mem with rfl | old
      · exact .inl rfl
      · exact .inr (covered.stateful_hole id old)
    · intro index hole
      rw [tiles_eq, hole_vacate inside] at hole
      rw [tombstones_eq]
      rcases hole with same | old
      · exact ⟨_, List.mem_cons_self, same.symm⟩
      · rcases covered.stateful_listed index old with ⟨id, mem, idEq⟩
        exact ⟨id, List.mem_cons_of_mem _ mem, idEq⟩
    · rw [statelessTiles_eq, statelessTombstones_eq]
      exact covered.stateless_listed

theorem listed_unregisterTile (consistent : registry.Consistent) (listed : registry.Listed)
    (unregistered : registry.unregisterTile tile = some next) : next.Listed := by
  refine ⟨covered_unregisterTile consistent listed.toCovered unregistered, ?_⟩
  rcases unregisterTile_eq_some unregistered with ⟨registered, _, _, slots⟩
  split at slots
  · rename_i stateless
    rcases slots with ⟨_, _, statelessTiles_eq, statelessTombstones_eq⟩
    rcases consistent.stateless_home tile registered stateless with ⟨reserved, home⟩
    intro entry mem
    rw [statelessTombstones_eq, List.mem_cons] at mem
    rw [statelessTiles_eq, hole_update_vacate _ _ _ _ _ (lt_of_occupant home)]
    rcases mem with rfl | old
    · exact ⟨reserved, .inl ⟨rfl, rfl⟩⟩
    · rcases listed.stateless_hole entry old with ⟨entryReserved, hole⟩
      exact ⟨entryReserved, .inr hole⟩
  · rw [slots.2.2.1, slots.2.2.2]
    exact listed.stateless_hole

end Unregister

section Loops

variable {registry next : TileRegistry T}

/-- What unregistering one tile preserves, the loops over the slots preserve. -/
theorem unregisterSlots_invariant {inv : TileRegistry T → Prop}
    (kept : ∀ current tile after, current.Consistent → inv current →
      current.unregisterTile tile = some after → inv after)
    (position : TileInfo → TileId) {slots : List (Option T)} {last final : Nat}
    (consistent : registry.Consistent) (start : inv registry)
    (looped : unregisterSlots position slots registry last = some (next, final)) :
    next.Consistent ∧ inv next := by
  induction slots generalizing registry last with
  | nil =>
      cases looped
      exact ⟨consistent, start⟩
  | cons slot rest ih =>
      cases slot with
      | none => contradiction
      | some tile =>
          rw [unregisterSlots] at looped
          split at looped
          · rcases Option.bind_eq_some_iff.mp looped with ⟨middle, unregistered, restLooped⟩
            apply ih (consistent_unregisterTile consistent unregistered) _ restLooped
            exact kept registry tile middle consistent start unregistered
          · exact ih consistent start looped

/-- What unregistering one tile and cutting off a vector preserve, the loop over the reserved
ids preserves. -/
theorem unregisterStatelessIds_invariant {inv : TileRegistry T → Prop}
    (kept : ∀ current tile after, current.Consistent → inv current →
      current.unregisterTile tile = some after → inv after)
    (cut : ∀ current id size, inv current →
      inv { current with
        statelessTiles := Function.update current.statelessTiles id
          (resize (current.statelessTiles id) size) })
    {ids : List Nat} {lasts finals : Nat → Nat} (consistent : registry.Consistent)
    (start : inv registry)
    (looped : unregisterStatelessIds ids registry lasts = some (next, finals)) :
    next.Consistent ∧ inv next := by
  induction ids generalizing registry lasts with
  | nil =>
      cases looped
      exact ⟨consistent, start⟩
  | cons id rest ih =>
      rcases Option.bind_eq_some_iff.mp looped with ⟨⟨middle, last⟩, slotsEq, restLooped⟩
      have resized := (unregisterStatelessId_spec consistent slotsEq).1
      apply ih resized _ restLooped
      apply cut
      exact (unregisterSlots_invariant kept _ consistent start slotsEq).2

/-- What no part of `unregister_all` destroys, `unregister_all` preserves. -/
theorem unregisterAll_invariant {inv : TileRegistry T → Prop}
    (kept : ∀ current tile after, current.Consistent → inv current →
      current.unregisterTile tile = some after → inv after)
    (cutStateful : ∀ current size, inv current →
      inv { current with statefulTiles := resize current.statefulTiles size })
    (cutStateless : ∀ current id size, inv current →
      inv { current with
        statelessTiles := Function.update current.statelessTiles id
          (resize (current.statelessTiles id) size) })
    (forget : ∀ current stateful stateless, inv current →
      stateful.Sublist current.statefulTombstones →
      stateless.Sublist current.statelessTombstones →
      inv { current with statefulTombstones := stateful, statelessTombstones := stateless })
    (consistent : registry.Consistent) (start : inv registry)
    (unregistered : registry.unregisterAll = some next) : inv next := by
  rcases Option.bind_eq_some_iff.mp unregistered with ⟨middle, statefulEq, statelessEq⟩
  have middleConsistent := (consistent_unregisterAllStateful consistent statefulEq).1
  rcases Option.map_eq_some_iff.mp statefulEq with ⟨⟨looped, last⟩, slotsEq, rfl⟩
  rcases Option.map_eq_some_iff.mp statelessEq with ⟨⟨walked, lasts⟩, idsEq, rfl⟩
  have loopedInv := (unregisterSlots_invariant kept _ consistent start slotsEq).2
  apply forget walked walked.statefulTombstones _ _ (List.Sublist.refl _) List.filter_sublist
  apply (unregisterStatelessIds_invariant kept cutStateless middleConsistent _ idsEq).2
  exact forget _ _ _ (cutStateful looped (last + 1) loopedInv) List.filter_sublist
    (List.Sublist.refl _)

end Loops

section Remaining

variable {registry next base : TileRegistry T}

/-- The later registry has some of the tiles, among them those that are not removable, and
remembers the same about them. -/
structure Restricts (base current : TileRegistry T) : Prop where
  registered : ∀ tile, current.Registered tile →
    base.Registered tile ∧ current.info tile = base.info tile
  permanent : ∀ tile, base.Registered tile → (base.info tile).removable = false →
    current.info tile = base.info tile

omit [Tile T] [DecidableEq T] in
theorem Restricts.refl (base : TileRegistry T) : Restricts base base where
  registered _ registered := ⟨registered, rfl⟩
  permanent _ _ _ := rfl

theorem Restricts.unregisterTile {current after : TileRegistry T} {tile : T}
    (restricts : Restricts base current)
    (unregistered : current.unregisterTile tile = some after) : Restricts base after := by
  constructor
  · intro other registered
    rcases registered_of_unregisterTile unregistered registered with ⟨_, infoEq, before⟩
    rw [infoEq]
    exact restricts.registered other before
  · intro other registered stays
    have infoEq := restricts.permanent other registered stays
    rw [info_of_ne unregistered, infoEq]
    rintro rfl
    have removable := (unregisterTile_eq_some unregistered).2.1
    rw [infoEq, stays] at removable
    contradiction

theorem restricts_unregisterSlots (position : TileInfo → TileId) {slots : List (Option T)}
    {last final : Nat} (consistent : registry.Consistent)
    (looped : unregisterSlots position slots registry last = some (next, final)) :
    Restricts registry next := by
  apply (unregisterSlots_invariant _ position consistent (Restricts.refl registry) looped).2
  intro current tile after _ restricts unregistered
  exact restricts.unregisterTile unregistered

theorem restricts_unregisterStatelessIds {ids : List Nat} {lasts finals : Nat → Nat}
    (consistent : registry.Consistent)
    (looped : unregisterStatelessIds ids registry lasts = some (next, finals)) :
    Restricts registry next := by
  apply (unregisterStatelessIds_invariant _ _ consistent (Restricts.refl registry) looped).2
  · intro current tile after _ restricts unregistered
    exact restricts.unregisterTile unregistered
  · exact fun current id size restricts => ⟨restricts.registered, restricts.permanent⟩

/-- The tiles of the slots that stay registered are not removable. -/
theorem permanent_of_unregisterSlots (position : TileInfo → TileId) {slots : List (Option T)}
    {last final : Nat} (consistent : registry.Consistent)
    (looped : unregisterSlots position slots registry last = some (next, final)) {tile : T}
    (mem : some tile ∈ slots) (registered : next.Registered tile) :
    (registry.info tile).removable = false := by
  induction slots generalizing registry last with
  | nil => contradiction
  | cons slot rest ih =>
      cases slot with
      | none => contradiction
      | some first =>
          rw [unregisterSlots] at looped
          split at looped
          · rcases Option.bind_eq_some_iff.mp looped with ⟨middle, unregistered, restLooped⟩
            have middleConsistent := consistent_unregisterTile consistent unregistered
            have restricts := restricts_unregisterSlots position middleConsistent restLooped
            have before := (restricts.registered tile registered).1
            have remains := registered_of_unregisterTile unregistered before
            have later : some tile ∈ rest := by
              rcases List.mem_cons.mp mem with same | later
              · exact absurd (Option.some.inj same) remains.1
              · exact later
            rw [← remains.2.1]
            exact ih middleConsistent restLooped later
          · rename_i permanent
            rcases List.mem_cons.mp mem with same | later
            · rw [Option.some.inj same]
              exact eq_false_of_ne_true permanent
            · exact ih consistent looped later

/-- The stateless tiles of some ids that stay registered are not removable. -/
theorem permanent_of_unregisterStatelessIds {ids : List Nat} {lasts finals : Nat → Nat}
    (consistent : registry.Consistent)
    (looped : unregisterStatelessIds ids registry lasts = some (next, finals)) {tile : T}
    (stateless : isStateless tile = true) (mem : (registry.info tile).id.toNat ∈ ids)
    (registered : next.Registered tile) : (registry.info tile).removable = false := by
  induction ids generalizing registry lasts with
  | nil => contradiction
  | cons id rest ih =>
      rcases Option.bind_eq_some_iff.mp looped with ⟨⟨middle, last⟩, slotsEq, restLooped⟩
      have resized := (unregisterStatelessId_spec consistent slotsEq).1
      have remains :=
        ((restricts_unregisterStatelessIds resized restLooped).registered tile registered).1
      have before := (restricts_unregisterSlots _ consistent slotsEq).registered tile remains
      rcases List.mem_cons.mp mem with same | later
      · have home := (consistent.stateless_home tile before.1 stateless).2
        rw [same] at home
        exact permanent_of_unregisterSlots _ consistent slotsEq (mem_of_occupant home) remains
      · have permanent := ih resized restLooped
        rw [← before.2] at later ⊢
        exact permanent later

/-- The later registry has exactly the tiles that are not removable, with their ids. -/
structure RemovesRemovable (registry next : TileRegistry T) : Prop where
  registered_iff : ∀ tile, next.Registered tile ↔
    registry.Registered tile ∧ (registry.info tile).removable = false
  info_eq : ∀ tile, next.Registered tile → next.info tile = registry.info tile

/-- `unregister_all`, where it is defined, removes the removable tiles. -/
theorem removesRemovable_unregisterAll (consistent : registry.Consistent)
    (unregistered : registry.unregisterAll = some next) : RemovesRemovable registry next := by
  rcases Option.bind_eq_some_iff.mp unregistered with ⟨middle, statefulEq, statelessEq⟩
  have middleConsistent := (consistent_unregisterAllStateful consistent statefulEq).1
  rcases Option.map_eq_some_iff.mp statefulEq with ⟨⟨looped, last⟩, slotsEq, rfl⟩
  rcases Option.map_eq_some_iff.mp statelessEq with ⟨⟨walked, lasts⟩, idsEq, rfl⟩
  have first := restricts_unregisterSlots _ consistent slotsEq
  have second := restricts_unregisterStatelessIds middleConsistent idsEq
  have permanent : ∀ tile, walked.Registered tile →
      (registry.info tile).removable = false := by
    intro tile registered
    have remains := (second.registered tile registered).1
    have before := first.registered tile remains
    cases stateless : isStateless tile with
    | false =>
        have home := consistent.stateful_home tile before.1 stateless
        exact permanent_of_unregisterSlots _ consistent slotsEq (mem_of_occupant home) remains
    | true =>
        have reserved := (middleConsistent.stateless_home tile remains stateless).1
        rw [← before.2]
        exact permanent_of_unregisterStatelessIds middleConsistent idsEq stateless
          (List.mem_range.mpr reserved) registered
  constructor
  · intro tile
    constructor
    · intro registered
      have remains := (second.registered tile registered).1
      exact ⟨(first.registered tile remains).1, permanent tile registered⟩
    · rintro ⟨registered, stays⟩
      have firstEq : looped.info tile = registry.info tile :=
        first.permanent tile registered stays
      have remains : looped.Registered tile := by
        rw [Registered, firstEq]
        exact registered
      have secondEq : walked.info tile = looped.info tile := by
        apply second.permanent tile remains
        rw [← stays, ← firstEq]
      rw [Registered, secondEq]
      exact remains
  · intro tile registered
    have remains := second.registered tile registered
    exact remains.2.trans (first.registered tile remains.1).2

end Remaining

section Cut

variable {registry next : TileRegistry T}

/-- Unregistering a tile does not change the size of a vector. -/
theorem length_unregisterTile {tile : T}
    (unregistered : registry.unregisterTile tile = some next) :
    next.statefulTiles.length = registry.statefulTiles.length ∧
      ∀ id, (next.statelessTiles id).length = (registry.statelessTiles id).length := by
  have slots := (unregisterTile_eq_some unregistered).2.2.2
  split at slots
  · rw [slots.1, slots.2.2.1]
    exact ⟨rfl, by simp⟩
  · rw [slots.1, slots.2.2.1, length_vacate]
    exact ⟨rfl, fun _ => rfl⟩

theorem length_unregisterSlots (position : TileInfo → TileId) {slots : List (Option T)}
    {last final : Nat} (consistent : registry.Consistent)
    (looped : unregisterSlots position slots registry last = some (next, final)) :
    next.statefulTiles.length = registry.statefulTiles.length ∧
      ∀ id, (next.statelessTiles id).length = (registry.statelessTiles id).length := by
  let sized (current : TileRegistry T) : Prop :=
    current.statefulTiles.length = registry.statefulTiles.length ∧
      ∀ id, (current.statelessTiles id).length = (registry.statelessTiles id).length
  have start : sized registry := ⟨rfl, fun _ => rfl⟩
  apply (unregisterSlots_invariant _ position consistent start looped).2
  intro current tile after _ currentSized unregistered
  have same := length_unregisterTile unregistered
  exact ⟨same.1.trans currentSized.1, fun id => (same.2 id).trans (currentSized.2 id)⟩

/-- The last tile that stays is inside its vector, if that has a slot. -/
private theorem last_lt_length (position : TileInfo → TileId) {slots : List (Option T)}
    (distinct : Distinct slots) (consistent : registry.Consistent)
    (registered : ∀ tile, some tile ∈ slots → registry.Registered tile)
    (owner : ∀ index tile, occupant slots index = some tile →
      (position (registry.info tile)).toNat = index)
    (used : slots ≠ []) {last : Nat}
    (looped : unregisterSlots position slots registry 0 = some (next, last)) :
    last < slots.length := by
  have inside : ∀ tile, some tile ∈ slots →
      (position (registry.info tile)).toNat < slots.length := by
    intro tile mem
    rcases occupant_of_mem mem with ⟨index, occupied⟩
    rw [owner index tile occupied]
    exact lt_of_occupant occupied
  have loop := unregisterSlots_spec position distinct consistent registered
    (List.length_pos_iff.mpr used) inside looped
  exact loop.2.2.2.1

theorem last_lt_length_statefulTiles (consistent : registry.Consistent)
    (used : registry.statefulTiles ≠ []) {last : Nat}
    (looped : unregisterSlots TileInfo.id registry.statefulTiles registry 0 =
      some (next, last)) : last < registry.statefulTiles.length := by
  rcases consistent.stateful_slots with ⟨distinct, slots⟩
  apply last_lt_length TileInfo.id distinct consistent _ _ used looped
  · exact fun tile mem => (slots tile mem).1
  · exact fun index tile occupied => (consistent.stateful_owner index tile occupied).2

theorem last_lt_length_statelessTiles (consistent : registry.Consistent) {id : Nat}
    (used : registry.statelessTiles id ≠ []) {last : Nat}
    (looped : unregisterSlots TileInfo.metastate (registry.statelessTiles id) registry 0 =
      some (next, last)) : last < (registry.statelessTiles id).length := by
  rcases consistent.stateless_slots id with ⟨distinct, slots⟩
  apply last_lt_length TileInfo.metastate distinct consistent _ _ used looped
  · exact fun tile mem => (slots tile mem).1
  · exact fun index tile occupied => (consistent.stateless_owner id index tile occupied).2.2.2

/-- Cutting off the stateful tiles cuts off their tombstones. -/
private theorem listed_unregisterAllStateful (consistent : registry.Consistent)
    (listed : registry.Listed) (used : registry.statefulTiles ≠ [])
    (unregistered : registry.unregisterAllStateful = some next) : next.Listed := by
  rcases Option.map_eq_some_iff.mp unregistered with ⟨⟨looped, last⟩, slotsEq, rfl⟩
  have loopedListed := (unregisterSlots_invariant
    (fun _ _ _ consistent listed unregistered =>
      listed_unregisterTile consistent listed unregistered) _ consistent listed slotsEq).2
  have inside := last_lt_length_statefulTiles consistent used slotsEq
  have size := (length_unregisterSlots _ consistent slotsEq).1
  have shorter : last + 1 ≤ looped.statefulTiles.length := by
    rw [size]
    exact inside
  constructor
  · constructor
    · intro id mem
      rcases List.mem_filter.mp mem with ⟨old, kept⟩
      simp only [hole_resize shorter]
      exact ⟨Nat.lt_succ_of_le (of_decide_eq_true kept), loopedListed.stateful_hole id old⟩
    · intro index hole
      simp only [hole_resize shorter] at hole
      rcases loopedListed.stateful_listed index hole.2 with ⟨id, mem, rfl⟩
      refine ⟨id, List.mem_filter.mpr ⟨mem, ?_⟩, rfl⟩
      exact decide_eq_true (Nat.le_of_lt_succ hole.1)
    · exact loopedListed.stateless_listed
  · exact loopedListed.stateless_hole

/-- Cutting off the stateless tiles keeps the remaining empty slots listed. -/
private theorem covered_unregisterStatelessIds {ids : List Nat} {lasts finals : Nat → Nat}
    (consistent : registry.Consistent) (covered : registry.Covered)
    (used : ∀ id ∈ ids, registry.statelessTiles id ≠ [])
    (looped : unregisterStatelessIds ids registry lasts = some (next, finals)) :
    next.Covered := by
  induction ids generalizing registry lasts with
  | nil =>
      cases looped
      exact covered
  | cons id rest ih =>
      rcases Option.bind_eq_some_iff.mp looped with ⟨⟨middle, last⟩, slotsEq, restLooped⟩
      rcases unregisterStatelessId_spec consistent slotsEq with ⟨resized, others⟩
      have middleCovered := (unregisterSlots_invariant
        (fun _ _ _ consistent covered unregistered =>
          covered_unregisterTile consistent covered unregistered) _ consistent covered slotsEq).2
      have inside := last_lt_length_statelessTiles consistent (used id List.mem_cons_self) slotsEq
      have shorter : last + 1 ≤ (middle.statelessTiles id).length := by
        rw [(length_unregisterSlots _ consistent slotsEq).2 id]
        exact inside
      apply ih resized _ _ restLooped
      · constructor
        · exact middleCovered.stateful_hole
        · exact middleCovered.stateful_listed
        · intro otherId reserved index hole
          apply middleCovered.stateless_listed otherId reserved index
          exact hole_of_update_resize _ _ _ _ shorter hole
      · intro otherId mem
        simp only
        by_cases same : otherId = id
        · rw [same, Function.update_self]
          apply List.ne_nil_of_length_pos
          rw [length_resize]
          exact Nat.succ_pos last
        · rw [Function.update_of_ne same, others otherId same]
          exact used otherId (List.mem_cons_of_mem _ mem)

/-- A vector that was cut off ends behind the last tile that stays. -/
private theorem length_unregisterStatelessIds {ids : List Nat} {lasts finals : Nat → Nat}
    (consistent : registry.Consistent) {id : Nat}
    (done : id ∉ ids → (registry.statelessTiles id).length = lasts id + 1)
    (looped : unregisterStatelessIds ids registry lasts = some (next, finals)) :
    (next.statelessTiles id).length = finals id + 1 := by
  induction ids generalizing registry lasts with
  | nil =>
      cases looped
      exact done List.not_mem_nil
  | cons first rest ih =>
      rcases Option.bind_eq_some_iff.mp looped with ⟨⟨middle, last⟩, slotsEq, restLooped⟩
      rcases unregisterStatelessId_spec consistent slotsEq with ⟨resized, others⟩
      apply ih resized _ restLooped
      intro notLater
      simp only
      by_cases same : id = first
      · rw [same, Function.update_self, Function.update_self, length_resize]
      · rw [Function.update_of_ne same, Function.update_of_ne same, others id same]
        apply done
        rw [List.mem_cons]
        rintro (here | later)
        · exact same here
        · exact notLater later

/-- If every vector has a slot, `unregister_all` leaves exactly the empty slots listed. -/
theorem listed_unregisterAll (consistent : registry.Consistent) (listed : registry.Listed)
    (statefulUsed : registry.statefulTiles ≠ [])
    (statelessUsed : ∀ id < reservedStatelessTileIds, registry.statelessTiles id ≠ [])
    (unregistered : registry.unregisterAll = some next) : next.Listed := by
  have nextConsistent := consistent_unregisterAll consistent unregistered
  rcases Option.bind_eq_some_iff.mp unregistered with ⟨middle, statefulEq, statelessEq⟩
  rcases consistent_unregisterAllStateful consistent statefulEq with
    ⟨middleConsistent, untouched⟩
  have middleListed := listed_unregisterAllStateful consistent listed statefulUsed statefulEq
  rcases Option.map_eq_some_iff.mp statelessEq with ⟨⟨walked, lasts⟩, idsEq, rfl⟩
  have walkedCovered : walked.Covered := by
    apply covered_unregisterStatelessIds middleConsistent middleListed.toCovered _ idsEq
    intro id mem
    rw [untouched]
    exact statelessUsed id (List.mem_range.mp mem)
  have size : ∀ id < reservedStatelessTileIds,
      (walked.statelessTiles id).length = lasts id + 1 := by
    intro id reserved
    apply length_unregisterStatelessIds middleConsistent _ idsEq
    exact fun outside => absurd (List.mem_range.mpr reserved) outside
  constructor
  · constructor
    · exact walkedCovered.stateful_hole
    · exact walkedCovered.stateful_listed
    · intro id reserved index hole
      rcases walkedCovered.stateless_listed id reserved index hole with
        ⟨entry, mem, idEq, indexEq⟩
      refine ⟨entry, List.mem_filter.mpr ⟨mem, decide_eq_true ?_⟩, idEq, indexEq⟩
      have inside : index < (walked.statelessTiles id).length := hole.1
      rw [size id reserved] at inside
      rw [idEq, indexEq]
      exact Nat.le_of_lt_succ inside
  · intro entry mem
    rcases nextConsistent.stateless_vacant entry mem with ⟨reserved, _, vacant⟩
    refine ⟨reserved, ?_, vacant⟩
    have kept := of_decide_eq_true (List.mem_filter.mp mem).2
    simp only [size _ reserved]
    exact Nat.lt_succ_of_le kept

end Cut

section Unused

variable {registry next : TileRegistry T}

/-- A vector is never cut off completely. -/
private theorem length_pos_unregisterAll (consistent : registry.Consistent)
    (unregistered : registry.unregisterAll = some next) :
    0 < next.statefulTiles.length ∧
      ∀ id < reservedStatelessTileIds, 0 < (next.statelessTiles id).length := by
  rcases Option.bind_eq_some_iff.mp unregistered with ⟨middle, statefulEq, statelessEq⟩
  have middleConsistent := (consistent_unregisterAllStateful consistent statefulEq).1
  rcases Option.map_eq_some_iff.mp statefulEq with ⟨⟨looped, last⟩, slotsEq, rfl⟩
  rcases Option.map_eq_some_iff.mp statelessEq with ⟨⟨walked, lasts⟩, idsEq, rfl⟩
  constructor
  · let used (current : TileRegistry T) : Prop := 0 < current.statefulTiles.length
    have start : used { looped with
        statefulTiles := resize looped.statefulTiles (last + 1)
        statefulTombstones := looped.statefulTombstones.filter fun id => id.toNat ≤ last } := by
      simp only [used, length_resize]
      exact Nat.succ_pos last
    apply (unregisterStatelessIds_invariant _ _ middleConsistent start idsEq).2
    · intro current tile after _ currentUsed unregistered
      simp only [used, (length_unregisterTile unregistered).1]
      exact currentUsed
    · exact fun _ _ _ currentUsed => currentUsed
  · intro id reserved
    rw [length_unregisterStatelessIds middleConsistent _ idsEq]
    · exact Nat.succ_pos (lasts id)
    · exact fun outside => absurd (List.mem_range.mpr reserved) outside

/-- No stateful tile and no tombstone of one. -/
private def StatefulUnused (registry : TileRegistry T) : Prop :=
  (∀ index, occupant registry.statefulTiles index = none) ∧ registry.statefulTombstones = []

/-- No tile and no tombstone with a reserved id. -/
private def StatelessUnused (id : Nat) (registry : TileRegistry T) : Prop :=
  (∀ index, occupant (registry.statelessTiles id) index = none) ∧
    ∀ entry ∈ registry.statelessTombstones, entry.1.toNat ≠ id

private theorem statefulUnused_unregisterTile {tile : T} (consistent : registry.Consistent)
    (unused : registry.StatefulUnused)
    (unregistered : registry.unregisterTile tile = some next) : next.StatefulUnused := by
  rcases unregisterTile_eq_some unregistered with ⟨registered, _, _, slots⟩
  split at slots
  · rw [StatefulUnused, slots.1, slots.2.1]
    exact unused
  · rename_i hasState
    have home := consistent.stateful_home tile registered (eq_false_of_ne_true hasState)
    rw [unused.1] at home
    contradiction

private theorem statelessUnused_unregisterTile {id : Nat} {tile : T}
    (consistent : registry.Consistent) (unused : StatelessUnused id registry)
    (unregistered : registry.unregisterTile tile = some next) : StatelessUnused id next := by
  rcases unregisterTile_eq_some unregistered with ⟨registered, _, _, slots⟩
  split at slots
  · rename_i stateless
    have home := (consistent.stateless_home tile registered stateless).2
    have elsewhere : (registry.info tile).id.toNat ≠ id := by
      intro same
      rw [same, unused.1] at home
      contradiction
    rw [StatelessUnused, slots.2.2.1, slots.2.2.2]
    constructor
    · intro index
      rw [Function.update_of_ne elsewhere.symm]
      exact unused.1 index
    · intro entry mem
      rcases List.mem_cons.mp mem with rfl | old
      · exact elsewhere
      · exact unused.2 entry old
  · rw [StatelessUnused, slots.2.2.1, slots.2.2.2]
    exact unused

/-- A stateful vector without slots gets an empty slot that is not listed. -/
private theorem not_listed_of_stateful_unused (consistent : registry.Consistent)
    (listed : registry.Listed) (unused : registry.statefulTiles = [])
    (unregistered : registry.unregisterAll = some next) : ¬next.Listed := by
  have start : registry.StatefulUnused := by
    constructor
    · simp [unused]
    · apply List.eq_nil_iff_forall_not_mem.mpr
      intro id mem
      have hole := listed.stateful_hole id mem
      simp [unused] at hole
  have final : next.StatefulUnused := by
    apply unregisterAll_invariant _ _ _ _ consistent start unregistered
    · intro current tile after consistent unused unregistered
      exact statefulUnused_unregisterTile consistent unused unregistered
    · intro current size unused
      refine ⟨fun index => ?_, unused.2⟩
      simp only [occupant_resize, unused.1, ite_self]
    · exact fun _ _ _ unused => unused
    · intro current stateful stateless unused sublist _
      refine ⟨unused.1, ?_⟩
      rw [unused.2] at sublist
      exact List.sublist_nil.mp sublist
  intro nextListed
  have used := (length_pos_unregisterAll consistent unregistered).1
  rcases nextListed.stateful_listed 0 ⟨used, final.1 0⟩ with ⟨id, mem, _⟩
  rw [final.2] at mem
  contradiction

/-- So does a stateless one. -/
private theorem not_listed_of_stateless_unused (consistent : registry.Consistent)
    (listed : registry.Listed) {id : Nat} (reserved : id < reservedStatelessTileIds)
    (unused : registry.statelessTiles id = [])
    (unregistered : registry.unregisterAll = some next) : ¬next.Listed := by
  have start : StatelessUnused id registry := by
    constructor
    · simp [unused]
    · rintro entry mem rfl
      have hole := (listed.stateless_hole entry mem).2
      simp [unused] at hole
  have final : StatelessUnused id next := by
    apply unregisterAll_invariant _ _ _ _ consistent start unregistered
    · intro current tile after consistent unused unregistered
      exact statelessUnused_unregisterTile consistent unused unregistered
    · exact fun _ _ unused => unused
    · intro current otherId size unused
      refine ⟨fun index => ?_, unused.2⟩
      simp only [occupant_update_resize, unused.1, ite_self]
    · intro current stateful stateless unused _ sublist
      exact ⟨unused.1, fun entry mem => unused.2 entry (sublist.subset mem)⟩
  intro nextListed
  have used := (length_pos_unregisterAll consistent unregistered).2 id reserved
  rcases nextListed.stateless_listed id reserved 0 ⟨used, final.1 0⟩ with ⟨entry, mem, idEq, _⟩
  exact final.2 entry mem idEq

end Unused

/-- Every vector has a slot, and no slot is empty. -/
structure Full (registry : TileRegistry T) : Prop where
  stateful_used : registry.statefulTiles ≠ []
  stateful_full : none ∉ registry.statefulTiles
  stateless_used : ∀ id < reservedStatelessTileIds, registry.statelessTiles id ≠ []
  stateless_full : ∀ id < reservedStatelessTileIds, none ∉ registry.statelessTiles id

/-- A call of `unregister_all` dereferences no empty slot and removes exactly the tiles that are
removable. -/
def ClearsSafely (registry : TileRegistry T) : RegistryAction T → Prop
  | .unregisterAll => ∃ next, registry.unregisterAll = some next ∧ RemovesRemovable registry next
  | _ => True

/-- `unregister_all` is only called on a full registry. -/
def ClearsFull (registry : TileRegistry T) : RegistryAction T → Prop
  | .unregisterAll => registry.Full
  | _ => True

/-- One call is safe and leaves exactly the empty slots listed if and only if it does not clear
a registry that is not full. -/
theorem listed_step_iff {registry : TileRegistry T} {action : RegistryAction T}
    (consistent : registry.Consistent) (listed : registry.Listed) :
    (registry.ClearsSafely action ∧
        ∀ next, step registry action = some next → next.Consistent ∧ next.Listed) ↔
      registry.ClearsFull action := by
  cases action with
  | registerTile tile removable =>
      apply iff_of_true _ trivial
      refine ⟨trivial, fun next stepEq => ⟨consistent_step consistent stepEq, ?_⟩⟩
      rcases Option.map_eq_some_iff.mp stepEq with ⟨⟨placed, td⟩, registeredEq, rfl⟩
      rcases Option.map_eq_some_iff.mp registeredEq with ⟨placedTile, placedEq, resultEq⟩
      cases resultEq
      exact listed_placeTile consistent listed placedEq
  | unregisterTile tile =>
      apply iff_of_true _ trivial
      refine ⟨trivial, fun next stepEq => ⟨consistent_step consistent stepEq, ?_⟩⟩
      exact listed_unregisterTile consistent listed stepEq
  | unregisterAll =>
      have defined := isSome_unregisterAll_iff consistent
      constructor
      · rintro ⟨⟨next, clearedEq, _⟩, kept⟩
        have nextListed := (kept next clearedEq).2
        rw [clearedEq] at defined
        rcases defined.mp rfl with ⟨statefulFull, statelessFull⟩
        constructor
        · intro unused
          exact not_listed_of_stateful_unused consistent listed unused clearedEq nextListed
        · exact statefulFull
        · intro id reserved unused
          exact not_listed_of_stateless_unused consistent listed reserved unused clearedEq
            nextListed
        · exact statelessFull
      · intro full
        constructor
        · rcases Option.isSome_iff_exists.mp
            (defined.mpr ⟨full.stateful_full, full.stateless_full⟩) with ⟨next, clearedEq⟩
          exact ⟨next, clearedEq, removesRemovable_unregisterAll consistent clearedEq⟩
        · intro next clearedEq
          refine ⟨consistent_unregisterAll consistent clearedEq, ?_⟩
          exact listed_unregisterAll consistent listed full.stateful_used full.stateless_used
            clearedEq

/-- **Slots and tombstones.**  Along a run every registered tile occupies its slot, exactly the
empty slots are listed among the tombstones, and `unregister_all` removes exactly the removable
tiles without dereferencing an empty slot, if and only if it is only called on full registries. -/
theorem slots_listed_iff (actions : List (RegistryAction T)) :
    (∀ before after registry, actions = before ++ after →
        run step empty before = some registry →
          (registry.Consistent ∧ registry.Listed) ∧
            ∀ action later, after = action :: later → registry.ClearsSafely action) ↔
      Guarded step ClearsFull empty actions := by
  apply @safe_throughout_iff_guarded _ _ step ClearsFull ClearsSafely Consistent
    fun registry => registry.Consistent ∧ registry.Listed
  · intro registry action next consistent stepEq
    exact consistent_step consistent stepEq
  · intro registry action consistent holds
    exact listed_step_iff consistent holds.2
  · exact consistent_empty
  · exact ⟨consistent_empty, listed_empty⟩

/-- Clearing a registry after a tile was unregistered dereferences an empty slot, and clearing a
new one leaves an empty slot that is not listed. -/
theorem unregisterAll_misses_slots :
    (∃ registry : TileRegistry SampleTile,
        run step empty [.registerTile (.lever 0) true, .unregisterTile (.lever 0)] =
          some registry ∧ ¬registry.ClearsSafely .unregisterAll) ∧
      ∃ registry : TileRegistry SampleTile,
        run step empty [.unregisterAll] = some registry ∧ ¬registry.Listed := by
  constructor
  · refine ⟨_, rfl, ?_⟩
    rintro ⟨next, clearedEq, _⟩
    contradiction
  · refine ⟨_, rfl, ?_⟩
    intro listed
    rcases listed.stateful_listed 0 ⟨by decide, by decide⟩ with ⟨id, mem, _⟩
    contradiction

end TileRegistry

end VoxelEngine.Voxel
