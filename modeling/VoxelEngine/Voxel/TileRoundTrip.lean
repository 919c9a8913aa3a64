import VoxelEngine.Voxel.TileConsistency

/-!
# Round trips through the tile registry

Looking a tile up by its data dispatches on the id alone, and takes the ids of the first
stateful tiles for reserved ones.  Those tiles are lost; all others are found again.
-/

namespace VoxelEngine.Voxel

open VoxelEngine.Data.SlotVector
open VoxelEngine.Transition
open Tile (numStates)

variable {T : Type} [Tile T] [DecidableEq T]

namespace TileRegistry

/-- Every state of the tile, and its default state, lead back to it. -/
def RoundTrips (registry : TileRegistry T) (tile : T) : Prop :=
  (∀ metadata, metadata < numStates tile →
    registry.getTileForState (registry.getState tile metadata) = some (some tile)) ∧
    registry.getTileForState (registry.getDefaultState tile) = some (some tile)

/-- The tile data that stand for a tile. -/
def Represents (registry : TileRegistry T) (td : TileData) (tile : T) : Prop :=
  (∃ metadata, metadata < numStates tile ∧ td = registry.getState tile metadata) ∨
    td = registry.getDefaultState tile

/-- Lookups find the tile: it is stateless, or its id is not one of the reserved ids. -/
def Distinguishable (registry : TileRegistry T) (tile : T) : Prop :=
  isStateless tile = true ∨ reservedStatelessTileIds ≤ (registry.info tile).id.toNat

omit [DecidableEq T] in
/-- A registered tile is found again exactly when it is distinguishable. -/
theorem Consistent.roundTrips_iff {registry : TileRegistry T} (consistent : registry.Consistent)
    {tile : T} (registered : registry.Registered tile) :
    registry.RoundTrips tile ↔ registry.Distinguishable tile := by
  cases stateless : isStateless tile with
  | true =>
      obtain ⟨reserved, home⟩ := consistent.stateless_home tile registered stateless
      rw [occupant_eq_some_iff] at home
      simp [RoundTrips, Distinguishable, getState, getDefaultState, getTileForState, stateless,
        reserved, home]
  | false =>
      have home := consistent.stateful_home tile registered stateless
      rw [occupant_eq_some_iff] at home
      by_cases reserved : (registry.info tile).id.toNat < reservedStatelessTileIds
      · constructor
        · intro roundTrips
          have found := roundTrips.2
          simp only [getDefaultState, stateless, Bool.false_eq_true, if_false, getTileForState,
            reserved, if_true] at found
          have owner := consistent.stateless_owner _ _ tile (occupant_eq_some_iff.mpr found)
          rw [stateless] at owner
          exact absurd owner.2.1 Bool.false_ne_true
        · rintro (absurdStateless | large)
          · rw [stateless] at absurdStateless
            contradiction
          · exact absurd reserved (Nat.not_lt.mpr large)
      · simp [RoundTrips, Distinguishable, getState, getDefaultState, getTileForState, stateless,
          reserved, home, Nat.le_of_not_lt reserved]

omit [DecidableEq T] in
/-- Data that stands for a tile which round-trips stands for no other such tile. -/
theorem eq_of_represents {registry : TileRegistry T} {first second : T} {td : TileData}
    (firstTrips : registry.RoundTrips first) (secondTrips : registry.RoundTrips second)
    (firstTd : registry.Represents td first) (secondTd : registry.Represents td second) :
    first = second := by
  have found : ∀ tile, registry.RoundTrips tile → registry.Represents td tile →
      registry.getTileForState td = some (some tile) := by
    rintro tile trips (⟨metadata, valid, rfl⟩ | rfl)
    · exact trips.1 metadata valid
    · exact trips.2
  have same := (found first firstTrips firstTd).symm.trans (found second secondTrips secondTd)
  exact Option.some.inj (Option.some.inj same)

/-- **Round trips.**  In every reachable registry exactly the distinguishable tiles are
found again, no two of them share any data, and `unregister_all` is defined exactly while
no slot is empty. -/
theorem roundTrips_iff_of_run (actions : List (RegistryAction T)) {registry : TileRegistry T}
    (runEq : run step empty actions = some registry) :
    (∀ tile, registry.Registered tile →
        (registry.RoundTrips tile ↔ registry.Distinguishable tile)) ∧
      (∀ first second, registry.Registered first → registry.Registered second →
        registry.Distinguishable first → registry.Distinguishable second → first ≠ second →
          ∀ td, ¬(registry.Represents td first ∧ registry.Represents td second)) ∧
      (registry.unregisterAll.isSome ↔
        none ∉ registry.statefulTiles ∧
          ∀ id < reservedStatelessTileIds, none ∉ registry.statelessTiles id) := by
  have consistent := consistent_run consistent_empty runEq
  refine ⟨fun tile registered => consistent.roundTrips_iff registered, ?_,
    isSome_unregisterAll_iff consistent⟩
  rintro first second firstRegistered secondRegistered firstOk secondOk ne td ⟨firstTd, secondTd⟩
  exact ne (eq_of_represents ((consistent.roundTrips_iff firstRegistered).mpr firstOk)
    ((consistent.roundTrips_iff secondRegistered).mpr secondOk) firstTd secondTd)

end TileRegistry

/-- A stateless tile and a supply of tiles with two states. -/
inductive SampleTile where
  | stone
  | lever (serial : Nat)
  deriving DecidableEq

instance : Tile SampleTile where
  numStates
    | .stone => 1
    | .lever _ => 2

namespace TileRegistry

/-- A stateless tile and five stateful ones. -/
def leverRun : List (RegistryAction SampleTile) :=
  [.registerTile .stone true, .registerTile (.lever 0) true, .registerTile (.lever 1) true,
    .registerTile (.lever 2) true, .registerTile (.lever 3) true, .registerTile (.lever 4) true]

/-- The stone and the last lever are found again. -/
theorem roundTrips_leverRun :
    ∃ registry, run step empty leverRun = some registry ∧
      registry.RoundTrips .stone ∧ registry.RoundTrips (.lever 4) := by
  refine ⟨_, rfl, ?_, ?_⟩
  · exact ((roundTrips_iff_of_run leverRun rfl).1 .stone (by decide)).mpr (Or.inl (by decide))
  · exact ((roundTrips_iff_of_run leverRun rfl).1 (.lever 4) (by decide)).mpr
      (Or.inr (by decide))

/-- The first lever is not: its data stands for the stone. -/
theorem lever_mistaken_for_stone :
    ∃ registry, run step empty leverRun = some registry ∧
      registry.Registered .stone ∧ registry.Registered (.lever 0) ∧
      registry.getTileForState (registry.getState (.lever 0) 0) = some (some .stone) ∧
      registry.getState (.lever 0) 0 = registry.getDefaultState .stone ∧
      ¬registry.RoundTrips (.lever 0) := by
  refine ⟨_, rfl, by decide, by decide, by decide, by decide, fun trips => ?_⟩
  have found := trips.1 0 (by decide)
  revert found
  decide

end TileRegistry

end VoxelEngine.Voxel
