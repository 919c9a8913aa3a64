import VoxelEngine.Voxel.Space
import VoxelEngine.Voxel.TileRoundTrip

/-!
# States of tiles

Chunks and spaces store tile data; their common interface lets a state be written and read
instead, which is a tile with its metadata.  The registry translates between the two.  It
takes the metadata of a state from the data of tiles without states only, where the number of
the tile stands in its place.
-/

namespace VoxelEngine.Voxel

open VoxelEngine.Transition
open Tile (numStates)

/-- What `tile_provider` uses of the types derived from it: `get_data`, and `set_data`, which
returns the old data. -/
structure TileProvider (σ P : Type) where
  getData : σ → P → TileData
  setData : σ → P → TileData → TileData × σ

/-- `tile_state`, whose tile is a pointer. -/
structure TileState (T : Type) where
  tile : Option T
  metadata : TileMetadata
  deriving DecidableEq

namespace TileProvider

variable {σ P T : Type} [Tile T] (provider : TileProvider σ P) (registry : TileRegistry T)

/-- The state that data stands for, unless it points outside of the registry. -/
def stateOf (td : TileData) : Option (TileState T) :=
  (registry.getTileForState td).map fun tile =>
    ⟨tile, TileRegistry.getEffectiveMetastate td⟩

/-- `tile_provider::get_state` -/
def getState (state : σ) (pos : P) : Option (TileState T) :=
  stateOf registry (provider.getData state pos)

/-- `tile_provider::set_state`, which returns the old state. -/
def setState (state : σ) (pos : P) (tile : T) (metadata : TileMetadata) :
    Option (TileState T) × σ :=
  let written := provider.setData state pos (registry.getState tile metadata)
  (stateOf registry written.1, written.2)

/-- Data that is written to this position is read back, and the data that was there is
returned. -/
structure LawfulAt (state : σ) (pos : P) : Prop where
  old : ∀ td, (provider.setData state pos td).1 = provider.getData state pos
  read : ∀ td, provider.getData (provider.setData state pos td).2 pos = td

/-- The state is read back after it was written, and the one that was there is returned. -/
def RoundTripsAt (state : σ) (pos : P) (tile : T) (metadata : TileMetadata) : Prop :=
  (provider.setState registry state pos tile metadata).1 = provider.getState registry state pos ∧
    provider.getState registry (provider.setState registry state pos tile metadata).2 pos =
      some ⟨some tile, metadata⟩

end TileProvider

/-- A chunk provides the tiles at its places. -/
def Chunk.provider : TileProvider Chunk LocalPos :=
  ⟨Chunk.getData, Chunk.setData⟩

/-- A space provides tiles everywhere, given the default state of the unknown tile. -/
def VoxelSpace.provider (M : Type) (unknown : TileData) : TileProvider (VoxelSpace M) TilePos :=
  ⟨fun space worldpos => space.getData unknown worldpos,
    fun space worldpos td => space.setData unknown worldpos td⟩

/-- The position is in a loaded chunk that is not locked. -/
def VoxelSpace.IsUnlockedAt {M : Type} (space : VoxelSpace M) (worldpos : TilePos) : Prop :=
  ∃ chunkData, space.chunks (toChunkpos worldpos) = some chunkData ∧
    chunkData.chunk.locked = false

theorem Chunk.lawfulAt {chunk : Chunk} (unlocked : chunk.locked = false) (place : LocalPos) :
    Chunk.provider.LawfulAt chunk place where
  old td := by
    change (chunk.setData place td).1 = chunk.data place
    unfold Chunk.setData
    split <;> rfl
  read td := by
    change (chunk.setData place td).2.data place = td
    rw [Chunk.setData_of_unlocked unlocked]
    exact Function.update_self place td chunk.data

theorem VoxelSpace.lawfulAt {M : Type} {space : VoxelSpace M} {worldpos : TilePos}
    (unlocked : space.IsUnlockedAt worldpos) (unknown : TileData) :
    (VoxelSpace.provider M unknown).LawfulAt space worldpos := by
  rcases unlocked with ⟨chunkData, present, unlocked⟩
  have chunkLawful := Chunk.lawfulAt unlocked (toLocalpos worldpos)
  constructor
  · intro td
    change (space.setData unknown worldpos td).1 = space.getData unknown worldpos
    rw [VoxelSpace.setData, VoxelSpace.getData, present]
    exact chunkLawful.old td
  · intro td
    change (space.setData unknown worldpos td).2.getData unknown worldpos = td
    rw [VoxelSpace.getData, VoxelSpace.setData_chunks present, if_pos rfl]
    exact chunkLawful.read td

namespace TileRegistry

variable {T : Type} [Tile T] {registry : TileRegistry T} {tile : T} {metadata : TileMetadata}

/-- What the metadata of a state is read back as: for a tile without states it is the number
of the tile among those with its id, and otherwise zero. -/
theorem getEffectiveMetastate_getState (consistent : registry.Consistent)
    (registered : registry.Registered tile) (found : registry.Distinguishable tile) :
    getEffectiveMetastate (registry.getState tile metadata) =
      if isStateless tile then (registry.info tile).metastate else 0 := by
  cases stateless : isStateless tile with
  | true =>
      have reserved := (consistent.stateless_home tile registered stateless).1
      rw [getState, stateless, if_pos rfl, if_pos rfl, getEffectiveMetastate, if_pos reserved]
  | false =>
      have large : reservedStatelessTileIds ≤ (registry.info tile).id.toNat := by
        rcases found with absurdStateless | large
        · rw [stateless] at absurdStateless
          cases absurdStateless
        · exact large
      rw [getState, stateless, if_neg Bool.false_ne_true, if_neg Bool.false_ne_true,
        getEffectiveMetastate, if_neg (Nat.not_lt.mpr large)]

/-- The metadata is kept: it is zero, and the tile is not without states, unless it is the
first of those with its id. -/
def KeepsMetadata (registry : TileRegistry T) (tile : T) (metadata : TileMetadata) : Prop :=
  metadata = 0 ∧ (isStateless tile = true → (registry.info tile).metastate = 0)

instance (registry : TileRegistry T) (tile : T) (metadata : TileMetadata) :
    Decidable (registry.KeepsMetadata tile metadata) :=
  inferInstanceAs (Decidable (_ ∧ (_ → _)))

/-- A tile without states has no metadata but zero. -/
theorem eq_zero_of_isStateless (stateless : isStateless tile = true)
    (valid : metadata < numStates tile) : metadata = 0 := by
  have single : numStates tile = 1 := of_decide_eq_true stateless
  rw [single, UInt16.lt_iff_toNat_lt] at valid
  rw [← UInt16.toNat_inj]
  exact Nat.lt_one_iff.mp valid

/-- Wherever data is read back, a state of a registered tile that lookups find is read back
exactly if its metadata is kept. -/
theorem Consistent.roundTripsAt_iff (consistent : registry.Consistent)
    (registered : registry.Registered tile) (found : registry.Distinguishable tile)
    (valid : metadata < numStates tile) {σ P : Type} {provider : TileProvider σ P} {state : σ}
    {pos : P} (lawful : provider.LawfulAt state pos) :
    provider.RoundTripsAt registry state pos tile metadata ↔
      registry.KeepsMetadata tile metadata := by
  have looked : registry.getTileForState (registry.getState tile metadata) =
      some (some tile) :=
    ((consistent.roundTrips_iff registered).mpr found).1 metadata valid
  have old : (provider.setState registry state pos tile metadata).1 =
      provider.getState registry state pos := by
    rw [TileProvider.setState, TileProvider.getState]
    exact congrArg (TileProvider.stateOf registry) (lawful.old _)
  have read : provider.getState registry
      (provider.setState registry state pos tile metadata).2 pos =
        some ⟨some tile, if isStateless tile then (registry.info tile).metastate else 0⟩ := by
    rw [TileProvider.getState, TileProvider.setState, lawful.read, TileProvider.stateOf, looked,
      Option.map_some, getEffectiveMetastate_getState consistent registered found]
  rw [TileProvider.RoundTripsAt, read, and_iff_right old, Option.some.injEq,
    TileState.mk.injEq, and_iff_right rfl, KeepsMetadata]
  cases stateless : isStateless tile with
  | true =>
      have zero := eq_zero_of_isStateless stateless valid
      simp [zero]
  | false =>
      simp [eq_comm]

variable [DecidableEq T]

/-- In every reachable registry, a state of a registered tile that lookups find is read back
from an unlocked chunk, and from an unlocked chunk of a space, exactly if its metadata is zero
and the tile, if it is without states, is the first of those with its id. -/
theorem roundTripsAt_iff_keepsMetadata {actions : List (RegistryAction T)}
    (runEq : run step empty actions = some registry) (registered : registry.Registered tile)
    (found : registry.Distinguishable tile) (valid : metadata < numStates tile) :
    (∀ (chunk : Chunk) (place : LocalPos), chunk.locked = false →
      (Chunk.provider.RoundTripsAt registry chunk place tile metadata ↔
        registry.KeepsMetadata tile metadata)) ∧
    ∀ (M : Type) (space : VoxelSpace M) (unknown : TileData) (worldpos : TilePos),
      space.IsUnlockedAt worldpos →
        ((VoxelSpace.provider M unknown).RoundTripsAt registry space worldpos tile metadata ↔
          registry.KeepsMetadata tile metadata) := by
  have consistent := consistent_run consistent_empty runEq
  constructor
  · intro chunk place unlocked
    exact consistent.roundTripsAt_iff registered found valid (Chunk.lawfulAt unlocked place)
  · intro M space unknown worldpos unlocked
    exact consistent.roundTripsAt_iff registered found valid
      (VoxelSpace.lawfulAt unlocked unknown)

/-- The stone is the first tile without states. -/
theorem roundTripsAt_iff_keepsMetadata_stone :
    ∃ registry, run step empty leverRun = some registry ∧
      Chunk.provider.RoundTripsAt registry (Chunk.create fun _ => ⟨0, 0⟩) ⟨0, 0, 0⟩
        SampleTile.stone 0 := by
  have reached : (run step (empty : TileRegistry SampleTile) leverRun).isSome = true := by decide
  rcases Option.isSome_iff_exists.mp reached with ⟨registry, runEq⟩
  rcases Option.map_eq_some_iff.mp (by decide : (run step empty leverRun).map
    (fun registry => registry.info SampleTile.stone) = some ⟨0, 0, true⟩) with
    ⟨other, otherEq, info⟩
  rw [Option.some.inj (otherEq.symm.trans runEq)] at info
  have registered : registry.Registered SampleTile.stone := by
    rw [Registered, info]
    decide
  have kept : registry.KeepsMetadata SampleTile.stone 0 := ⟨rfl, fun _ => congrArg _ info⟩
  exact ⟨registry, runEq, ((roundTripsAt_iff_keepsMetadata runEq registered
    (Or.inl (by decide)) (by decide)).1 _ _ rfl).mpr kept⟩

/-- The second state of the last lever is read back as its first. -/
theorem lever_loses_metadata :
    ∃ registry, run step empty leverRun = some registry ∧
      registry.Registered (.lever 4) ∧ registry.Distinguishable (.lever 4) ∧
      1 < numStates (SampleTile.lever 4) ∧
      Chunk.provider.getState registry (Chunk.provider.setState registry
        (Chunk.create fun _ => ⟨0, 0⟩) ⟨0, 0, 0⟩ (SampleTile.lever 4) 1).2 ⟨0, 0, 0⟩ =
          some ⟨some (.lever 4), 0⟩ ∧
      ¬Chunk.provider.RoundTripsAt registry (Chunk.create fun _ => ⟨0, 0⟩) ⟨0, 0, 0⟩
        (SampleTile.lever 4) 1 := by
  refine ⟨_, rfl, by decide, Or.inr (by decide), by decide, by decide, ?_⟩
  rintro ⟨_, read⟩
  revert read
  decide

end TileRegistry

end VoxelEngine.Voxel
