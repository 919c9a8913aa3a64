import Mathlib.Data.List.Nodup
import VoxelEngine.Data.Blocks
import VoxelEngine.Voxel.Chunk
import VoxelEngine.Voxel.MachinePosition

/-!
# Chunks as arrays

The tiles of a chunk are kept in one array, in which a place is found at its flattened index.
While the chunk is locked, replacing all of its tiles queues one write for each place, in an
order of iteration that has to agree with the flattening of the places.
-/

namespace VoxelEngine.Voxel

open VoxelEngine.Data

/-- `cube(chunk_size)` -/
abbrev chunkVolume : Nat :=
  chunkSize * chunkSize * chunkSize

/-- `chunk::data_t` -/
abbrev FlatData := Vector TileData chunkVolume

/-- A position at which the array of a chunk may be accessed. -/
structure ArrayPos where
  pos : Vec3i
  index_lt : pos.index < chunkVolume
  deriving DecidableEq

namespace ArrayPos

/-- The index at which the array is accessed. -/
def index (target : ArrayPos) : Nat :=
  target.pos.index

/-- The place of a chunk that the position leads to. -/
def place (target : ArrayPos) : LocalPos :=
  unflatten ⟨target.index, target.index_lt⟩

@[simp]
theorem index_place (target : ArrayPos) : target.place.index = target.index :=
  LocalPos.index_unflatten _

/-- The position that words inside of the chunk stand for. -/
def ofInside (pos : Vec3i) (place : LocalPos) (inside : pos.exact = place.offset) : ArrayPos where
  pos := pos
  index_lt := by
    rw [Vec3i.index_eq inside]
    exact place.index_lt

@[simp]
theorem place_ofInside {pos : Vec3i} {place : LocalPos} (inside : pos.exact = place.offset) :
    (ofInside pos place inside).place = place := by
  apply LocalPos.index_injective
  rw [index_place]
  exact Vec3i.index_eq inside

/-- `tilepos { position... }`, for the indices of a place. -/
def ofPlace (place : LocalPos) : ArrayPos :=
  ofInside (Vec3i.ofExact place.offset) place (Vec3i.exact_ofExact place.representable_offset)

@[simp]
theorem place_ofPlace (place : LocalPos) : (ofPlace place).place = place :=
  place_ofInside _

@[simp]
theorem index_ofPlace (place : LocalPos) : (ofPlace place).index = place.index := by
  rw [← index_place, place_ofPlace]

end ArrayPos

/-- The positions in the order in which `spatial_iterate` visits them. -/
def arrayPositions : List ArrayPos :=
  places.map ArrayPos.ofPlace

/-- The order of iteration agrees with the flattening of the places. -/
@[simp]
theorem map_index_places : places.map LocalPos.index = List.range chunkVolume := by
  have numbers (number : Nat → List Nat) :
      (List.finRange chunkSize).flatMap (fun i => number i.val) =
        (List.range chunkSize).flatMap number := by
    rw [← List.map_coe_finRange_eq_range, List.flatMap_map]
  have row (x y : Nat) : (List.finRange chunkSize).map
      (fun z => z.val + y * chunkSize + x * (chunkSize * chunkSize)) =
        (List.range chunkSize).map fun z => (x * chunkSize + y) * chunkSize + z := by
    rw [← List.map_coe_finRange_eq_range, List.map_map]
    apply List.map_congr_left
    intro z _
    simp only [Function.comp_apply, Nat.add_mul, Nat.mul_assoc]
    omega
  let block (i : Nat) : List Nat := (List.range chunkSize).map fun z => i * chunkSize + z
  calc places.map LocalPos.index
      = (List.finRange chunkSize).flatMap fun x => (List.finRange chunkSize).flatMap fun y =>
          block (x.val * chunkSize + y.val) := by
        simp only [places, List.map_flatMap, List.map_map, block, ← row]
        rfl
    _ = (List.range chunkSize).flatMap fun x => (List.range chunkSize).flatMap fun y =>
          block (x * chunkSize + y) := by
        have inner (x : Nat) := numbers fun y => block (x * chunkSize + y)
        simp only [inner]
        exact numbers fun x => (List.range chunkSize).flatMap fun y => block (x * chunkSize + y)
    _ = ((List.range chunkSize).flatMap fun x =>
          (List.range chunkSize).map fun y => x * chunkSize + y).flatMap block := by
        rw [List.flatMap_assoc]
        simp only [List.flatMap_map]
    _ = List.range chunkVolume := by
        rw [flatMap_range, flatMap_range]

theorem nodup_places : places.Nodup := by
  apply List.Nodup.of_map LocalPos.index
  rw [map_index_places]
  exact List.nodup_range

/-- The position that is visited after some number of others has that number as its index. -/
@[simp]
theorem index_arrayPositions : arrayPositions.map ArrayPos.index = List.range chunkVolume := by
  rw [← map_index_places, arrayPositions, List.map_map]
  apply List.map_congr_left
  intro place _
  exact ArrayPos.index_ofPlace place

theorem index_getElem_arrayPositions {i : Nat} (inRange : i < arrayPositions.length) :
    arrayPositions[i].index = i := by
  have numbered : (arrayPositions.map ArrayPos.index)[i]? = (List.range chunkVolume)[i]? := by
    rw [index_arrayPositions]
  have bound : i < chunkVolume := by
    have lengths := congrArg List.length index_arrayPositions
    rw [List.length_map, List.length_range] at lengths
    exact lengths ▸ inRange
  rw [List.getElem?_map, List.getElem?_eq_getElem inRange, List.getElem?_range bound] at numbered
  exact Option.some.inj numbered

@[simp]
theorem length_arrayPositions : arrayPositions.length = chunkVolume := by
  rw [← List.length_map ArrayPos.index, index_arrayPositions, List.length_range]

/-- A write to the array of a chunk. -/
abbrev ArrayChange := ArrayPos × TileData

/-- `chunk` -/
structure FlatChunk where
  data : FlatData
  locked : Bool
  pendingChanges : List ArrayChange

/-- An element of the array. -/
def FlatData.read (data : FlatData) (target : ArrayPos) : TileData :=
  data.get ⟨target.index, target.index_lt⟩

/-- Replace an element of the array. -/
def FlatData.write (data : FlatData) (target : ArrayPos) (td : TileData) : FlatData :=
  data.set target.index td target.index_lt

namespace FlatData

@[simp]
theorem read_write_self (data : FlatData) (target : ArrayPos) (td : TileData) :
    (data.write target td).read target = td :=
  Vector.getElem_set_self target.index_lt

theorem read_write_of_ne {first second : ArrayPos} (ne : first.index ≠ second.index)
    (data : FlatData) (td : TileData) : (data.write first td).read second = data.read second :=
  Vector.getElem_set_ne first.index_lt second.index_lt ne

/-- Every element is found at a position that is visited. -/
theorem ext_read {first second : FlatData}
    (same : ∀ target ∈ arrayPositions, first.read target = second.read target) :
    first = second := by
  apply Vector.ext
  intro i inRange
  have visited : i ∈ arrayPositions.map ArrayPos.index := by
    rw [index_arrayPositions, List.mem_range]
    exact inRange
  rcases List.mem_map.mp visited with ⟨target, mem, rfl⟩
  exact same target mem

/-- Writes one after the other. -/
def writeAll (data : FlatData) (changes : List ArrayChange) : FlatData :=
  changes.foldl (fun current change => current.write change.1 change.2) data

@[simp]
theorem writeAll_append (data : FlatData) (first second : List ArrayChange) :
    data.writeAll (first ++ second) = (data.writeAll first).writeAll second :=
  List.foldl_append

/-- An element that is not written to stays as it is. -/
theorem read_writeAll_of_notMem {changes : List ArrayChange} {target : ArrayPos}
    (untouched : target.index ∉ changes.map fun change => change.1.index) (data : FlatData) :
    (data.writeAll changes).read target = data.read target := by
  induction changes generalizing data with
  | nil => rfl
  | cons change rest ih =>
      rw [List.map_cons, List.mem_cons, not_or] at untouched
      exact (ih untouched.2 _).trans (read_write_of_ne (Ne.symm untouched.1) data change.2)

/-- Where no element is written to twice, each is read back. -/
theorem read_writeAll_of_mem {changes : List ArrayChange} {target : ArrayPos} {td : TileData}
    (once : (changes.map fun change => change.1.index).Nodup) (mem : (target, td) ∈ changes)
    (data : FlatData) : (data.writeAll changes).read target = td := by
  induction changes generalizing data with
  | nil => cases mem
  | cons change rest ih =>
      rw [List.map_cons, List.nodup_cons] at once
      rcases List.mem_cons.mp mem with rfl | later
      · exact (read_writeAll_of_notMem once.1 _).trans (read_write_self data target td)
      · exact ih once.2 later _

end FlatData

namespace FlatChunk

/-- `chunk::get_data` -/
def getData (chunk : FlatChunk) (target : ArrayPos) : TileData :=
  FlatData.read chunk.data target

/-- `chunk::set_data`, which returns the old tile. -/
def setData (chunk : FlatChunk) (target : ArrayPos) (td : TileData) : TileData × FlatChunk :=
  if chunk.locked then
    (FlatData.read chunk.data target,
      { chunk with pendingChanges := chunk.pendingChanges ++ [(target, td)] })
  else (FlatData.read chunk.data target, { chunk with data := FlatData.write chunk.data target td })

/-- `chunk::toggle_write_lock` -/
def toggleWriteLock (chunk : FlatChunk) (locked : Bool) : FlatChunk :=
  let toggled := { chunk with locked := locked }
  if locked then toggled
  else
    { toggled.pendingChanges.foldl
        (fun current change => (current.setData change.1 change.2).2) toggled with
      pendingChanges := [] }

/-- `chunk::has_pending_changes` -/
def hasPendingChanges (chunk : FlatChunk) : Bool :=
  !chunk.pendingChanges.isEmpty

/-- One write for each position, of the element of the array that the loop has come to. -/
def spread (data : FlatData) : List ArrayChange :=
  arrayPositions.mapFinIdx fun i target inRange =>
    (target, data.get ⟨i, Nat.lt_of_lt_of_eq inRange length_arrayPositions⟩)

/-- `chunk::set_chunk_data` -/
def setChunkData (chunk : FlatChunk) (data : FlatData) : FlatChunk :=
  if chunk.locked then { chunk with pendingChanges := spread data }
  else { chunk with data := data }

end FlatChunk

/-- A call that writes to a chunk. -/
inductive ChunkWrite where
  | setData (target : ArrayPos) (td : TileData)
  | setChunkData (data : FlatData)

/-- Make a call that writes to a chunk. -/
def ChunkWrite.perform (chunk : FlatChunk) : ChunkWrite → FlatChunk
  | setData target td => (chunk.setData target td).2
  | setChunkData data => chunk.setChunkData data

namespace FlatChunk

/-- An array that is read in the order of its indices is read at the positions. -/
theorem mapFinIdx_eq_map {positions : List ArrayPos}
    (numbered : ∀ (i : Nat) (inRange : i < positions.length), positions[i].index = i)
    (length_eq : positions.length = chunkVolume) (data : FlatData) :
    (positions.mapFinIdx fun i target inRange =>
        (target, data.get ⟨i, Nat.lt_of_lt_of_eq inRange length_eq⟩)) =
      positions.map fun target => (target, data.read target) := by
  apply List.ext_getElem
  · rw [List.length_mapFinIdx, List.length_map]
  · intro i _ inPositions
    have inRange : i < positions.length := by
      rw [List.length_map] at inPositions
      exact inPositions
    rw [List.getElem_map, List.getElem_mapFinIdx, FlatData.read]
    simp only [numbered i inRange]

/-- The element that the loop has come to is the one at the position it visits. -/
theorem spread_eq (data : FlatData) :
    spread data = arrayPositions.map fun target => (target, data.read target) :=
  mapFinIdx_eq_map (fun _ inRange => index_getElem_arrayPositions inRange) length_arrayPositions
    data

/-- The tiles that the chunk holds once its pending changes are applied. -/
def settled (chunk : FlatChunk) : FlatData :=
  chunk.data.writeAll chunk.pendingChanges

/-- Changes are pending in locked chunks only. -/
def Waits (chunk : FlatChunk) : Prop :=
  chunk.locked = true ∨ chunk.pendingChanges = []

/-- Writing all elements of an array one after the other replaces it. -/
@[simp]
theorem writeAll_spread (data replacement : FlatData) :
    data.writeAll (spread replacement) = replacement := by
  have once : ((spread replacement).map fun change => change.1.index).Nodup := by
    rw [spread_eq, List.map_map]
    exact index_arrayPositions ▸ List.nodup_range
  apply FlatData.ext_read
  intro target mem
  apply FlatData.read_writeAll_of_mem once
  rw [spread_eq]
  exact List.mem_map_of_mem mem

theorem foldl_setData_of_unlocked {chunk : FlatChunk} (unlocked : chunk.locked = false)
    (changes : List ArrayChange) :
    changes.foldl (fun current change => (current.setData change.1 change.2).2) chunk =
      { chunk with data := chunk.data.writeAll changes } := by
  induction changes generalizing chunk with
  | nil => rfl
  | cons change rest ih =>
      have written : (chunk.setData change.1 change.2).2 =
          { chunk with data := FlatData.write chunk.data change.1 change.2 } := by
        rw [setData, if_neg (by simp [unlocked])]
      rw [List.foldl_cons, written]
      exact @ih { chunk with data := _ } unlocked

/-- Releasing the lock applies all pending changes. -/
theorem toggleWriteLock_false (chunk : FlatChunk) :
    chunk.toggleWriteLock false = ⟨chunk.settled, false, []⟩ := by
  simp only [toggleWriteLock, Bool.false_eq_true, if_false]
  rw [foldl_setData_of_unlocked rfl]
  rfl

end FlatChunk

namespace ChunkWrite

/-- The effect of a write on the tiles of a chunk. -/
def effect (data : FlatData) : ChunkWrite → FlatData
  | setData target td => data.write target td
  | setChunkData replacement => replacement

@[simp]
theorem perform_locked (chunk : FlatChunk) (call : ChunkWrite) :
    (call.perform chunk).locked = chunk.locked := by
  cases call with
  | setData target td =>
      simp only [perform, FlatChunk.setData]
      split <;> rfl
  | setChunkData replacement =>
      simp only [perform, FlatChunk.setChunkData]
      split <;> rfl

theorem waits_perform {chunk : FlatChunk} (waits : chunk.Waits) (call : ChunkWrite) :
    (call.perform chunk).Waits := by
  cases locked : chunk.locked with
  | true => exact Or.inl ((perform_locked chunk call).trans locked)
  | false =>
      rcases waits with absurdLocked | nothing
      · rw [locked] at absurdLocked
        cases absurdLocked
      · right
        cases call <;> simp [perform, FlatChunk.setData, FlatChunk.setChunkData, locked, nothing]

/-- A write has its effect on the tiles that the chunk will hold, whether it is locked or not. -/
theorem settled_perform {chunk : FlatChunk} (waits : chunk.Waits) (call : ChunkWrite) :
    (call.perform chunk).settled = call.effect chunk.settled := by
  cases locked : chunk.locked with
  | true =>
      cases call with
      | setData target td =>
          rw [perform, FlatChunk.setData, if_pos locked]
          exact FlatData.writeAll_append chunk.data chunk.pendingChanges [(target, td)]
      | setChunkData replacement =>
          rw [perform, FlatChunk.setChunkData, if_pos locked, FlatChunk.settled,
            FlatChunk.writeAll_spread, effect]
  | false =>
      have nothing : chunk.pendingChanges = [] := by
        rcases waits with absurdLocked | nothing
        · rw [locked] at absurdLocked
          cases absurdLocked
        · exact nothing
      cases call <;>
        simp [perform, FlatChunk.setData, FlatChunk.setChunkData, FlatChunk.settled, effect,
          FlatData.writeAll, locked, nothing]

end ChunkWrite

namespace FlatChunk

/-- Make some calls that write to a chunk. -/
def performAll (chunk : FlatChunk) (calls : List ChunkWrite) : FlatChunk :=
  calls.foldl ChunkWrite.perform chunk

/-- What is known of a chunk after some writes. -/
theorem performAll_spec {chunk : FlatChunk} (waits : chunk.Waits) (calls : List ChunkWrite) :
    (chunk.performAll calls).Waits ∧ (chunk.performAll calls).locked = chunk.locked ∧
      (chunk.performAll calls).settled = calls.foldl ChunkWrite.effect chunk.settled := by
  induction calls generalizing chunk with
  | nil => exact ⟨waits, rfl, rfl⟩
  | cons call rest ih =>
      have later := ih (ChunkWrite.waits_perform waits call)
      rw [ChunkWrite.perform_locked, ChunkWrite.settled_perform waits] at later
      exact later

/-- A chunk that is not locked holds the tiles that it will hold. -/
theorem eq_of_unlocked {chunk : FlatChunk} (waits : chunk.Waits)
    (unlocked : chunk.locked = false) : chunk = ⟨chunk.settled, false, []⟩ := by
  cases chunk with
  | mk data locked pendingChanges =>
      rcases waits with absurdLocked | nothing
      · cases unlocked.symm.trans absurdLocked
      · cases unlocked
        cases nothing
        rfl

/-- Writes to a locked chunk have the effect, once it is released, that they have on the chunk
when it is not locked. -/
theorem release_performAll (chunk : FlatChunk) (calls : List ChunkWrite) :
    ((chunk.toggleWriteLock true).performAll calls).toggleWriteLock false =
        (chunk.toggleWriteLock false).performAll calls ∧
      (((chunk.toggleWriteLock true).performAll calls).toggleWriteLock false).hasPendingChanges =
        false := by
  have locked := @performAll_spec (chunk.toggleWriteLock true) (Or.inl rfl) calls
  have released : (chunk.toggleWriteLock false).Waits := by
    rw [toggleWriteLock_false]
    exact Or.inr rfl
  have unlocked := performAll_spec released calls
  rw [toggleWriteLock_false] at unlocked
  constructor
  · rw [toggleWriteLock_false, toggleWriteLock_false, eq_of_unlocked unlocked.1 unlocked.2.1,
      unlocked.2.2, locked.2.2]
    rfl
  · rw [toggleWriteLock_false]
    rfl

end FlatChunk

/-- The tiles in an array by their places. -/
def FlatData.view (data : FlatData) : ChunkData :=
  fun place => data.read (ArrayPos.ofPlace place)

/-- The chunk that an array of tiles stands for. -/
def FlatChunk.view (chunk : FlatChunk) : Chunk where
  data := FlatData.view chunk.data
  locked := chunk.locked
  pendingChanges := chunk.pendingChanges.map fun change => (change.1.place, change.2)

namespace FlatData

theorem read_congr {first second : ArrayPos} (equal : first.index = second.index)
    (data : FlatData) : data.read first = data.read second := by
  simp only [read, equal]

@[simp]
theorem view_place (data : FlatData) (target : ArrayPos) :
    view data target.place = data.read target := by
  apply read_congr
  rw [ArrayPos.index_ofPlace, ArrayPos.index_place]

theorem view_write (data : FlatData) (target : ArrayPos) (td : TileData) :
    (data.write target td).view = Function.update data.view target.place td := by
  funext place
  by_cases equal : place = target.place
  · rw [equal, view_place, read_write_self, Function.update_self]
  · rw [Function.update_of_ne equal]
    apply read_write_of_ne
    intro indices
    apply equal
    apply LocalPos.index_injective
    rw [ArrayPos.index_place, indices, ArrayPos.index_ofPlace]

theorem view_writeAll (data : FlatData) (changes : List ArrayChange) :
    (data.writeAll changes).view =
      applyChanges data.view (changes.map fun change => (change.1.place, change.2)) := by
  induction changes generalizing data with
  | nil => rfl
  | cons change rest ih =>
      rw [List.map_cons, applyChanges_cons, ← view_write]
      exact ih _

end FlatData

namespace FlatChunk

/-- Reading the array is reading the chunk. -/
@[simp]
theorem view_getData (chunk : FlatChunk) (target : ArrayPos) :
    chunk.view.getData target.place = chunk.getData target :=
  FlatData.view_place chunk.data target

/-- Writing to the array is writing to the chunk. -/
theorem view_setData (chunk : FlatChunk) (target : ArrayPos) (td : TileData) :
    chunk.view.setData target.place td =
      ((chunk.setData target td).1, (chunk.setData target td).2.view) := by
  cases locked : chunk.locked with
  | true =>
      rw [setData, if_pos locked, Chunk.setData]
      simp only [view, FlatData.view_place, locked, if_true, List.map_append, List.map_cons,
        List.map_nil]
  | false =>
      rw [setData, if_neg (by simp [locked]), Chunk.setData]
      simp only [view, FlatData.view_place, locked, Bool.false_eq_true, if_false,
        FlatData.view_write]

@[simp]
theorem view_toggleWriteLock (chunk : FlatChunk) (locked : Bool) :
    (chunk.toggleWriteLock locked).view = chunk.view.toggleWriteLock locked := by
  cases locked with
  | true => rfl
  | false =>
      rw [toggleWriteLock_false, Chunk.toggleWriteLock_false]
      simp only [view, settled, FlatData.view_writeAll, List.map_nil]

@[simp]
theorem view_setChunkData (chunk : FlatChunk) (data : FlatData) :
    (chunk.setChunkData data).view = chunk.view.setChunkData data.view := by
  cases locked : chunk.locked with
  | true =>
      have viewLocked : chunk.view.locked = true := locked
      rw [setChunkData, if_pos locked, Chunk.setChunkData, if_pos viewLocked]
      simp only [view, spread_eq, arrayPositions, List.map_map, Function.comp_def,
        ArrayPos.place_ofPlace, FlatData.view]
  | false =>
      rw [setChunkData, if_neg (by simp [locked]), Chunk.setChunkData,
        if_neg (by simp [view, locked])]
      rfl

end FlatChunk

end VoxelEngine.Voxel
