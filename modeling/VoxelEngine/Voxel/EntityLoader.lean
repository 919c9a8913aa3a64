import VoxelEngine.Data.HashTable
import VoxelEngine.Transition.Run
import VoxelEngine.Voxel.PositionSet
import Mathlib.Data.Rat.Floor

/-!
# The loader that follows an entity

An entity loader keeps the chunks around its entity loaded.  Whenever it is updated, it unloads
the chunks that are no longer near to the entity, and loads those that are now.  Positions and
distances are exact here.
-/

namespace VoxelEngine.Voxel

open VoxelEngine.Data VoxelEngine.Transition

/-- `distance_metrics` -/
inductive DistanceMetric where
  | L1
  | L2
  deriving DecidableEq

namespace DistanceMetric

/-- What a difference along one axis adds to a distance.  The distance of `L2` is squared, which
does not matter where distances are compared. -/
def part : DistanceMetric → Nat → Nat
  | L1, difference => difference
  | L2, difference => difference * difference

/-- The distance of two positions. -/
def distance (metric : DistanceMetric) (a b : TilePos) : Nat :=
  metric.part (b.x - a.x).natAbs + metric.part (b.y - a.y).natAbs +
    metric.part (b.z - a.z).natAbs

/-- The test of the loaders whether a chunk is near enough to a center. -/
def within (metric : DistanceMetric) (pos center range : TilePos) : Bool :=
  decide (metric.distance pos center ≤ metric.distance ⟨0, 0, 0⟩ range)

end DistanceMetric

/-- The conversion of a number to an integer, which rounds towards zero. -/
def towardZero (value : ℚ) : Int :=
  if value < 0 then ⌈value⌉ else ⌊value⌋

/-- `transform_component::position` -/
structure EntityPosition where
  x : ℚ
  y : ℚ
  z : ℚ
  deriving DecidableEq

/-- The chunk that `entity_loader::update` takes as the center. -/
def EntityPosition.center (position : EntityPosition) : TilePos :=
  ⟨towardZero (position.x / chunkSize), towardZero (position.y / chunkSize),
    towardZero (position.z / chunkSize)⟩

/-- `priority::NORMAL` -/
def normalPriority : UInt16 := 0

/-- The calls that a loader makes for its space. -/
inductive LoaderCall where
  | load (chunk : TilePos) (priority : UInt16)
  | unload (chunk : TilePos)
  deriving DecidableEq

/-- `entity_loader` -/
structure EntityLoader where
  range : TilePos
  loaded : HashTable TilePos UInt16

namespace EntityLoader

/-- The constructor. -/
def create (range : TilePos) : EntityLoader :=
  ⟨range, HashTable.empty⟩

/-- What `entity_loader::update` collects around the center.  The conversion of a distance to a
priority is left open. -/
def newLoaded (metric : DistanceMetric) (toPriority : TilePos → TilePos → UInt16)
    (center range : TilePos) : HashTable TilePos UInt16 :=
  HashTable.empty.emplaceAll
    (((spatialPositions center range).filter fun pos => metric.within pos center range).map
      fun pos => (pos, min normalPriority (toPriority pos center)))

/-- `entity_loader::update_loaded` -/
def updateLoaded (loader : EntityLoader) (newLoaded : HashTable TilePos UInt16) :
    EntityLoader × List LoaderCall :=
  let unloads := (loader.loaded.entries.filter fun entry => !newLoaded.contains entry.1).map
    fun entry => LoaderCall.unload entry.1
  let loads := (newLoaded.entries.filter fun entry => !loader.loaded.contains entry.1).map
    fun entry => LoaderCall.load entry.1 entry.2
  ({ loader with loaded := newLoaded }, unloads ++ loads)

/-- `entity_loader::stop_loading` -/
def stopLoading (loader : EntityLoader) : EntityLoader × List LoaderCall :=
  if loader.loaded.entries.isEmpty then (loader, []) else loader.updateLoaded HashTable.empty

/-- `entity_loader::update`, given the position of the entity if it has a transform component. -/
def update (metric : DistanceMetric) (toPriority : TilePos → TilePos → UInt16)
    (loader : EntityLoader) : Option EntityPosition → EntityLoader × List LoaderCall
  | none => loader.stopLoading
  | some position =>
      loader.updateLoaded (newLoaded metric toPriority position.center loader.range)

end EntityLoader

/-- A loader, the position of its entity, and the calls that the loader made so far. -/
structure EntityScene where
  loader : EntityLoader
  position : Option EntityPosition
  calls : List LoaderCall

/-- What can happen to an entity and its loader. -/
inductive EntityAction where
  | place (position : EntityPosition)
  | removeTransform
  | update
  | stopLoading

namespace EntityScene

/-- The scene after the loader made some calls. -/
def record (scene : EntityScene) : EntityLoader × List LoaderCall → EntityScene
  | (loader, made) => { scene with loader := loader, calls := scene.calls ++ made }

/-- The transition by an action. -/
def step (metric : DistanceMetric) (toPriority : TilePos → TilePos → UInt16) :
    Step EntityScene EntityAction
  | scene, .place position => some { scene with position := some position }
  | scene, .removeTransform => some { scene with position := none }
  | scene, .update =>
      some (scene.record (scene.loader.update metric toPriority scene.position))
  | scene, .stopLoading => some (scene.record scene.loader.stopLoading)

end EntityScene

end VoxelEngine.Voxel
