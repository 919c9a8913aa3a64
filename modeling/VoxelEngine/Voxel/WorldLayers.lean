import Mathlib.Data.Int.Order.Basic
import Mathlib.Data.List.Nodup
import VoxelEngine.Voxel.Chunk
import VoxelEngine.Voxel.TileRoundTrip

/-!
# World layers

A layered world has the tiles of a layer from the end of the layer below it up to its limit, and
the tiles of the sky above all layers.  The search for the layer of a height ends at the layer
below it, so that it only finds a layer at its limit, and the lowest layer.
-/

namespace VoxelEngine.Voxel

/-- `world_layers::layer`, which is compared by its limit. -/
structure Layer where
  limit : Int
  data : TileData
  deriving DecidableEq

/-- `vec_set::insert`, which does nothing if an equivalent layer is there. -/
def insertLayer (layer : Layer) : List Layer → List Layer
  | [] => [layer]
  | first :: rest =>
      if first.limit < layer.limit then first :: insertLayer layer rest
      else if layer.limit < first.limit then layer :: first :: rest
      else first :: rest

/-- `world_layers` -/
structure WorldLayers where
  layers : List Layer
  sky : TileData

/-- The loop of `world_layers::get_data_for_height`, with the layer it has found so far. -/
def findLayer (height : Int) : Option Layer → List Layer → Option Layer
  | found, [] => found
  | found, layer :: rest => if height < layer.limit then found else findLayer height (some layer) rest

namespace WorldLayers

/-- `world_layers::get_data_for_height` -/
def getDataForHeight (world : WorldLayers) (height : Int) : TileData :=
  match findLayer height world.layers.head? world.layers with
  | some layer => if height ≤ layer.limit then layer.data else world.sky
  | none => world.sky

variable {T : Type} [Tile T]

/-- `world_layers::add_layer` -/
def addLayer (registry : TileRegistry T) (world : WorldLayers) (limit : Int) (tile : T)
    (metadata : TileMetadata) : WorldLayers :=
  { world with layers := insertLayer ⟨limit, registry.getState tile metadata⟩ world.layers }

/-- The data of the layers within a chunk. -/
def layerCache (world : WorldLayers) (chunkpos : TilePos) : Fin chunkSize → TileData :=
  fun y => world.getDataForHeight (chunkpos.y * chunkSize + y)

/-- `flatland_generator::generate` -/
def generate (world : WorldLayers) (chunkpos : TilePos) : ChunkData :=
  fun pos => world.layerCache chunkpos pos.y

end WorldLayers

/-- A call of `add_layer`, with the registry at that time. -/
structure AddLayer (T : Type) where
  registry : TileRegistry T
  limit : Int
  tile : T
  metadata : TileMetadata

section Layers

variable {layer other : Layer} {layers : List Layer} {height : Int} {found : Option Layer}

/-! ## Sorted layers -/

/-- The limits of the layers ascend. -/
def Ascending (layers : List Layer) : Prop :=
  layers.Pairwise fun first second => first.limit < second.limit

theorem mem_insertLayer_iff (fresh : ∀ other ∈ layers, other.limit ≠ layer.limit) :
    other ∈ insertLayer layer layers ↔ other = layer ∨ other ∈ layers := by
  induction layers with
  | nil => rw [insertLayer, List.mem_singleton, or_iff_left List.not_mem_nil]
  | cons first rest ih =>
      have restFresh := fun other mem => fresh other (List.mem_cons_of_mem first mem)
      rw [insertLayer]
      split
      · rw [List.mem_cons, ih restFresh, List.mem_cons, or_left_comm]
      · rename_i notBelow
        rw [if_pos (lt_of_le_of_ne (le_of_not_gt notBelow) (fresh first List.mem_cons_self).symm),
          List.mem_cons]

theorem mem_of_mem_insertLayer (mem : other ∈ insertLayer layer layers) :
    other = layer ∨ other ∈ layers := by
  induction layers with
  | nil => exact Or.inl (List.mem_singleton.mp mem)
  | cons first rest ih =>
      rw [insertLayer] at mem
      split at mem
      · rcases List.mem_cons.mp mem with rfl | later
        · exact Or.inr List.mem_cons_self
        · exact (ih later).imp_right (List.mem_cons_of_mem first)
      · split at mem
        · exact List.mem_cons.mp mem
        · exact Or.inr mem

theorem Ascending.insertLayer (ascending : Ascending layers) (layer : Layer) :
    Ascending (insertLayer layer layers) := by
  induction layers with
  | nil => exact List.pairwise_singleton _ _
  | cons first rest ih =>
      rcases List.pairwise_cons.mp ascending with ⟨above, restAscending⟩
      rw [VoxelEngine.Voxel.insertLayer]
      split
      · rename_i below
        apply List.pairwise_cons.mpr
        constructor
        · intro other mem
          rcases mem_of_mem_insertLayer mem with rfl | later
          · exact below
          · exact above other later
        · exact ih restAscending
      · split
        · rename_i below
          apply List.pairwise_cons.mpr
          constructor
          · intro other mem
            rcases List.mem_cons.mp mem with rfl | later
            · exact below
            · exact lt_trans below (above other later)
          · exact ascending
        · exact ascending

/-- The search finds the last layer that does not end above the height. -/
theorem findLayer_spec (ascending : Ascending layers) :
    (∃ layer ∈ layers, layer.limit ≤ height ∧
        (∀ other ∈ layers, other.limit ≤ height → other.limit ≤ layer.limit) ∧
        findLayer height found layers = some layer) ∨
      (∀ layer ∈ layers, height < layer.limit) ∧ findLayer height found layers = found := by
  induction layers generalizing found with
  | nil => exact Or.inr ⟨fun _ mem => (by cases mem), rfl⟩
  | cons first rest ih =>
      rcases List.pairwise_cons.mp ascending with ⟨above, restAscending⟩
      rw [findLayer]
      by_cases ends : height < first.limit
      · rw [if_pos ends]
        apply Or.inr
        constructor
        · intro layer mem
          rcases List.mem_cons.mp mem with rfl | later
          · exact ends
          · exact lt_trans ends (above layer later)
        · rfl
      · rw [if_neg ends]
        have first_le := le_of_not_gt ends
        rcases ih restAscending with ⟨layer, mem, layer_le, greatest, foundEq⟩ | ⟨beyond, foundEq⟩
        · apply Or.inl
          have first_lt := above layer mem
          exact ⟨layer, List.mem_cons_of_mem _ mem, layer_le,
            List.forall_mem_cons.mpr ⟨fun _ => le_of_lt first_lt, greatest⟩, foundEq⟩
        · apply Or.inl
          have none : ∀ other ∈ rest, other.limit ≤ height → other.limit ≤ first.limit :=
            fun other mem le => absurd le (not_le_of_gt (beyond other mem))
          exact ⟨first, List.mem_cons_self, first_le,
            List.forall_mem_cons.mpr ⟨fun _ => le_refl _, none⟩, foundEq⟩

/-- What is found at a height is the layer that ends there, the lowest layer, or the sky. -/
theorem getDataForHeight_cases {world : WorldLayers} (ascending : Ascending world.layers)
    (height : Int) :
    (∃ layer ∈ world.layers, layer.limit = height ∧ world.getDataForHeight height = layer.data) ∨
      (∃ lowest ∈ world.layers, (∀ other ∈ world.layers, lowest.limit ≤ other.limit) ∧
        height < lowest.limit ∧ world.getDataForHeight height = lowest.data) ∨
      (∀ layer ∈ world.layers, layer.limit ≠ height) ∧
        (world.layers = [] ∨ ∃ below ∈ world.layers, below.limit < height) ∧
        world.getDataForHeight height = world.sky := by
  rcases findLayer_spec ascending with ⟨layer, mem, layer_le, greatest, foundEq⟩ | ⟨beyond, foundEq⟩
  · rw [WorldLayers.getDataForHeight, foundEq]
    rcases lt_or_eq_of_le layer_le with layer_lt | layer_eq
    · apply Or.inr
      apply Or.inr
      constructor
      · rintro other otherMem rfl
        exact absurd (greatest other otherMem (le_refl _)) (not_le_of_gt layer_lt)
      · exact ⟨Or.inr ⟨layer, mem, layer_lt⟩, if_neg (not_le_of_gt layer_lt)⟩
    · exact Or.inl ⟨layer, mem, layer_eq, if_pos (le_of_eq layer_eq.symm)⟩
  · rw [WorldLayers.getDataForHeight, foundEq]
    cases layersEq : world.layers with
    | nil => exact Or.inr (Or.inr ⟨fun _ mem => (by cases mem), Or.inl rfl, rfl⟩)
    | cons first rest =>
        rw [layersEq] at ascending beyond
        have lt := beyond first List.mem_cons_self
        apply Or.inr
        apply Or.inl
        have lowest : ∀ other ∈ first :: rest, first.limit ≤ other.limit :=
          List.forall_mem_cons.mpr ⟨le_refl _, fun other mem =>
            le_of_lt ((List.pairwise_cons.mp ascending).1 other mem)⟩
        exact ⟨first, List.mem_cons_self, lowest, lt, if_pos (le_of_lt lt)⟩

end Layers

section Calls

variable {T : Type} [Tile T] {world : WorldLayers} {calls : List (AddLayer T)}
  {height : Int} {call : AddLayer T} {sky : TileData}

/-! ## Calls -/

/-- The layer that a call adds. -/
def AddLayer.layer (call : AddLayer T) : Layer :=
  ⟨call.limit, call.registry.getState call.tile call.metadata⟩

/-- The layers after some calls. -/
def WorldLayers.addAll (world : WorldLayers) (calls : List (AddLayer T)) : WorldLayers :=
  calls.foldl
    (fun current call => current.addLayer call.registry call.limit call.tile call.metadata) world

/-- The layer of the call has the smallest limit that is not below the height. -/
def Spans (calls : List (AddLayer T)) (height : Int) (call : AddLayer T) : Prop :=
  call ∈ calls ∧ height ≤ call.limit ∧
    ∀ other ∈ calls, height ≤ other.limit → call.limit ≤ other.limit

/-- Each layer runs from the end of the one below it up to its limit, and the sky is above. -/
def Layered (calls : List (AddLayer T)) (world : WorldLayers) (height : Int) : Prop :=
  (∀ call, Spans calls height call → world.getDataForHeight height = call.layer.data) ∧
    ((∀ call ∈ calls, call.limit < height) → world.getDataForHeight height = world.sky)

/-- The layer of the height ends there, or is the lowest one, or looks like the sky. -/
def Reached (calls : List (AddLayer T)) (sky : TileData) (height : Int) : Prop :=
  ∀ call, Spans calls height call →
    call.limit = height ∨ (∀ other ∈ calls, height ≤ other.limit) ∨ call.layer.data = sky

@[simp]
theorem sky_addAll : (world.addAll calls).sky = world.sky := by
  induction calls generalizing world with
  | nil => rfl
  | cons call rest ih => exact ih

theorem Ascending.addAll (ascending : Ascending world.layers) :
    Ascending (world.addAll calls).layers := by
  induction calls generalizing world with
  | nil => exact ascending
  | cons call rest ih => exact ih (ascending.insertLayer call.layer)

/-- Calls with different limits add all of their layers. -/
theorem mem_addAll_iff {layer : Layer} (distinct : (calls.map AddLayer.limit).Nodup)
    (fresh : ∀ call ∈ calls, ∀ other ∈ world.layers, other.limit ≠ call.limit) :
    layer ∈ (world.addAll calls).layers ↔
      layer ∈ world.layers ∨ ∃ call ∈ calls, call.layer = layer := by
  induction calls generalizing world with
  | nil => exact (or_iff_left fun ⟨_, mem, _⟩ => (by cases mem)).symm
  | cons first rest ih =>
      rw [List.map_cons, List.nodup_cons] at distinct
      have mem_iff : ∀ other, other ∈ insertLayer first.layer world.layers ↔
          other = first.layer ∨ other ∈ world.layers :=
        fun other => mem_insertLayer_iff (fresh first List.mem_cons_self)
      have restFresh : ∀ call ∈ rest, ∀ other ∈ insertLayer first.layer world.layers,
          other.limit ≠ call.limit := by
        intro call mem other otherMem
        rcases (mem_iff other).mp otherMem with rfl | before
        · intro same
          exact distinct.1 (List.mem_map.mpr ⟨call, mem, same.symm⟩)
        · exact fresh call (List.mem_cons_of_mem first mem) other before
      have later := @ih { world with layers := insertLayer first.layer world.layers } distinct.2
        restFresh
      apply later.trans
      rw [mem_iff, or_comm (a := layer = first.layer), or_assoc, List.exists_mem_cons_iff]
      simp only [eq_comm]

/-- Layers are found at a height exactly if the layer of that height ends there or is the lowest
one, unless it looks like the sky. -/
theorem layered_iff_reached (sky : TileData) (calls : List (AddLayer T))
    (distinct : (calls.map AddLayer.limit).Nodup) (height : Int) :
    Layered calls (WorldLayers.addAll ⟨[], sky⟩ calls) height ↔ Reached calls sky height := by
  have sky_eq := @sky_addAll T _ ⟨[], sky⟩ calls
  have ascending := @Ascending.addAll T _ ⟨[], sky⟩ calls List.Pairwise.nil
  have mem_iff : ∀ layer, layer ∈ (WorldLayers.addAll ⟨[], sky⟩ calls).layers ↔
      ∃ call ∈ calls, call.layer = layer := by
    intro layer
    apply (mem_addAll_iff distinct fun _ _ _ mem => (by cases mem)).trans
    exact or_iff_right List.not_mem_nil
  have mem : ∀ call ∈ calls, call.layer ∈ (WorldLayers.addAll ⟨[], sky⟩ calls).layers :=
    fun call callMem => (mem_iff call.layer).mpr ⟨call, callMem, rfl⟩
  have same : ∀ first ∈ calls, ∀ second ∈ calls, first.limit = second.limit → first = second :=
    fun first firstMem second secondMem => List.inj_on_of_nodup_map distinct firstMem secondMem
  rcases getDataForHeight_cases ascending height with
    ⟨layer, layerMem, limit_eq, data_eq⟩ | ⟨lowest, lowestMem, least, lt, data_eq⟩ |
    ⟨none, below, data_eq⟩
  · rcases (mem_iff layer).mp layerMem with ⟨call, callMem, rfl⟩
    have spans_eq : ∀ other, Spans calls height other → other = call := by
      rintro other ⟨otherMem, height_le, smallest⟩
      apply same other otherMem call callMem
      have call_eq : call.limit = height := limit_eq
      exact le_antisymm (smallest call callMem (le_of_eq call_eq.symm)) (call_eq ▸ height_le)
    constructor
    · intro _ other spans
      rw [spans_eq other spans]
      exact Or.inl limit_eq
    · intro _
      constructor
      · intro other spans
        rw [spans_eq other spans]
        exact data_eq
      · intro all
        exact absurd limit_eq (ne_of_lt (all call callMem))
  · rcases (mem_iff lowest).mp lowestMem with ⟨call, callMem, rfl⟩
    have all_le : ∀ other ∈ calls, height ≤ other.limit :=
      fun other otherMem => le_trans (le_of_lt lt) (least other.layer (mem other otherMem))
    constructor
    · intro _ other _
      exact Or.inr (Or.inl all_le)
    · intro _
      constructor
      · rintro other ⟨otherMem, _, smallest⟩
        have limit_eq : other.limit = call.limit :=
          le_antisymm (smallest call callMem (le_of_lt lt)) (least other.layer (mem other otherMem))
        rw [same other otherMem call callMem limit_eq]
        exact data_eq
      · intro all
        exact absurd (all call callMem) (not_lt_of_ge (le_of_lt lt))
  · rw [sky_eq] at data_eq
    constructor
    · rintro ⟨inLayers, _⟩ call spans
      rw [← inLayers call spans]
      exact Or.inr (Or.inr data_eq)
    · intro reached
      constructor
      · intro call spans
        rcases reached call spans with limit_eq | all_le | data_eq_sky
        · exact absurd limit_eq (none call.layer (mem call spans.1))
        · rcases below with empty | ⟨layer, layerMem, layer_lt⟩
          · have callMem := mem call spans.1
            rw [empty] at callMem
            cases callMem
          · rcases (mem_iff layer).mp layerMem with ⟨other, otherMem, rfl⟩
            exact absurd (all_le other otherMem) (not_le_of_gt layer_lt)
        · rw [data_eq, data_eq_sky]
      · intro _
        rw [data_eq, sky_eq]

/-! ## Generated chunks -/

/-- A generated chunk has at each of its places the data for the height of the place. -/
@[simp]
theorem WorldLayers.generate_apply (world : WorldLayers) (chunkpos : TilePos) (pos : LocalPos) :
    world.generate chunkpos pos = world.getDataForHeight (toWorldpos chunkpos pos.offset).y :=
  rfl

/-- In a generated world the data of a tile only depends on its height. -/
@[simp]
theorem WorldLayers.generate_toLocalpos (world : WorldLayers) (pos : TilePos) :
    world.generate (toChunkpos pos) (toLocalpos pos) = world.getDataForHeight pos.y := by
  rw [generate_apply, toWorldpos_toChunkpos]

end Calls

/-- A registry with two tiles. -/
def groundRegistry : TileRegistry SampleTile :=
  (Transition.run TileRegistry.step TileRegistry.empty
    [.registerTile .stone true, .registerTile (.lever 0) true]).getD TileRegistry.empty

/-- Stone up to the ground, and then levers. -/
def groundCalls : List (AddLayer SampleTile) :=
  [⟨groundRegistry, 10, .lever 0, 1⟩, ⟨groundRegistry, 0, .stone, 0⟩]

theorem layered_iff_groundCalls :
    Layered groundCalls (WorldLayers.addAll ⟨[], ⟨0, 7⟩⟩ groundCalls) 10 ↔
      Reached groundCalls ⟨0, 7⟩ 10 :=
  layered_iff_reached ⟨0, 7⟩ groundCalls (by decide) 10

/-- Between the limits of two layers there is sky. -/
theorem sky_between_layers :
    ¬Layered groundCalls (WorldLayers.addAll ⟨[], ⟨0, 7⟩⟩ groundCalls) 5 := by
  rintro ⟨inLayers, _⟩
  have spans : Spans groundCalls 5 ⟨groundRegistry, 10, .lever 0, 1⟩ := by
    refine ⟨List.mem_cons_self, by decide, ?_⟩
    intro other mem height_le
    rcases List.mem_cons.mp mem with rfl | later
    · exact le_refl _
    · rw [List.mem_singleton.mp later] at height_le
      exact absurd height_le (by decide)
  have data_eq := inLayers _ spans
  revert data_eq
  decide +kernel

end VoxelEngine.Voxel
