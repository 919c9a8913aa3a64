import VoxelEngine.Data.Blocks
import VoxelEngine.Voxel.ChunkMesher

/-!
# The faces of a tile

A tile is drawn as a cube, of which each visible side adds four vertices and the indices of two
triangles.  A mesh that consists of such faces stays one when it is moved to its place behind
other faces, since its indices are moved along.
-/

namespace VoxelEngine.Voxel

open VoxelEngine.Data

/-- `cube_index_pattern` -/
def cubeIndexPattern : List UInt32 :=
  [0, 2, 3, 0, 3, 1]

/-- The four vertices of a face. -/
abbrev Face (V : Type) := Fin 4 → V

variable {V : Type}

/-- The indices of some number of faces, whose vertices follow one another. -/
def faceIndices (count : Nat) : List UInt32 :=
  (List.range count).flatMap fun number =>
    cubeIndexPattern.map fun index => index + UInt32.ofNat (4 * number)

/-- A mesh that consists of faces. -/
def faceMesh (faces : List (Face V)) : TileMesh V where
  vertices := faces.flatMap List.ofFn
  indices := faceIndices faces.length

theorem length_vertices_faceMesh (faces : List (Face V)) :
    (faceMesh faces).vertices.length = 4 * faces.length := by
  induction faces with
  | nil => rfl
  | cons face rest ih =>
      change (List.ofFn face ++ (faceMesh rest).vertices).length = _
      rw [List.length_append, ih, List.length_ofFn, List.length_cons]
      omega

/-- The indices of further faces are those of the first ones, moved behind them. -/
theorem faceIndices_add (first second : Nat) :
    faceIndices (first + second) =
      faceIndices first ++
        (faceIndices second).map fun index => index + UInt32.ofNat (4 * first) := by
  have moved (number : Nat) :
      (cubeIndexPattern.map fun index => index + UInt32.ofNat (4 * (first + number))) =
        (cubeIndexPattern.map fun index => index + UInt32.ofNat (4 * number)).map
          fun index => index + UInt32.ofNat (4 * first) := by
    rw [List.map_map]
    apply List.map_congr_left
    intro index _
    rw [Function.comp_apply, Nat.mul_add, UInt32.ofNat_add, UInt32.add_assoc,
      UInt32.add_comm (UInt32.ofNat (4 * first))]
  rw [faceIndices, List.range_add, List.flatMap_append, List.flatMap_map, faceIndices,
    faceIndices, List.map_flatMap]
  simp only [moved]

/-- A mesh of faces is put behind another one by moving its indices. -/
theorem faceMesh_append (first second : List (Face V)) :
    faceMesh (first ++ second) =
      { vertices := (faceMesh first).vertices ++ (faceMesh second).vertices
        indices := (faceMesh first).indices ++ (faceMesh second).indices.map fun index =>
          index + UInt32.ofNat (faceMesh first).vertices.length } := by
  rw [length_vertices_faceMesh]
  simp only [faceMesh, List.flatMap_append, List.length_append, faceIndices_add]

/-- The corners of a face are the four vertices at its number. -/
theorem getElem?_vertices_faceMesh {faces : List (Face V)} {number : Nat} {face : Face V}
    (found : faces[number]? = some face) (corner : Fin 4) :
    (faceMesh faces).vertices[4 * number + corner]? = some (face corner) := by
  rw [faceMesh, getElem?_flatMap_of_length (fun face => List.length_ofFn) faces number
    corner.isLt, found, Option.bind_some, List.getElem?_ofFn, dif_pos corner.isLt]

/-- The indices of a face lead to its own vertices. -/
theorem getElem?_indices_faceMesh {faces : List (Face V)} {number : Nat}
    (inRange : number < faces.length) (corner : Fin 6) :
    (faceMesh faces).indices[6 * number + corner]? =
      cubeIndexPattern[corner.val]?.map fun index => index + UInt32.ofNat (4 * number) := by
  rw [faceMesh, faceIndices, getElem?_flatMap_of_length _ _ number corner.isLt,
    List.getElem?_range inRange, Option.bind_some, List.getElem?_map]
  intro number
  rw [List.length_map]
  rfl

/-- One round of the loop of `tile::append_mesh`, which counts the sides it has rendered. -/
def appendSide (face : Direction → Face V) (visibleSides : UInt8) (state : TileMesh V × Nat)
    (direction : Direction) : TileMesh V × Nat :=
  if visibleSides &&& Mesher.sideBit direction ≠ 0 then
    ({ vertices := state.1.vertices ++ List.ofFn (face direction)
       indices := state.1.indices ++
         cubeIndexPattern.map fun index => index + UInt32.ofNat (4 * state.2) },
      state.2 + 1)
  else state

/-- `tile::append_mesh`, into an empty mesh, given the vertices of each side. -/
def appendMesh (rendered : Bool) (face : Direction → Face V) (visibleSides : UInt8) :
    TileMesh V :=
  if rendered then (directions.foldl (appendSide face visibleSides) (default, 0)).1 else default

/-- The sides of a tile of which the bit is set. -/
def sidesOf (visibleSides : UInt8) : List Direction :=
  directions.filter fun direction => visibleSides &&& Mesher.sideBit direction ≠ 0

@[simp]
theorem faceMesh_singleton (face : Face V) :
    faceMesh [face] = ⟨List.ofFn face, cubeIndexPattern⟩ := by
  rw [faceMesh, List.flatMap_singleton]
  rfl

/-- A visible side is added as a further face. -/
theorem appendSide_faceMesh (face : Direction → Face V) (visibleSides : UInt8)
    (faces : List (Face V)) (direction : Direction) :
    appendSide face visibleSides (faceMesh faces, faces.length) direction =
      if visibleSides &&& Mesher.sideBit direction ≠ 0 then
        (faceMesh (faces ++ [face direction]), (faces ++ [face direction]).length)
      else (faceMesh faces, faces.length) := by
  rw [appendSide, faceMesh_append, faceMesh_singleton, length_vertices_faceMesh,
    List.length_append, List.length_singleton]

/-- A tile appends one face for each of its visible sides. -/
theorem appendMesh_of_rendered (face : Direction → Face V) (visibleSides : UInt8) :
    appendMesh true face visibleSides = faceMesh ((sidesOf visibleSides).map face) := by
  have loop (dirs : List Direction) (faces : List (Face V)) :
      (dirs.foldl (appendSide face visibleSides) (faceMesh faces, faces.length)).1 =
        faceMesh (faces ++ (dirs.filter fun direction =>
          visibleSides &&& Mesher.sideBit direction ≠ 0).map face) := by
    induction dirs generalizing faces with
    | nil => rw [List.foldl_nil, List.filter_nil, List.map_nil, List.append_nil]
    | cons dir rest ih =>
        rw [List.foldl_cons, appendSide_faceMesh]
        by_cases visible : visibleSides &&& Mesher.sideBit dir ≠ 0
        · rw [if_pos visible, ih, List.filter_cons_of_pos (by simpa using visible),
            List.map_cons, List.append_assoc, List.singleton_append]
        · rw [if_neg visible, ih, List.filter_cons_of_neg (by simpa using visible)]
  rw [appendMesh, if_pos rfl]
  exact loop directions []

theorem sideBit_and_sideBit (first second : Direction) :
    Mesher.sideBit first &&& Mesher.sideBit second ≠ 0 ↔ first = second := by
  cases first <;> cases second <;> decide

theorem or_and_ne_zero_iff (first second mask : UInt8) :
    (first ||| second) &&& mask ≠ 0 ↔ first &&& mask ≠ 0 ∨ second &&& mask ≠ 0 := by
  have distributes : (first ||| second) &&& mask = (first &&& mask) ||| (second &&& mask) :=
    UInt8.toBitVec_inj.mp BitVec.and_or_distrib_right
  rw [distributes, ne_eq, UInt8.or_eq_zero_iff, not_and_or]

/-- The bits that are set are those of the visible sides. -/
@[simp]
theorem mem_sidesOf_visibleSides {T : Type} [Tile T] [DecidableEq T] (mesher : Mesher T V)
    (adjacent : Direction → TileData) (side : Direction) :
    side ∈ sidesOf (mesher.visibleSides adjacent) ↔
      mesher.isVisible (adjacent side) side = true := by
  have loop (dirs : List Direction) (sides : UInt8) :
      dirs.foldl (fun sides dir =>
          if mesher.isVisible (adjacent dir) dir then sides ||| Mesher.sideBit dir else sides)
        sides &&& Mesher.sideBit side ≠ 0 ↔
      sides &&& Mesher.sideBit side ≠ 0 ∨
        side ∈ dirs ∧ mesher.isVisible (adjacent side) side = true := by
    induction dirs generalizing sides with
    | nil => simp
    | cons dir rest ih =>
        rw [List.foldl_cons, ih, List.mem_cons]
        by_cases same : dir = side
        · subst same
          split
          · rename_i visible
            have bit : Mesher.sideBit dir &&& Mesher.sideBit dir ≠ 0 :=
              (sideBit_and_sideBit dir dir).mpr rfl
            constructor
            · intro _
              exact Or.inr ⟨Or.inl rfl, visible⟩
            · intro _
              exact Or.inl ((or_and_ne_zero_iff _ _ _).mpr (Or.inr bit))
          · rename_i hidden
            simp [hidden]
        · have other : ¬side = dir := fun equal => same equal.symm
          split
          · simp only [or_and_ne_zero_iff, sideBit_and_sideBit, same, other, or_false, false_or]
          · simp only [other, false_or]
  rw [sidesOf, List.mem_filter, decide_eq_true_iff, Mesher.visibleSides, loop directions 0]
  simp

/-- Faces that are moved to a place are put behind those that there are. -/
theorem pushAndDenormalize_faceMesh {T : Type} [Tile T] [DecidableEq T] (mesher : Mesher T V)
    (first second : List (Face V)) (place : LocalPos) :
    mesher.pushAndDenormalize (faceMesh first) (faceMesh second) place =
      faceMesh (first ++ second.map fun face corner => mesher.displace (face corner) place) := by
  rw [Mesher.pushAndDenormalize, faceMesh_append]
  congr 1
  · congr 1
    simp only [faceMesh, List.map_flatMap, List.flatMap_map, List.map_ofFn, Function.comp_def]
  · simp only [faceMesh, List.length_map]

end VoxelEngine.Voxel
