import Mathlib.Data.List.Nodup
import Mathlib.Data.Set.Function
import VoxelEngine.Data.Blocks
import VoxelEngine.Data.CubePlace
import VoxelEngine.Data.MachineInteger

/-!
# Positions and indices

The places of a cube are numbered by arithmetic, and visited by nested loops.  Both agree as long
as the volume of the cube can be represented.
-/

namespace VoxelEngine.Utility

open VoxelEngine.Data VoxelEngine.Data.MachineInteger

universe u v w

/-- `vec3` -/
@[ext]
structure Vec3 (T : Type u) where
  x : T
  y : T
  z : T

section Source

variable {T : Type u} [MachineInteger T] {α : Type v} {σ : Type w}

/-- `square` -/
def square (value : T) : T :=
  value * value

/-- `flatten` -/
def flatten (pos : Vec3 T) (size : T) : T :=
  pos.z + pos.y * size + pos.x * square size

/-- `unflatten` -/
def unflatten (pos size : T) : Vec3 T :=
  ⟨pos / square size, pos / size % size, pos % size⟩

/-- `spatial_iterate`, for a function that changes some state. -/
def spatialIterate (pred : List Nat → σ → σ) : Nat → List Nat → List Nat → σ → σ
  | firstExtent, [], indices, state =>
      (List.range firstExtent).foldl (fun current i => pred (indices ++ [i]) current) state
  | firstExtent, secondExtent :: extents, indices, state =>
      (List.range firstExtent).foldl
        (fun current i => spatialIterate pred secondExtent extents (indices ++ [i]) current) state

/-- `tilepos { position... }` -/
def Vec3.ofIndices (indices : List Nat) : Vec3 T :=
  ⟨ofInt (indices.getD 0 0), ofInt (indices.getD 1 0), ofInt (indices.getD 2 0)⟩

/-- `chunk::foreach_common`, for chunks of any size. -/
def foreachCommon (size : Nat) (pred : Vec3 T → α → σ → σ) (data : Nat → α) (state : σ) : σ :=
  (spatialIterate
    (fun indices (current : Nat × σ) =>
      (current.1 + 1, pred (Vec3.ofIndices indices) (data current.1) current.2))
    size [size, size] [] (0, state)).2

/-- The positions in the order in which `spatial_iterate` visits them. -/
def visited (T : Type u) [MachineInteger T] (size : Nat) : List (Vec3 T) :=
  spatialIterate (fun indices seen => seen ++ [Vec3.ofIndices indices]) size [size, size] [] []

end Source

variable {T : Type u} [MachineInteger T]

/-- All coordinates are at least zero and below the size. -/
structure InCube (size : T) (pos : Vec3 T) : Prop where
  x_nonneg : 0 ≤ toInt pos.x
  x_lt : toInt pos.x < toInt size
  y_nonneg : 0 ≤ toInt pos.y
  y_lt : toInt pos.y < toInt size
  z_nonneg : 0 ≤ toInt pos.z
  z_lt : toInt pos.z < toInt size

/-- The index of a place in the cube. -/
def IsIndex (size index : T) : Prop :=
  0 ≤ toInt index ∧ toInt index < toInt size * toInt size * toInt size

/-- There is a cube of the size, and the number of its places is represented. -/
structure Cubic (size : T) : Prop where
  pos : 0 < toInt size
  fits : toInt size * toInt size * toInt size ≤ greatest T

/-! ## Arithmetic -/

section Arithmetic

variable {size : T} {pos : Vec3 T} {index : T}

theorem Cubic.square_pos (cubic : Cubic size) : 0 < toInt size * toInt size :=
  Int.mul_pos cubic.pos cubic.pos

theorem Cubic.toInt_square (cubic : Cubic size) :
    toInt (square size) = toInt size * toInt size := by
  have squarePos := cubic.square_pos
  have le_cube : toInt size * toInt size * 1 ≤ toInt size * toInt size * toInt size :=
    Int.mul_le_mul_of_nonneg_left (Int.add_one_le_of_lt cubic.pos) (Int.le_of_lt squarePos)
  have least_nonpos := least_nonpos (T := T)
  have fits := cubic.fits
  apply toInt_mul <;> omega

/-- An index is computed without overflow. -/
theorem InCube.toInt_flatten (inside : InCube size pos) (cubic : Cubic size) :
    toInt (flatten pos size) =
      CubePlace.number (toInt size) (toInt pos.x) (toInt pos.y) (toInt pos.z) := by
  have squareEq := cubic.toInt_square
  have yTerm := Int.mul_nonneg inside.y_nonneg (Int.le_of_lt cubic.pos)
  have xTerm := Int.mul_nonneg inside.x_nonneg (Int.le_of_lt cubic.square_pos)
  have upper := CubePlace.number_lt cubic.pos inside.x_lt inside.y_lt inside.z_lt
  have zTerm := inside.z_nonneg
  have least_nonpos := least_nonpos (T := T)
  have fits := cubic.fits
  rw [CubePlace.number] at upper ⊢
  have yEq : toInt (pos.y * size) = toInt pos.y * toInt size := by
    apply toInt_mul <;> omega
  have xEq : toInt (pos.x * square size) = toInt pos.x * (toInt size * toInt size) := by
    rw [← squareEq]
    apply toInt_mul <;> rw [squareEq] <;> omega
  have yzEq : toInt (pos.z + pos.y * size) = toInt pos.z + toInt pos.y * toInt size := by
    rw [← yEq]
    apply toInt_add <;> rw [yEq] <;> omega
  rw [flatten, ← yzEq, ← xEq]
  apply toInt_add <;> rw [yzEq, xEq] <;> omega

theorem InCube.isIndex_flatten (inside : InCube size pos) (cubic : Cubic size) :
    IsIndex size (flatten pos size) := by
  rw [IsIndex, inside.toInt_flatten cubic]
  constructor
  · exact CubePlace.number_nonneg cubic.pos inside.x_nonneg inside.y_nonneg inside.z_nonneg
  · exact CubePlace.number_lt cubic.pos inside.x_lt inside.y_lt inside.z_lt

theorem Cubic.toInt_unflatten (cubic : Cubic size) (nonneg : 0 ≤ toInt index) :
    toInt (unflatten index size).x = toInt index / (toInt size * toInt size) ∧
      toInt (unflatten index size).y = toInt index / toInt size % toInt size ∧
      toInt (unflatten index size).z = toInt index % toInt size := by
  have quotient := toInt_div index size nonneg cubic.pos
  have quotientNonneg : 0 ≤ toInt (index / size) := by
    rw [quotient]
    exact Int.ediv_nonneg nonneg (Int.le_of_lt cubic.pos)
  constructor
  · have squarePos : 0 < toInt (square size) := by
      rw [cubic.toInt_square]
      exact cubic.square_pos
    rw [← cubic.toInt_square]
    exact toInt_div index (square size) nonneg squarePos
  · constructor
    · rw [← quotient]
      exact toInt_mod (index / size) size quotientNonneg cubic.pos
    · exact toInt_mod index size nonneg cubic.pos

theorem IsIndex.inCube_unflatten (isIndex : IsIndex size index) (cubic : Cubic size) :
    InCube size (unflatten index size) := by
  rcases cubic.toInt_unflatten isIndex.1 with ⟨xEq, yEq, zEq⟩
  rcases CubePlace.digits_lt cubic.pos isIndex.2 with ⟨xLt, yLt, zLt⟩
  have sizeNonzero := Int.ne_of_gt cubic.pos
  constructor
  · rw [xEq]
    exact Int.ediv_nonneg isIndex.1 (Int.le_of_lt cubic.square_pos)
  · rwa [xEq]
  · rw [yEq]
    exact Int.emod_nonneg _ sizeNonzero
  · rwa [yEq]
  · rw [zEq]
    exact Int.emod_nonneg _ sizeNonzero
  · rwa [zEq]

theorem InCube.unflatten_flatten (inside : InCube size pos) (cubic : Cubic size) :
    unflatten (flatten pos size) size = pos := by
  have number_eq := inside.toInt_flatten cubic
  rcases cubic.toInt_unflatten (inside.isIndex_flatten cubic).1 with ⟨xEq, yEq, zEq⟩
  rw [number_eq] at xEq yEq zEq
  apply Vec3.ext
  · apply toInt_injective
    rw [xEq]
    exact CubePlace.number_div_square inside.y_nonneg inside.y_lt inside.z_nonneg inside.z_lt
  · apply toInt_injective
    rw [yEq]
    exact CubePlace.number_div_mod inside.y_nonneg inside.y_lt inside.z_nonneg inside.z_lt
  · apply toInt_injective
    rw [zEq]
    exact CubePlace.number_mod inside.z_nonneg inside.z_lt

theorem IsIndex.flatten_unflatten (isIndex : IsIndex size index) (cubic : Cubic size) :
    flatten (unflatten index size) size = index := by
  apply toInt_injective
  rcases cubic.toInt_unflatten isIndex.1 with ⟨xEq, yEq, zEq⟩
  rw [(isIndex.inCube_unflatten cubic).toInt_flatten cubic, xEq, yEq, zEq]
  exact CubePlace.number_digits cubic.pos (toInt index)

end Arithmetic

/-! ## Nested loops -/

section Loops

variable {α : Type v} {σ : Type w}

/-- The indices of all rounds of the innermost loop. -/
def rounds : Nat → List Nat → List Nat → List (List Nat)
  | firstExtent, [], indices => (List.range firstExtent).map fun i => indices ++ [i]
  | firstExtent, secondExtent :: extents, indices =>
      (List.range firstExtent).flatMap fun i => rounds secondExtent extents (indices ++ [i])

theorem spatialIterate_eq_foldl (pred : List Nat → σ → σ) (firstExtent : Nat)
    (extents indices : List Nat) (state : σ) :
    spatialIterate pred firstExtent extents indices state =
      (rounds firstExtent extents indices).foldl (fun current round => pred round current) state := by
  induction extents generalizing firstExtent indices state with
  | nil => rw [spatialIterate, rounds, List.foldl_map]
  | cons secondExtent extents ih =>
      rw [spatialIterate, rounds, List.foldl_flatMap]
      congr 1
      funext current i
      exact ih secondExtent (indices ++ [i]) current

/-- Three nested loops count through the numbers of the places. -/
theorem map_number_rounds (size : Nat) :
    (rounds size [size, size] []).map (fun indices =>
        (indices.getD 0 0 * size + indices.getD 1 0) * size + indices.getD 2 0) =
      List.range (size * size * size) := by
  rw [← flatMap_range (size * size) size, ← flatMap_range size size, List.flatMap_assoc]
  simp only [rounds, List.map_flatMap, List.map_map, List.flatMap_map, List.nil_append,
    List.cons_append]
  rfl

/-- An index of a loop is below its extent. -/
theorem getD_lt_of_mem_rounds {size : Nat} {indices : List Nat}
    (mem : indices ∈ rounds size [size, size] []) :
    indices.getD 0 0 < size ∧ indices.getD 1 0 < size ∧ indices.getD 2 0 < size := by
  simp only [rounds, List.mem_flatMap, List.mem_map, List.mem_range, List.nil_append,
    List.cons_append] at mem
  rcases mem with ⟨x, xLt, y, yLt, z, zLt, rfl⟩
  exact ⟨xLt, yLt, zLt⟩

variable {size : Nat}

theorem visited_eq_map (size : Nat) :
    visited T size = (rounds size [size, size] []).map Vec3.ofIndices := by
  have appended : ∀ (packs : List (List Nat)) (seen : List (Vec3 T)),
      packs.foldl (fun current pack => current ++ [Vec3.ofIndices pack]) seen =
        seen ++ packs.map Vec3.ofIndices := by
    intro packs
    induction packs with
    | nil => exact fun seen => (List.append_nil seen).symm
    | cons pack packs ih =>
        intro seen
        rw [List.foldl_cons, ih, List.map_cons, List.append_assoc, List.singleton_append]
  rw [visited, spatialIterate_eq_foldl, appended, List.nil_append]

/-- What the loops hand over with the elements, which they count, is handed over in the order of
the numbers of the elements. -/
theorem foldl_counting {β : Type u} {numbers : β → Nat} (pred : β → α → σ → σ) (data : Nat → α)
    {elements : List β} {start : Nat}
    (numbered : elements.map numbers = List.range' start elements.length) (state : σ) :
    (elements.foldl (fun (current : Nat × σ) element =>
        (current.1 + 1, pred element (data current.1) current.2)) (start, state)).2 =
      elements.foldl (fun current element => pred element (data (numbers element)) current)
        state := by
  induction elements generalizing start state with
  | nil => rfl
  | cons element elements ih =>
      rw [List.map_cons, List.length_cons, List.range'_succ, List.cons.injEq] at numbered
      rw [List.foldl_cons, List.foldl_cons, numbered.1]
      exact ih numbered.2 _

end Loops

/-! ## The order of the positions -/

section Order

variable {size : T} {indices : List Nat}

/-- The extent of the loops over a cube. -/
def extentOf (size : T) : Nat :=
  (toInt size).toNat

theorem Cubic.extentOf_eq (cubic : Cubic size) : (extentOf size : Int) = toInt size :=
  Int.toNat_of_nonneg (Int.le_of_lt cubic.pos)

/-- Coordinates are converted without change. -/
theorem Cubic.toInt_ofInt (cubic : Cubic size) {i : Nat} (lt : i < extentOf size) :
    toInt (ofInt (i : Int) : T) = i := by
  have extent_eq := cubic.extentOf_eq
  have squarePos := cubic.square_pos
  have le_cube : 1 * toInt size ≤ toInt size * toInt size * toInt size :=
    Int.mul_le_mul_of_nonneg_right (Int.add_one_le_of_lt squarePos) (Int.le_of_lt cubic.pos)
  have least_nonpos := least_nonpos (T := T)
  have fits := cubic.fits
  apply MachineInteger.toInt_ofInt <;> omega

theorem Cubic.inCube_ofIndices (cubic : Cubic size)
    (mem : indices ∈ rounds (extentOf size) [extentOf size, extentOf size] []) :
    InCube size (Vec3.ofIndices indices) := by
  rcases getD_lt_of_mem_rounds mem with ⟨xLt, yLt, zLt⟩
  have extent_eq := cubic.extentOf_eq
  have xEq := cubic.toInt_ofInt xLt
  have yEq := cubic.toInt_ofInt yLt
  have zEq := cubic.toInt_ofInt zLt
  constructor <;> simp only [Vec3.ofIndices, xEq, yEq, zEq] <;> omega

theorem Cubic.toInt_flatten_ofIndices (cubic : Cubic size)
    (mem : indices ∈ rounds (extentOf size) [extentOf size, extentOf size] []) :
    toInt (flatten (Vec3.ofIndices indices) size) =
      (((indices.getD 0 0 * extentOf size + indices.getD 1 0) * extentOf size +
        indices.getD 2 0 : Nat) : Int) := by
  rcases getD_lt_of_mem_rounds mem with ⟨xLt, yLt, zLt⟩
  have digits : toInt (flatten (Vec3.ofIndices indices) size) =
      CubePlace.number (toInt size) (indices.getD 0 0) (indices.getD 1 0) (indices.getD 2 0) := by
    rw [(cubic.inCube_ofIndices mem).toInt_flatten cubic, Vec3.ofIndices, cubic.toInt_ofInt xLt,
      cubic.toInt_ofInt yLt, cubic.toInt_ofInt zLt]
  rw [digits, CubePlace.number_eq, ← cubic.extentOf_eq, Int.natCast_add, Int.natCast_mul,
    Int.natCast_add, Int.natCast_mul, Int.add_comm, Int.add_comm (indices.getD 1 0 : Int)]

/-- The positions are visited in the order of their indices. -/
theorem Cubic.map_flatten_visited (cubic : Cubic size) :
    (visited T (extentOf size)).map (fun pos => toInt (flatten pos size)) =
      (List.range (extentOf size * extentOf size * extentOf size)).map Int.ofNat := by
  rw [visited_eq_map, ← map_number_rounds, List.map_map, List.map_map]
  apply List.map_congr_left
  intro indices mem
  exact cubic.toInt_flatten_ofIndices mem

theorem Cubic.nodup_visited (cubic : Cubic size) : (visited T (extentOf size)).Nodup := by
  apply List.Nodup.of_map fun pos => toInt (flatten pos size)
  rw [cubic.map_flatten_visited]
  exact List.nodup_range.map fun _ _ same => Int.ofNat_inj.mp same

/-- All places of the cube are visited, and no others. -/
theorem Cubic.mem_visited_iff (cubic : Cubic size) (pos : Vec3 T) :
    pos ∈ visited T (extentOf size) ↔ InCube size pos := by
  constructor
  · intro mem
    rw [visited_eq_map] at mem
    rcases List.mem_map.mp mem with ⟨indices, round, rfl⟩
    exact cubic.inCube_ofIndices round
  · intro inside
    have isIndex := inside.isIndex_flatten cubic
    have number_lt : (toInt (flatten pos size)).toNat <
        extentOf size * extentOf size * extentOf size := by
      have upper := isIndex.2
      rw [← cubic.extentOf_eq, ← Int.natCast_mul, ← Int.natCast_mul] at upper
      exact (Int.toNat_lt isIndex.1).mpr upper
    have listed : toInt (flatten pos size) ∈
        (visited T (extentOf size)).map fun pos => toInt (flatten pos size) := by
      rw [cubic.map_flatten_visited]
      exact List.mem_map.mpr ⟨_, List.mem_range.mpr number_lt, Int.toNat_of_nonneg isIndex.1⟩
    rcases List.mem_map.mp listed with ⟨other, mem, same⟩
    have otherInside : InCube size other := by
      rw [visited_eq_map] at mem
      rcases List.mem_map.mp mem with ⟨indices, round, rfl⟩
      exact cubic.inCube_ofIndices round
    have other_eq : other = pos := by
      rw [← otherInside.unflatten_flatten cubic, toInt_injective same,
        inside.unflatten_flatten cubic]
    rw [← other_eq]
    exact mem

/-- The element that is handed over with a position is the one at its index. -/
theorem Cubic.foreachCommon_eq {α : Type v} {σ : Type w} (cubic : Cubic size)
    (pred : Vec3 T → α → σ → σ) (data : Nat → α) (state : σ) :
    foreachCommon (extentOf size) pred data state =
      (visited T (extentOf size)).foldl
        (fun current pos => pred pos (data (toInt (flatten pos size)).toNat) current) state := by
  have numbered : (visited T (extentOf size)).map (fun pos => (toInt (flatten pos size)).toNat) =
      List.range' 0 (visited T (extentOf size)).length := by
    have ordered := congrArg (List.map Int.toNat) cubic.map_flatten_visited
    rw [List.map_map, List.map_map] at ordered
    have identity : Int.toNat ∘ Int.ofNat = id := funext Int.toNat_natCast
    rw [identity, List.map_id] at ordered
    have length_eq := congrArg List.length ordered
    rw [List.length_map, List.length_range] at length_eq
    rw [length_eq, ← List.range_eq_range']
    exact ordered
  rw [← foldl_counting pred data numbered state, foreachCommon, spatialIterate_eq_foldl,
    visited_eq_map, List.foldl_map]

end Order

/-- For every size whose cube can be represented, flattening is a bijection with unflattening as
its inverse, and the nested loops visit the positions of the cube in the order of their indices,
each of them once, and hand over the elements at these indices. -/
theorem spatial_indexing (size : T) (cubic : Cubic size) :
    Set.BijOn (fun pos => flatten pos size) {pos | InCube size pos} {index | IsIndex size index} ∧
      Set.InvOn (fun index => unflatten index size) (fun pos => flatten pos size)
        {pos | InCube size pos} {index | IsIndex size index} ∧
      (visited T (extentOf size)).map (fun pos => toInt (flatten pos size)) =
        (List.range (extentOf size * extentOf size * extentOf size)).map Int.ofNat ∧
      (visited T (extentOf size)).Nodup ∧
      (∀ pos, pos ∈ visited T (extentOf size) ↔ InCube size pos) ∧
      ∀ {α σ : Type} (pred : Vec3 T → α → σ → σ) (data : Nat → α) (state : σ),
        foreachCommon (extentOf size) pred data state =
          (visited T (extentOf size)).foldl
            (fun current pos =>
              pred pos (data (toInt (flatten pos size)).toNat) current) state := by
  have inverse : Set.InvOn (fun index => unflatten index size) (fun pos => flatten pos size)
      {pos | InCube size pos} {index | IsIndex size index} :=
    ⟨fun _ inside => InCube.unflatten_flatten inside cubic,
      fun _ isIndex => IsIndex.flatten_unflatten isIndex cubic⟩
  have bijective : Set.BijOn (fun pos => flatten pos size) {pos | InCube size pos}
      {index | IsIndex size index} :=
    inverse.bijOn (fun _ inside => InCube.isIndex_flatten inside cubic)
      fun _ isIndex => IsIndex.inCube_unflatten isIndex cubic
  exact ⟨bijective, inverse, cubic.map_flatten_visited, cubic.nodup_visited, cubic.mem_visited_iff,
    cubic.foreachCommon_eq⟩

/-- The largest size for positions of type `i32`. -/
theorem spatial_indexing_largest :
    Set.BijOn (fun pos => flatten pos (1290 : Int32)) {pos | InCube (1290 : Int32) pos}
      {index | IsIndex (1290 : Int32) index} :=
  (spatial_indexing (1290 : Int32) ⟨by decide, by decide⟩).1

end VoxelEngine.Utility
