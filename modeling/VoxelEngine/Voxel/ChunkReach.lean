import VoxelEngine.Voxel.EntityLoader
import Mathlib.Tactic.IntervalCases
import Mathlib.Tactic.Linarith

/-!
# Chunks within reach

A loader looks for chunks along each axis separately, and compares their distance with that of
the corner of the box that it looks at.  No chunk of the box is too far away, so that the box has
to contain all chunks that are near enough, which is hardly ever so.
-/

namespace VoxelEngine.Voxel

/-- The chunk that contains the position. -/
def EntityPosition.chunk (position : EntityPosition) : TilePos :=
  toChunkpos ⟨⌊position.x⌋, ⌊position.y⌋, ⌊position.z⌋⟩

/-- Rounding towards zero and rounding down leads to the same chunk. -/
def RoundsDown (coordinate : ℚ) : Prop :=
  0 ≤ coordinate ∨ ∃ chunk : Int, coordinate = chunk * chunkSize

/-- Rounding towards zero does not matter along any axis. -/
def EntityPosition.Centered (position : EntityPosition) : Prop :=
  RoundsDown position.x ∧ RoundsDown position.y ∧ RoundsDown position.z

/-- All chunks that are near enough are in the box around the center. -/
def DistanceMetric.Covers (metric : DistanceMetric) (range : TilePos) : Prop :=
  range = ⟨0, 0, 0⟩ ∨ metric = .L2 ∧ range = ⟨1, 1, 1⟩

section Rounding

variable {coordinate : ℚ}

/-! ## Rounding -/

theorem towardZero_eq_floor_iff (value : ℚ) :
    towardZero value = ⌊value⌋ ↔ 0 ≤ value ∨ ∃ integer : Int, value = integer := by
  rw [towardZero]
  by_cases negative : value < 0
  · rw [if_pos negative, or_iff_right (not_le_of_gt negative)]
    constructor
    · intro same
      refine ⟨⌊value⌋, le_antisymm ?_ (Int.floor_le value)⟩
      rw [← same]
      exact Int.le_ceil value
    · rintro ⟨integer, rfl⟩
      rw [Int.ceil_intCast, Int.floor_intCast]
  · rw [if_neg negative]
    exact iff_of_true rfl (Or.inl (le_of_not_gt negative))

theorem chunkSize_pos : (0 : ℚ) < chunkSize :=
  Nat.cast_pos.mpr (by decide)

theorem towardZero_div_eq_iff :
    towardZero (coordinate / chunkSize) = ⌊coordinate⌋ / chunkSize ↔ RoundsDown coordinate := by
  rw [← Int.floor_div_natCast, towardZero_eq_floor_iff, RoundsDown]
  apply or_congr
  · rw [le_div_iff₀ chunkSize_pos, zero_mul]
  · apply exists_congr
    intro chunk
    exact div_eq_iff chunkSize_pos.ne'

/-- The center is the chunk that contains the position exactly if rounding does not matter. -/
@[simp]
theorem center_eq_chunk_iff {position : EntityPosition} :
    position.center = position.chunk ↔ position.Centered := by
  rw [EntityPosition.center, EntityPosition.chunk, toChunkpos, TilePos.mk.injEq,
    towardZero_div_eq_iff, towardZero_div_eq_iff, towardZero_div_eq_iff, EntityPosition.Centered]

end Rounding

section Box

variable {metric : DistanceMetric} {center range pos other : TilePos}

/-! ## The box around a center -/

@[simp]
theorem mem_integersFrom_iff {first last value : Int} :
    value ∈ integersFrom first last ↔ first ≤ value ∧ value ≤ last := by
  rw [integersFrom, List.mem_map]
  constructor
  · rintro ⟨offset, mem, rfl⟩
    have offset_lt := List.mem_range.mp mem
    omega
  · rintro ⟨first_le, le_last⟩
    refine ⟨(value - first).toNat, List.mem_range.mpr ?_, ?_⟩ <;> omega

/-- The chunks that are visited are those of a box. -/
theorem mem_spatialPositions_iff :
    pos ∈ spatialPositions center range ↔
      ((pos.x - center.x).natAbs : Int) ≤ range.x ∧ ((pos.y - center.y).natAbs : Int) ≤ range.y ∧
        ((pos.z - center.z).natAbs : Int) ≤ range.z := by
  simp only [spatialPositions, List.mem_flatMap, List.mem_map, mem_integersFrom_iff]
  constructor
  · rintro ⟨x, inside_x, y, inside_y, z, inside_z, rfl⟩
    refine ⟨?_, ?_, ?_⟩ <;> simp only <;> omega
  · rintro ⟨inside_x, inside_y, inside_z⟩
    refine ⟨pos.x, ?_, pos.y, ?_, pos.z, ?_, rfl⟩ <;> omega

namespace DistanceMetric

theorem part_le {first second : Nat} (le : first ≤ second) :
    metric.part first ≤ metric.part second := by
  cases metric with
  | L1 => exact le
  | L2 => exact Nat.mul_le_mul le le

theorem part_lt {first second : Nat} (lt : first < second) :
    metric.part first < metric.part second := by
  cases metric with
  | L1 => exact lt
  | L2 => exact Nat.mul_lt_mul'' lt lt

@[simp]
theorem part_zero : metric.part 0 = 0 := by
  cases metric <;> rfl

@[simp]
theorem distance_self (metric : DistanceMetric) (pos : TilePos) : metric.distance pos pos = 0 := by
  simp only [distance, Int.sub_self, Int.natAbs_zero, part_zero]

theorem distance_range (metric : DistanceMetric) (range : TilePos) :
    metric.distance ⟨0, 0, 0⟩ range =
      metric.part range.x.natAbs + metric.part range.y.natAbs + metric.part range.z.natAbs := by
  simp only [distance, Int.sub_zero]

/-- No chunk of the box is too far away. -/
theorem within_of_mem (mem : pos ∈ spatialPositions center range) :
    metric.within pos center range = true := by
  rw [mem_spatialPositions_iff] at mem
  rw [within, decide_eq_true_iff, distance_range, distance]
  apply Nat.add_le_add (Nat.add_le_add _ _) <;> apply part_le <;> omega

/-- One more step along an axis than the box has leads out of it. -/
theorem distance_lt_of_covered
    (covered : ∀ pos, metric.within pos center range = true → pos ∈ spatialPositions center range)
    {offset : TilePos} (outside : range.x < offset.x.natAbs ∨ range.y < offset.y.natAbs ∨
      range.z < offset.z.natAbs) :
    metric.part range.x.natAbs + metric.part range.y.natAbs + metric.part range.z.natAbs <
      metric.part offset.x.natAbs + metric.part offset.y.natAbs + metric.part offset.z.natAbs := by
  by_contra near
  have mem := covered (center + offset) (by
    rw [within, decide_eq_true_iff, distance_range, distance]
    simp only [TilePos.add_x, TilePos.add_y, TilePos.add_z]
    have differences : ∀ base step : Int, (base - (base + step)).natAbs = step.natAbs := by omega
    rw [differences, differences, differences]
    exact Nat.le_of_not_lt near)
  rw [mem_spatialPositions_iff] at mem
  simp only [TilePos.add_x, TilePos.add_y, TilePos.add_z] at mem
  omega

/-- Only the smallest boxes have a corner that is nearer than the next chunk along each axis. -/
theorem small_of_lt {x y z : Nat}
    (lt_x : metric.part x + metric.part y + metric.part z < metric.part (x + 1))
    (lt_y : metric.part x + metric.part y + metric.part z < metric.part (y + 1))
    (lt_z : metric.part x + metric.part y + metric.part z < metric.part (z + 1)) :
    x = 0 ∧ y = 0 ∧ z = 0 ∨ metric = .L2 ∧ x = 1 ∧ y = 1 ∧ z = 1 := by
  cases metric with
  | L1 =>
      simp only [part] at lt_x lt_y lt_z
      omega
  | L2 =>
      simp only [part] at lt_x lt_y lt_z
      have le_one : ∀ first second third : Nat,
          first * first + second * second + third * third < (first + 1) * (first + 1) →
          first * first + second * second + third * third < (second + 1) * (second + 1) →
          first * first + second * second + third * third < (third + 1) * (third + 1) →
            first ≤ 1 := by
        intro first second third lt_first lt_second lt_third
        by_contra large
        have twice : 2 * first ≤ first * first := Nat.mul_le_mul_right first (by omega)
        have second_le := Nat.le_mul_self second
        have third_le := Nat.le_mul_self third
        linarith
      have x_le := le_one x y z lt_x lt_y lt_z
      have y_le := le_one y x z (by linarith) (by linarith) (by linarith)
      have z_le := le_one z x y (by linarith) (by linarith) (by linarith)
      have small : x = 0 ∧ y = 0 ∧ z = 0 ∨ x = 1 ∧ y = 1 ∧ z = 1 := by
        interval_cases x <;> interval_cases y <;> interval_cases z <;> omega
      exact small.imp_right fun ones => ⟨rfl, ones⟩

/-- The box contains all chunks that are near enough only if it is one of the smallest. -/
theorem covers_iff :
    (∀ pos, metric.within pos center range = true → pos ∈ spatialPositions center range) ↔
      metric.Covers range := by
  constructor
  · intro covered
    have step := @distance_lt_of_covered metric center range covered
    have nonnegative : 0 ≤ range.x ∧ 0 ≤ range.y ∧ 0 ≤ range.z := by
      by_contra negative
      have lt := @step ⟨0, 0, 0⟩ (by simp only [Int.natAbs_zero]; omega)
      simp only [Int.natAbs_zero, part_zero] at lt
      omega
    rcases range with ⟨x, y, z⟩
    rcases nonnegative with ⟨x_nonneg, y_nonneg, z_nonneg⟩
    lift x to Nat using x_nonneg
    lift y to Nat using y_nonneg
    lift z to Nat using z_nonneg
    have lt_x := @step ⟨(x + 1 : Nat), 0, 0⟩ (Or.inl (by simp only [Int.natAbs_natCast]; omega))
    have lt_y := @step ⟨0, (y + 1 : Nat), 0⟩
      (Or.inr (Or.inl (by simp only [Int.natAbs_natCast]; omega)))
    have lt_z := @step ⟨0, 0, (z + 1 : Nat)⟩
      (Or.inr (Or.inr (by simp only [Int.natAbs_natCast]; omega)))
    simp only [Int.natAbs_natCast, Int.natAbs_zero, part_zero, Nat.add_zero, Nat.zero_add]
      at lt_x lt_y lt_z
    rcases small_of_lt lt_x lt_y lt_z with ⟨rfl, rfl, rfl⟩ | ⟨rfl, rfl, rfl, rfl⟩
    · exact Or.inl rfl
    · exact Or.inr ⟨rfl, rfl⟩
  · intro covers pos near
    rw [within, decide_eq_true_iff, distance_range, distance] at near
    rw [mem_spatialPositions_iff]
    rcases covers with rfl | ⟨rfl, rfl⟩
    · cases metric with
      | L1 =>
          simp only [part, Int.natAbs_zero] at near
          refine ⟨?_, ?_, ?_⟩ <;> simp only <;> omega
      | L2 =>
          simp only [part, Int.natAbs_zero] at near
          have parts : ∀ difference : Int, difference.natAbs * difference.natAbs ≤ 0 →
              difference.natAbs = 0 := by
            intro difference le
            exact mul_self_eq_zero.mp (Nat.le_zero.mp le)
          have zero_x := parts (center.x - pos.x) (by omega)
          have zero_y := parts (center.y - pos.y) (by omega)
          have zero_z := parts (center.z - pos.z) (by omega)
          refine ⟨?_, ?_, ?_⟩ <;> simp only <;> omega
    · simp only [part, Int.natAbs_one] at near
      have parts : ∀ difference : Int, difference.natAbs * difference.natAbs ≤ 3 →
          difference.natAbs ≤ 1 := by
        intro difference le
        by_contra large
        nlinarith
      have le_x := parts (center.x - pos.x) (by omega)
      have le_y := parts (center.y - pos.y) (by omega)
      have le_z := parts (center.z - pos.z) (by omega)
      refine ⟨?_, ?_, ?_⟩ <;> simp only <;> omega

/-- If the chunks of a box are those that are near enough to some chunk, then that is the center
of the box. -/
theorem center_eq_of_same
    (same : ∀ pos, pos ∈ spatialPositions center range ↔ metric.within pos other range = true) :
    center = other := by
  have inside := (same other).mpr (by
    rw [within, decide_eq_true_iff, distance_self]
    exact Nat.zero_le _)
  rw [mem_spatialPositions_iff] at inside
  have corner : ∀ middle away length : Int, ((away - middle).natAbs : Int) ≤ length →
      ∃ value : Int, ((value - middle).natAbs : Int) ≤ length ∧
        (away - value).natAbs = (middle - away).natAbs + length.natAbs := by
    intro middle away length length_le
    rcases Int.le_total away middle with le | le
    · exact ⟨middle + length, by omega, by omega⟩
    · exact ⟨middle - length, by omega, by omega⟩
  rcases corner center.x other.x range.x inside.1 with ⟨x, inside_x, far_x⟩
  rcases corner center.y other.y range.y inside.2.1 with ⟨y, inside_y, far_y⟩
  rcases corner center.z other.z range.z inside.2.2 with ⟨z, inside_z, far_z⟩
  have near := (same ⟨x, y, z⟩).mp (mem_spatialPositions_iff.mpr ⟨inside_x, inside_y, inside_z⟩)
  rw [within, decide_eq_true_iff, distance_range, distance] at near
  simp only [far_x, far_y, far_z] at near
  have grows : ∀ added length : Nat, metric.part length ≤ metric.part (added + length) :=
    fun added length => part_le (Nat.le_add_left length added)
  have grows_x := grows (center.x - other.x).natAbs range.x.natAbs
  have grows_y := grows (center.y - other.y).natAbs range.y.natAbs
  have grows_z := grows (center.z - other.z).natAbs range.z.natAbs
  have none : ∀ added length : Nat, metric.part (added + length) ≤ metric.part length →
      added = 0 := by
    intro added length le
    by_contra positive
    exact absurd le (Nat.not_le_of_lt (part_lt (Nat.lt_add_of_pos_left (Nat.pos_of_ne_zero positive))))
  have zero_x := none _ _ (by omega : metric.part ((center.x - other.x).natAbs + range.x.natAbs) ≤
    metric.part range.x.natAbs)
  have zero_y := none _ _ (by omega : metric.part ((center.y - other.y).natAbs + range.y.natAbs) ≤
    metric.part range.y.natAbs)
  have zero_z := none _ _ (by omega : metric.part ((center.z - other.z).natAbs + range.z.natAbs) ≤
    metric.part range.z.natAbs)
  ext <;> omega

/-- The chunks of a box are those that are near enough to some chunk exactly if that is its
center, and the box contains all that are near enough to it. -/
theorem box_eq_within_iff :
    (∀ pos, pos ∈ spatialPositions center range ↔ metric.within pos other range = true) ↔
      center = other ∧ metric.Covers range := by
  constructor
  · intro same
    have center_eq := center_eq_of_same same
    refine ⟨center_eq, (@covers_iff metric other range).mp ?_⟩
    rw [← center_eq]
    rw [← center_eq] at same
    exact fun pos near => (same pos).mpr near
  · rintro ⟨rfl, covers⟩ pos
    exact ⟨within_of_mem, covers_iff.mpr covers pos⟩

end DistanceMetric

end Box

end VoxelEngine.Voxel
