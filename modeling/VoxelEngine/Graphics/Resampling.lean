import Mathlib.Data.List.MinMax
import VoxelEngine.Data.Blocks
import VoxelEngine.Graphics.Image

/-!
# Where samplers read

The lower one of the two coordinates between which the bilinear sampler interpolates is always in
the source.  The upper one is in it for all coordinates of the destination exactly if the
destination is not larger than the source.  Then resizing a whole image gives a whole image.
-/

namespace VoxelEngine.Graphics

open Data

/-- A number that fits is not changed by the conversion. -/
theorem toNat_truncate {number : ℤ} (nonneg : 0 ≤ number) (fits : number < 4294967296) :
    ((truncate (number : ℚ)).toNat : ℤ) = number := by
  rcases Int.eq_ofNat_of_zero_le nonneg with ⟨value, rfl⟩
  have small : value < 4294967296 := Int.ofNat_lt.mp fits
  rw [truncate, Int.cast_natCast, Nat.floor_natCast, UInt32.toNat_ofNat_of_lt' small]

theorem toNat_pos {extent : UInt32} (nonempty : extent ≠ 0) : 0 < extent.toNat :=
  Nat.pos_of_ne_zero fun zero => nonempty (UInt32.toNat_inj.mp zero)

/-- An image with pixels has a first one. -/
theorem inside_zero {size : Vec2 UInt32} (nonempty : size.x ≠ 0 ∧ size.y ≠ 0) :
    Inside size ⟨0, 0⟩ :=
  ⟨UInt32.lt_iff_toNat_lt.mpr (toNat_pos nonempty.1),
    UInt32.lt_iff_toNat_lt.mpr (toNat_pos nonempty.2)⟩

/-- The number of pixels is right if it fits. -/
theorem pixelCount_eq {size : Vec2 UInt32}
    (small : size.x.toNat * size.y.toNat < 4294967296) :
    pixelCount size = size.x.toNat * size.y.toNat := by
  rw [pixelCount, UInt32.toNat_mul]
  exact Nat.mod_eq_of_lt small

/-- Clamping changes nothing in the range. -/
theorem clamp_eq {value high : UInt32} (le : value.toNat ≤ high.toNat) :
    clamp value 0 high = value := by
  have notLower : ¬value < 0 := UInt32.not_lt_zero
  have notHigher : ¬high < value := by
    rw [UInt32.lt_iff_toNat_lt]
    exact Nat.not_lt_of_le le
  rw [clamp, if_neg notLower, if_neg notHigher]

@[simp]
theorem mem_positions_iff {size place : Vec2 UInt32} :
    place ∈ positions size ↔ Inside size place := by
  have zero : (0 : UInt32).toNat = 0 := rfl
  simp only [positions, List.mem_flatMap, List.mem_map, mem_counters_iff, zero, Nat.zero_le,
    true_and, Inside, UInt32.lt_iff_toNat_lt]
  constructor
  · rintro ⟨y, y_lt, x, x_lt, rfl⟩
    exact ⟨x_lt, y_lt⟩
  · rintro ⟨x_lt, y_lt⟩
    exact ⟨place.y, y_lt, place.x, x_lt, rfl⟩

/-- The number of a position, when they are counted row by row. -/
def rowIndex (size place : Vec2 UInt32) : Nat :=
  size.x.toNat * place.y.toNat + place.x.toNat

/-- The positions inside have the numbers below the number of pixels. -/
theorem rowIndex_lt {size place : Vec2 UInt32} (inside : Inside size place) :
    rowIndex size place < size.x.toNat * size.y.toNat := by
  have x_lt := UInt32.lt_iff_toNat_lt.mp inside.1
  have y_lt : place.y.toNat + 1 ≤ size.y.toNat := UInt32.lt_iff_toNat_lt.mp inside.2
  have rows := Nat.mul_le_mul_left size.x.toNat y_lt
  rw [Nat.mul_succ] at rows
  unfold rowIndex
  omega

@[simp]
theorem length_counters (stop : UInt32) : (counters 0 stop).length = stop.toNat := by
  rw [counters, List.length_map, List.length_range]
  rfl

theorem length_positions (size : Vec2 UInt32) :
    (positions size).length = size.x.toNat * size.y.toNat := by
  have rows : ∀ ys : List UInt32, (ys.flatMap fun y =>
      (counters 0 size.x).map fun x => (⟨x, y⟩ : Vec2 UInt32)).length =
        size.x.toNat * ys.length := by
    intro ys
    induction ys with
    | nil => rfl
    | cons y rest ih =>
        rw [List.flatMap_cons, List.length_append, List.length_map, length_counters, ih,
          List.length_cons, Nat.mul_succ, Nat.add_comm]
  rw [positions, rows, length_counters]

/-- The positions are visited in the order of their numbers. -/
theorem getElem?_positions {size place : Vec2 UInt32} (inside : Inside size place) :
    (positions size)[rowIndex size place]? = some place := by
  have counted : ∀ {index stop : UInt32}, index < stop →
      (counters 0 stop)[index.toNat]? = some index := by
    intro index stop lt
    rw [UInt32.lt_iff_toNat_lt] at lt
    have fromZero : stop.toNat - (0 : UInt32).toNat = stop.toNat := rfl
    rw [counters, fromZero, List.getElem?_map, List.getElem?_range lt, Option.map_some,
      UInt32.ofNat_toNat, UInt32.zero_add]
  have row_length : ∀ y : UInt32, ((counters 0 size.x).map fun x => (⟨x, y⟩ : Vec2 UInt32)).length =
      size.x.toNat := by
    intro y
    rw [List.length_map, length_counters]
  rw [positions, rowIndex, getElem?_flatMap_of_length row_length _ _
    (UInt32.lt_iff_toNat_lt.mp inside.1), counted inside.2, Option.bind_some, List.getElem?_map,
    counted inside.1]
  rfl

/-- A position inside is read at its number, if the numbers are not too large. -/
theorem Image.get_eq {P : Type} {image : Image P} {place : Vec2 UInt32}
    (inside : Inside image.size place)
    (small : image.size.x.toNat * image.size.y.toNat < 4294967296) :
    image.get place = image.data[rowIndex image.size place]? := by
  have lt := rowIndex_lt inside
  have product : (place.y * image.size.x).toNat = image.size.x.toNat * place.y.toNat := by
    rw [UInt32.toNat_mul, Nat.mul_comm]
    exact Nat.mod_eq_of_lt (by unfold rowIndex at lt; omega)
  have index_eq : (place.x + place.y * image.size.x).toNat = rowIndex image.size place := by
    rw [UInt32.toNat_add, product, Nat.add_comm]
    exact Nat.mod_eq_of_lt (by unfold rowIndex at lt; omega)
  rw [get, index_eq]

namespace NearestNeighbour

/-- The coordinate that is read is in the source. -/
theorem coordinate_lt (place : UInt32) (factor : ℚ) {extent : UInt32} (nonempty : extent ≠ 0) :
    coordinate place factor extent < extent := by
  have pos : 0 < extent.toNat := toNat_pos nonempty
  have last : (extent - 1).toNat = extent.toNat - 1 :=
    UInt32.toNat_sub_of_le _ _ (UInt32.le_iff_toNat_le.mpr pos)
  rw [UInt32.lt_iff_toNat_lt, coordinate, clamp]
  split
  · exact pos
  · split
    · omega
    · rename_i notHigher
      rw [UInt32.lt_iff_toNat_lt] at notHigher
      omega

theorem position_inside (size place : Vec2 UInt32) (factor : Vec2 ℚ)
    (nonempty : size.x ≠ 0 ∧ size.y ≠ 0) : Inside size (position size place factor) :=
  ⟨coordinate_lt _ _ nonempty.1, coordinate_lt _ _ nonempty.2⟩

/-- A little below a number that is not negative is rounded to it. -/
theorem roundAway_sub_epsilon (number : Nat) : roundAway (number - epsilon) = number := by
  unfold roundAway epsilon
  cases number with
  | zero =>
      rw [if_pos (by norm_num)]
      norm_num
  | succ number =>
      have pos : (0 : ℚ) ≤ number := Nat.cast_nonneg number
      rw [if_neg (by push_cast; linarith), Int.floor_eq_iff]
      push_cast
      constructor <;> linarith

/-- Without scaling the same coordinate is read. -/
theorem coordinate_same {place extent : UInt32} (inside : place < extent) :
    coordinate place (exact extent / exact extent) extent = place := by
  have pos := UInt32.lt_iff_toNat_lt.mp inside
  have last : (extent - 1).toNat = extent.toNat - 1 :=
    UInt32.toNat_sub_of_le _ _ (UInt32.le_iff_toNat_le.mpr (Nat.zero_lt_of_lt pos))
  have nonzero : exact extent ≠ 0 := Nat.cast_ne_zero.mpr (Nat.ne_of_gt (Nat.zero_lt_of_lt pos))
  have truncated : truncate (place.toNat : ℤ) = place := by
    rw [truncate, Int.cast_natCast, Nat.floor_natCast, UInt32.ofNat_toNat]
  rw [coordinate, div_self nonzero, mul_one, exact, roundAway_sub_epsilon, truncated]
  apply clamp_eq
  omega

end NearestNeighbour

namespace Bilinear

variable {place source dest : UInt32}

/-- The position in the source, along one axis. -/
theorem scaled_eq (place source dest : UInt32) :
    exact place * (exact source / exact dest) =
      ((place.toNat * source.toNat : ℕ) : ℚ) / (dest.toNat : ℚ) := by
  unfold exact
  rw [Nat.cast_mul, mul_div_assoc]

theorem scaled_nonneg (place source dest : UInt32) :
    0 ≤ exact place * (exact source / exact dest) := by
  rw [scaled_eq]
  positivity

theorem pos_of_lt (inDest : place < dest) : 0 < dest.toNat := by
  rw [UInt32.lt_iff_toNat_lt] at inDest
  exact Nat.zero_lt_of_lt inDest

/-- Positions of the destination lie in the source. -/
theorem scaled_lt (inDest : place < dest) (nonempty : source ≠ 0) :
    exact place * (exact source / exact dest) < ((source.toNat : ℤ) : ℚ) := by
  have dest_pos := pos_of_lt inDest
  have source_pos : 0 < source.toNat := toNat_pos nonempty
  rw [UInt32.lt_iff_toNat_lt] at inDest
  rw [scaled_eq, div_lt_iff₀ (Nat.cast_pos.mpr dest_pos), Int.cast_natCast, ← Nat.cast_mul,
    Nat.cast_lt, Nat.mul_comm]
  exact Nat.mul_lt_mul_of_pos_left inDest source_pos

/-- The lower coordinate is the integer below the position. -/
theorem toNat_low (inDest : place < dest) (nonempty : source ≠ 0) :
    ((low place (exact source / exact dest) source).toNat : ℤ) =
      ⌊exact place * (exact source / exact dest)⌋ := by
  have nonneg := Int.floor_nonneg.mpr (scaled_nonneg place source dest)
  have lt := Int.floor_lt.mpr (scaled_lt inDest nonempty)
  have bound := source.toNat_lt
  have converted := toNat_truncate nonneg (by omega)
  rw [low, clamp_eq (by omega), converted]

/-- The upper coordinate is the integer above the position. -/
theorem toNat_high (inDest : place < dest) (nonempty : source ≠ 0) :
    ((high place (exact source / exact dest) source).toNat : ℤ) =
      ⌈exact place * (exact source / exact dest)⌉ := by
  have nonneg := Int.ceil_nonneg (scaled_nonneg place source dest)
  have le := Int.ceil_le.mpr (scaled_lt inDest nonempty).le
  have bound := source.toNat_lt
  have converted := toNat_truncate nonneg (by omega)
  rw [high, clamp_eq (by omega), converted]

theorem low_lt (inDest : place < dest) (nonempty : source ≠ 0) :
    low place (exact source / exact dest) source < source := by
  have lt := Int.floor_lt.mpr (scaled_lt inDest nonempty)
  rw [← toNat_low inDest nonempty] at lt
  rw [UInt32.lt_iff_toNat_lt]
  exact Int.ofNat_lt.mp lt

/-- The upper coordinate is in the source if and only if the position is not behind the last
one. -/
theorem high_lt_iff (inDest : place < dest) (nonempty : source ≠ 0) :
    high place (exact source / exact dest) source < source ↔
      place.toNat * source.toNat + dest.toNat ≤ source.toNat * dest.toNat := by
  have dest_pos := pos_of_lt inDest
  have source_pos : 0 < source.toNat := toNat_pos nonempty
  have ceil := toNat_high inDest nonempty
  have lt_iff : high place (exact source / exact dest) source < source ↔
      ⌈exact place * (exact source / exact dest)⌉ ≤ (source.toNat : ℤ) - 1 := by
    rw [UInt32.lt_iff_toNat_lt, ← ceil]
    omega
  rw [lt_iff, Int.ceil_le, scaled_eq, div_le_iff₀ (Nat.cast_pos.mpr dest_pos), Int.cast_sub,
    Int.cast_natCast, Int.cast_one, sub_mul, one_mul, le_sub_iff_add_le, ← Nat.cast_mul,
    ← Nat.cast_add, Nat.cast_le]

/-- The upper coordinates of all positions are in the source if and only if the destination is
not larger. -/
theorem forall_high_lt_iff (nonempty : source ≠ 0) (wanted : dest ≠ 0) :
    (∀ place < dest, high place (exact source / exact dest) source < source) ↔
      dest ≤ source := by
  have dest_pos : 0 < dest.toNat := toNat_pos wanted
  rw [UInt32.le_iff_toNat_le]
  constructor
  · intro each
    have one_le : 1 ≤ dest := UInt32.le_iff_toNat_le.mpr dest_pos
    have last : (dest - 1).toNat = dest.toNat - 1 := UInt32.toNat_sub_of_le _ _ one_le
    have inDest : dest - 1 < dest := by
      rw [UInt32.lt_iff_toNat_lt, last]
      omega
    have bound := (high_lt_iff inDest nonempty).mp (each _ inDest)
    rw [last, Nat.sub_mul, Nat.one_mul, Nat.mul_comm source.toNat] at bound
    have enough : source.toNat ≤ dest.toNat * source.toNat := Nat.le_mul_of_pos_left _ dest_pos
    omega
  · intro le place inDest
    rw [high_lt_iff inDest nonempty]
    rw [UInt32.lt_iff_toNat_lt] at inDest
    have next : (place.toNat + 1) * source.toNat ≤ dest.toNat * source.toNat :=
      Nat.mul_le_mul_right _ inDest
    rw [Nat.succ_mul, Nat.mul_comm dest.toNat] at next
    omega

/-- The distance from the lower coordinate is a fraction. -/
theorem part_bounds (inDest : place < dest) (nonempty : source ≠ 0) :
    0 ≤ part place (exact source / exact dest) source ∧
      part place (exact source / exact dest) source < 1 := by
  have low_eq : exact (low place (exact source / exact dest) source) =
      ((⌊exact place * (exact source / exact dest)⌋ : ℤ) : ℚ) := by
    rw [← toNat_low inDest nonempty, Int.cast_natCast]
    rfl
  unfold part
  rw [low_eq]
  exact ⟨Int.fract_nonneg _, Int.fract_lt_one _⟩

/-- The weights of the four samples at a position. -/
def weights (tx ty : ℚ) : List ℚ :=
  [(1 - tx) * (1 - ty), tx * (1 - ty), (1 - tx) * ty, tx * ty]

/-- Interpolating twice weighs the four samples. -/
theorem biLerp_eq (p00 p10 p01 p11 tx ty : ℚ) :
    biLerp p00 p10 p01 p11 tx ty =
      (List.zipWith (· * ·) (weights tx ty) [p00, p10, p01, p11]).sum := by
  simp only [biLerp, lerp, weights, List.zipWith_cons_cons, List.zipWith_nil_left, List.sum_cons,
    List.sum_nil]
  ring

/-- For fractions the weights are not negative, and they sum to one. -/
theorem weights_spec {tx ty : ℚ} (tx_bounds : 0 ≤ tx ∧ tx < 1) (ty_bounds : 0 ≤ ty ∧ ty < 1) :
    (weights tx ty).length = 4 ∧ (∀ weight ∈ weights tx ty, 0 ≤ weight) ∧
      (weights tx ty).sum = 1 := by
  have tx_rest : 0 ≤ 1 - tx := by linarith
  have ty_rest : 0 ≤ 1 - ty := by linarith
  constructor
  · rfl
  · constructor
    · simp only [weights, List.forall_mem_cons, List.not_mem_nil, IsEmpty.forall_iff, implies_true,
        and_true]
      exact ⟨mul_nonneg tx_rest ty_rest, mul_nonneg tx_bounds.1 ty_rest,
        mul_nonneg tx_rest ty_bounds.1, mul_nonneg tx_bounds.1 ty_bounds.1⟩
    · simp only [weights, List.sum_cons, List.sum_nil]
      ring

/-- If the destination is not larger, all four positions are in the source. -/
theorem accesses_inside {source dest place : Vec2 UInt32} (inDest : Inside dest place)
    (nonempty : source.x ≠ 0 ∧ source.y ≠ 0)
    (high_x : high place.x (exact source.x / exact dest.x) source.x < source.x)
    (high_y : high place.y (exact source.y / exact dest.y) source.y < source.y) :
    ∀ access ∈ accesses source place (scaleFactor source dest), Inside source access := by
  have low_x := low_lt inDest.1 nonempty.1
  have low_y := low_lt inDest.2 nonempty.2
  simp only [accesses, scaleFactor, List.forall_mem_cons, List.not_mem_nil, IsEmpty.forall_iff,
    implies_true, and_true]
  exact ⟨⟨low_x, low_y⟩, ⟨high_x, low_y⟩, ⟨low_x, high_y⟩, high_x, high_y⟩

end Bilinear

/-! ## Resized images -/

/-- A weighted sum is between bounds of what is weighed. -/
theorem sum_zipWith_between {low high : ℚ} {weights numbers : List ℚ}
    (length_eq : weights.length = numbers.length) (nonneg : ∀ weight ∈ weights, 0 ≤ weight)
    (between : ∀ number ∈ numbers, low ≤ number ∧ number ≤ high) :
    weights.sum * low ≤ (List.zipWith (· * ·) weights numbers).sum ∧
      (List.zipWith (· * ·) weights numbers).sum ≤ weights.sum * high := by
  induction weights generalizing numbers with
  | nil => simp
  | cons weight weights ih =>
      cases numbers with
      | nil => cases length_eq
      | cons number numbers =>
          rw [List.forall_mem_cons] at nonneg between
          have rest := ih (Nat.succ.inj length_eq) nonneg.2 between.2
          rw [List.zipWith_cons_cons, List.sum_cons, List.sum_cons, add_mul, add_mul]
          constructor
          · exact add_le_add (mul_le_mul_of_nonneg_left between.1.1 nonneg.1) rest.1
          · exact add_le_add (mul_le_mul_of_nonneg_left between.1.2 nonneg.1) rest.2

section Resized

variable {T : Type} {rows : Nat} {type : ChannelType T} {source : Image (Pixel T rows)}
  {dest place : Vec2 UInt32}

theorem exists_allChannels {channels : Fin rows → Option T}
    (each : ∀ channel, ∃ value, channels channel = some value) :
    ∃ pixel, allChannels channels = some pixel :=
  ⟨_, dif_pos fun channel => Option.isSome_iff_exists.mpr (each channel)⟩

/-- A position inside of a whole image can be read. -/
theorem Image.exists_get {P : Type} {image : Image P} (wellFormed : image.WellFormed)
    (small : image.size.x.toNat * image.size.y.toNat < 4294967296)
    (inside : Inside image.size place) : ∃ pixel, image.get place = some pixel := by
  have lt := rowIndex_lt inside
  rw [← wellFormed] at lt
  exact ⟨_, (Image.get_eq inside small).trans (List.getElem?_eq_getElem lt)⟩

namespace Bilinear

/-- What is made of four channels is between two of them, and can be converted. -/
theorem exists_convert_biLerp (p00 p10 p01 p11 : T) {tx ty : ℚ} (tx_bounds : 0 ≤ tx ∧ tx < 1)
    (ty_bounds : 0 ≤ ty ∧ ty < 1) :
    ∃ value, type.convert (biLerp (type.exact p00) (type.exact p10) (type.exact p01)
      (type.exact p11) tx ty) = some value := by
  have some_values : [p00, p10, p01, p11] ≠ [] := List.cons_ne_nil _ _
  rcases weights_spec tx_bounds ty_bounds with ⟨four, nonneg, one⟩
  have lowExists : List.argmin type.exact [p00, p10, p01, p11] ≠ none :=
    mt List.argmin_eq_none.mp some_values
  have highExists : List.argmax type.exact [p00, p10, p01, p11] ≠ none :=
    mt List.argmax_eq_none.mp some_values
  rcases Option.ne_none_iff_exists'.mp lowExists with ⟨low, lowEq⟩
  rcases Option.ne_none_iff_exists'.mp highExists with ⟨high, highEq⟩
  have between : ∀ number ∈ [p00, p10, p01, p11].map type.exact,
      type.exact low ≤ number ∧ number ≤ type.exact high := by
    intro number mem
    rcases List.mem_map.mp mem with ⟨value, valueMem, rfl⟩
    exact ⟨List.le_of_mem_argmin valueMem lowEq, List.le_of_mem_argmax valueMem highEq⟩
  have bounds := sum_zipWith_between four nonneg between
  rw [one, one_mul, one_mul] at bounds
  rw [biLerp_eq]
  exact type.converts_between _ low high bounds.1 bounds.2

/-- Sampling a whole image for a destination that is not larger has a result. -/
theorem exists_sample (wellFormed : source.WellFormed)
    (small : source.size.x.toNat * source.size.y.toNat < 4294967296)
    (notLarger : dest.x ≤ source.size.x ∧ dest.y ≤ source.size.y) (inside : Inside dest place) :
    ∃ pixel, sample type source place (scaleFactor source.size dest) = some pixel := by
  have wanted : ∀ {position extent : UInt32}, position < extent → extent ≠ 0 := by
    rintro position extent lt rfl
    exact UInt32.not_lt_zero lt
  have nonempty : source.size.x ≠ 0 ∧ source.size.y ≠ 0 :=
    ⟨wanted (UInt32.lt_of_lt_of_le inside.1 notLarger.1),
      wanted (UInt32.lt_of_lt_of_le inside.2 notLarger.2)⟩
  have high_x := (forall_high_lt_iff nonempty.1 (wanted inside.1)).mpr notLarger.1 _ inside.1
  have high_y := (forall_high_lt_iff nonempty.2 (wanted inside.2)).mpr notLarger.2 _ inside.2
  have accessed := accesses_inside inside nonempty high_x high_y
  simp only [accesses, List.forall_mem_cons] at accessed
  rcases accessed with ⟨inside00, inside10, inside01, inside11, _⟩
  rcases Image.exists_get wellFormed small inside00 with ⟨p00, read00⟩
  rcases Image.exists_get wellFormed small inside10 with ⟨p10, read10⟩
  rcases Image.exists_get wellFormed small inside01 with ⟨p01, read01⟩
  rcases Image.exists_get wellFormed small inside11 with ⟨p11, read11⟩
  simp only [sample, accesses, List.map_cons, List.map_nil, read00, read10, read01, read11]
  apply exists_allChannels
  intro channel
  exact exists_convert_biLerp _ _ _ _ (part_bounds inside.1 nonempty.1)
    (part_bounds inside.2 nonempty.2)

end Bilinear

/-- Resizing a whole image to a size that is not larger gives a whole image, which has at each
position the sample for this position. -/
theorem resizeImage_bilinear (zero : Pixel T rows) (wellFormed : source.WellFormed)
    (small : source.size.x.toNat * source.size.y.toNat < 4294967296)
    (notLarger : dest.x ≤ source.size.x ∧ dest.y ≤ source.size.y) :
    ∃ result, resizeImage zero source dest (Bilinear.sample type) = some result ∧
      result.size = dest ∧ result.WellFormed ∧
      ∀ place, Inside dest place → result.data[rowIndex dest place]? =
        Bilinear.sample type source place (scaleFactor source.size dest) := by
  have destSmall : dest.x.toNat * dest.y.toNat < 4294967296 :=
    Nat.lt_of_le_of_lt (Nat.mul_le_mul (UInt32.le_iff_toNat_le.mp notLarger.1)
      (UInt32.le_iff_toNat_le.mp notLarger.2)) small
  have each : ∀ place ∈ positions dest, ∃ pixel,
      Bilinear.sample type source place (scaleFactor source.size dest) = some pixel :=
    fun place mem => Bilinear.exists_sample wellFormed small notLarger
      (mem_positions_iff.mp mem)
  rcases exists_mapM_iff.mpr each with ⟨pixels, pixelsEq⟩
  have full : pixels.length = dest.x.toNat * dest.y.toNat := by
    rw [length_of_mapM pixelsEq, length_positions]
  have replaced : changeEach (fun _ pixel => pixel) (filledImage dest zero).data pixels =
      some pixels := by
    apply changeEach_replace
    rw [full, filledImage, List.length_replicate, pixelCount_eq destSmall]
  refine ⟨⟨pixels, dest⟩, ?_, rfl, full, ?_⟩
  · simp only [resizeImage, pixelsEq, replaced, Option.bind_eq_bind, Option.bind_some,
      Option.pure_def]
  · intro place inside
    rw [getElem?_of_mapM pixelsEq, getElem?_positions inside, Option.bind_some]

end Resized

/-! ## All positions -/

/-- Whatever is read from the source to resize it is read inside of it, and the samples are
weighed with weights that are not negative and sum to one. -/
def ResizesInside (source dest : Vec2 UInt32) : Prop :=
  ∀ place ∈ positions dest,
    (∀ access ∈ Bilinear.accesses source place (scaleFactor source dest), Inside source access) ∧
      ∃ weights : List ℚ, weights.length = 4 ∧ (∀ weight ∈ weights, 0 ≤ weight) ∧
        weights.sum = 1 ∧
        ∀ p00 p10 p01 p11 : ℚ,
          Bilinear.blend source place (scaleFactor source dest) p00 p10 p01 p11 =
            (List.zipWith (· * ·) weights [p00, p10, p01, p11]).sum

/-- Resizing with the bilinear sampler stays in the source if and only if the destination is not
larger than the source in any direction. -/
theorem resizesInside_iff {source dest : Vec2 UInt32}
    (nonempty : source.x ≠ 0 ∧ source.y ≠ 0) (wanted : dest.x ≠ 0 ∧ dest.y ≠ 0) :
    ResizesInside source dest ↔ dest.x ≤ source.x ∧ dest.y ≤ source.y := by
  rw [← Bilinear.forall_high_lt_iff nonempty.1 wanted.1,
    ← Bilinear.forall_high_lt_iff nonempty.2 wanted.2]
  constructor
  · intro inside
    have highInside : ∀ place, Inside dest place →
        Inside source ⟨Bilinear.high place.x (exact source.x / exact dest.x) source.x,
          Bilinear.high place.y (exact source.y / exact dest.y) source.y⟩ := by
      intro place inDest
      apply (inside place (mem_positions_iff.mpr inDest)).1
      simp [Bilinear.accesses, scaleFactor]
    constructor
    · intro x x_lt
      exact (highInside ⟨x, 0⟩ ⟨x_lt, (inside_zero wanted).2⟩).1
    · intro y y_lt
      exact (highInside ⟨0, y⟩ ⟨(inside_zero wanted).1, y_lt⟩).2
  · rintro ⟨high_x, high_y⟩ place mem
    have inDest := mem_positions_iff.mp mem
    constructor
    · exact Bilinear.accesses_inside inDest nonempty (high_x _ inDest.1) (high_y _ inDest.2)
    · rcases Bilinear.weights_spec (Bilinear.part_bounds inDest.1 nonempty.1)
        (Bilinear.part_bounds inDest.2 nonempty.2) with ⟨four, nonneg, one⟩
      exact ⟨_, four, nonneg, one, fun _ _ _ _ => Bilinear.biLerp_eq _ _ _ _ _ _⟩

/-- Half of the size in both directions. -/
theorem resizesInside_half : ResizesInside ⟨2, 2⟩ ⟨1, 1⟩ :=
  (@resizesInside_iff ⟨2, 2⟩ ⟨1, 1⟩ (by decide) (by decide)).mpr (by decide)

/-- When a single pixel is resized to two by two, the last position is read outside of it. -/
theorem not_resizesInside_double : ¬ResizesInside ⟨1, 1⟩ ⟨2, 2⟩ := by
  intro inside
  have last : (⟨1, 1⟩ : Vec2 UInt32) ∈ positions ⟨2, 2⟩ :=
    mem_positions_iff.mpr ⟨by decide, by decide⟩
  have access := (inside ⟨1, 1⟩ last).1 ⟨Bilinear.high 1 (exact 1 / exact 2) 1,
    Bilinear.high 1 (exact 1 / exact 2) 1⟩ (by simp [Bilinear.accesses, scaleFactor])
  have bound := (Bilinear.high_lt_iff (by decide) (by decide)).mp access.1
  exact absurd bound (by decide)

end VoxelEngine.Graphics
