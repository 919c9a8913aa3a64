import VoxelEngine.Graphics.TextureAtlas
import Mathlib.Tactic.Linarith
import Mathlib.Tactic.FieldSimp

/-!
# Allocation in the texture atlas

The rectangles of the living subtextures lie within the atlas, no two of them meet the same
block, and the occupied blocks are those that they meet.  A rectangle is refused if and
only if there is no room for it, as long as it is not larger than the atlas.
-/

namespace VoxelEngine.Graphics

open VoxelEngine.Data VoxelEngine.Transition

/-! ## Along one axis -/

/-- The block has a part of its inside between the two coordinates. -/
def Meets (alignment : UInt32) (low high : ℚ) (block : UInt32) : Prop :=
  low < (exact block + 1) * exact alignment ∧ exact block * exact alignment < high

/-- A size that is not greater than that of the atlas, and can be rounded up to blocks
without going past the greatest number. -/
structure FitsAxis (extent alignment size : UInt32) : Prop where
  positive : 0 < size.toNat
  size_le : size.toNat ≤ extent.toNat
  rounding : size.toNat + alignment.toNat ≤ UInt32.size

instance (extent alignment size : UInt32) : Decidable (FitsAxis extent alignment size) :=
  decidable_of_iff (0 < size.toNat ∧ size.toNat ≤ extent.toNat ∧
      size.toNat + alignment.toNat ≤ UInt32.size)
    ⟨fun fits => ⟨fits.1, fits.2.1, fits.2.2⟩, fun fits => ⟨fits.1, fits.2, fits.3⟩⟩

/-- A location from which so many pixels remain before the edge. -/
def Within (extent alignment size : UInt32) (location : Nat) : Prop :=
  location * alignment.toNat + size.toNat ≤ extent.toNat

/-- So many blocks are needed for so many pixels. -/
def blocksFor (alignment size : UInt32) : Nat :=
  (size.toNat + alignment.toNat - 1) / alignment.toNat

section Axis

variable {extent alignment size block : UInt32} {location : Nat}

theorem toNat_blockCoordinate (aligned : 0 < alignment.toNat)
    (rounding : size.toNat + alignment.toNat ≤ UInt32.size) :
    (TextureAtlas.blockCoordinate alignment size).toNat = blocksFor alignment size := by
  have wrapped : (size + alignment - 1).toNat = size.toNat + alignment.toNat - 1 := by
    have one : (1 : UInt32).toNat = 1 := rfl
    rw [UInt32.toNat_sub, UInt32.toNat_add, one]
    rw [UInt32.size] at rounding
    omega
  rw [TextureAtlas.blockCoordinate, UInt32.toNat_div, wrapped]
  rfl

/-- A number of blocks is enough for a size if and only if it is not too short. -/
theorem lt_blocksFor_iff (aligned : 0 < alignment.toNat) {count : Nat} :
    count < blocksFor alignment size ↔ count * alignment.toNat < size.toNat := by
  rw [blocksFor, Nat.lt_iff_add_one_le, Nat.le_div_iff_mul_le aligned, Nat.succ_mul]
  omega

theorem blocksFor_pos (aligned : 0 < alignment.toNat) (positive : 0 < size.toNat) :
    0 < blocksFor alignment size := by
  rw [lt_blocksFor_iff aligned, Nat.zero_mul]
  exact positive

/-- A rectangle is within the atlas if and only if its blocks are. -/
theorem within_iff (aligned : 0 < alignment.toNat) (divides : alignment.toNat ∣ extent.toNat) :
    Within extent alignment size location ↔
      location * alignment.toNat ≤ extent.toNat ∧
        location + blocksFor alignment size ≤ extent.toNat / alignment.toNat := by
  rcases divides with ⟨blocks, extent_eq⟩
  rw [Within, extent_eq, Nat.mul_div_cancel_left blocks aligned, Nat.mul_comm _ blocks]
  constructor
  · intro inside
    have location_le := Nat.le_of_add_right_le inside
    refine ⟨location_le, ?_⟩
    by_contra outside
    have location_le_blocks := Nat.le_of_mul_le_mul_right location_le aligned
    have enough : blocks - location < blocksFor alignment size := by omega
    rw [lt_blocksFor_iff aligned, Nat.sub_mul] at enough
    omega
  · rintro ⟨_, inside⟩
    by_contra outside
    have enough : blocks - location < blocksFor alignment size := by
      rw [lt_blocksFor_iff aligned, Nat.sub_mul]
      omega
    omega

/-- The blocks that a rectangle at a block boundary meets. -/
theorem meets_iff (aligned : 0 < alignment.toNat) :
    Meets alignment (location * exact alignment) (location * exact alignment + exact size) block ↔
      location ≤ block.toNat ∧ block.toNat < location + blocksFor alignment size := by
  have low : (location : ℚ) * exact alignment < (exact block + 1) * exact alignment ↔
      location ≤ block.toNat := by
    unfold exact
    norm_cast
    rw [Nat.mul_lt_mul_right aligned, Nat.lt_succ_iff]
  have high : exact block * exact alignment < (location : ℚ) * exact alignment + exact size ↔
      block.toNat * alignment.toNat < location * alignment.toNat + size.toNat := by
    unfold exact
    norm_cast
  rw [Meets, low, high]
  apply and_congr_right
  intro location_le
  have difference : block.toNat - location < blocksFor alignment size ↔
      (block.toNat - location) * alignment.toNat < size.toNat :=
    lt_blocksFor_iff aligned
  rw [Nat.sub_mul] at difference
  have scaled := Nat.mul_le_mul_right alignment.toNat location_le
  omega

@[simp]
theorem truncate_exact (coordinate : UInt32) : truncate (exact coordinate) = coordinate := by
  rw [truncate, exact, Nat.floor_natCast, UInt32.ofNat_toNat]

theorem exact_pos (positive : 0 < extent.toNat) : (0 : ℚ) < exact extent := by
  unfold exact
  exact_mod_cast positive

/-- The size in blocks is recovered from a fraction of the size of the atlas. -/
theorem truncate_fraction (positive : 0 < extent.toNat) (coordinate : UInt32) :
    truncate (exact coordinate / exact extent * exact extent) = coordinate := by
  rw [div_mul_cancel₀ _ (exact_pos positive).ne', truncate_exact]

/-- The location in pixels does not go past the greatest number. -/
theorem toNat_location {place : UInt32} (within : Within extent alignment size place.toNat) :
    (place * alignment).toNat = place.toNat * alignment.toNat := by
  have extent_lt := extent.toNat_lt
  unfold Within at within
  rw [UInt32.toNat_mul]
  apply Nat.mod_eq_of_lt
  omega

/-- The location in blocks is recovered from its location in pixels. -/
theorem blockCoordinate_location (aligned : 0 < alignment.toNat)
    (divides : alignment.toNat ∣ extent.toNat) (positive : 0 < size.toNat) {place : UInt32}
    (within : Within extent alignment size place.toNat) :
    TextureAtlas.blockCoordinate alignment (place * alignment) = place := by
  have extent_lt := extent.toNat_lt
  have room : place.toNat * alignment.toNat + alignment.toNat ≤ extent.toNat := by
    have blocks_le := ((within_iff aligned divides).mp within).2
    have one_le : 0 < blocksFor alignment size := blocksFor_pos aligned positive
    rw [← Nat.succ_mul]
    apply (Nat.le_div_iff_mul_le aligned).mp
    omega
  have product := toNat_location within
  have rounding : (place * alignment).toNat + alignment.toNat ≤ UInt32.size := by
    rw [product, UInt32.size]
    omega
  apply UInt32.toNat_inj.mp
  rw [toNat_blockCoordinate aligned rounding, blocksFor, product, Nat.add_sub_assoc aligned,
    Nat.add_comm, Nat.add_mul_div_right _ _ aligned,
    Nat.div_eq_of_lt (Nat.sub_lt aligned Nat.one_pos), Nat.zero_add]

/-- A subtexture lies inside the atlas along an axis if its rectangle does. -/
theorem fraction_inside (positive : 0 < extent.toNat) {place : UInt32}
    (within : Within extent alignment size place.toNat) :
    0 ≤ exact (place * alignment) / exact extent ∧
      exact (place * alignment) / exact extent + exact size / exact extent ≤ 1 := by
  have extent_pos := exact_pos positive
  constructor
  · apply div_nonneg
    · exact Nat.cast_nonneg _
    · exact extent_pos.le
  · rw [← add_div, div_le_one extent_pos]
    unfold exact
    rw [toNat_location within]
    exact_mod_cast within

/-- The blocks that a subtexture meets along an axis. -/
theorem meets_fraction_iff (aligned : 0 < alignment.toNat) (positive : 0 < extent.toNat)
    {place : UInt32} (within : Within extent alignment size place.toNat) :
    Meets alignment (exact (place * alignment) / exact extent * exact extent)
        ((exact (place * alignment) / exact extent + exact size / exact extent) * exact extent)
        block ↔
      place.toNat ≤ block.toNat ∧ block.toNat < place.toNat + blocksFor alignment size := by
  have extent_ne := (exact_pos positive).ne'
  have location : exact (place * alignment) = (place.toNat : ℚ) * exact alignment := by
    unfold exact
    rw [toNat_location within]
    push_cast
    rfl
  rw [add_mul, div_mul_cancel₀ _ extent_ne, div_mul_cancel₀ _ extent_ne, location]
  exact meets_iff aligned

/-- The last block does not go past the greatest number. -/
theorem location_add_lt (aligned : 0 < alignment.toNat)
    (divides : alignment.toNat ∣ extent.toNat) (within : Within extent alignment size location) :
    location + blocksFor alignment size < UInt32.size := by
  have extent_lt := extent.toNat_lt
  have blocks_le := ((within_iff aligned divides).mp within).2
  have quotient_le := Nat.div_le_self extent.toNat alignment.toNat
  rw [UInt32.size]
  omega

/-- The search goes through the locations within the atlas, and there are fewer of them than
there are numbers. -/
theorem last_location (aligned : 0 < alignment.toNat)
    (divides : alignment.toNat ∣ extent.toNat) (fits : FitsAxis extent alignment size) :
    (extent / alignment - TextureAtlas.blockCoordinate alignment size).toNat + 1 <
        UInt32.size ∧
      ∀ location, Within extent alignment size location ↔
        location ≤
          (extent / alignment - TextureAtlas.blockCoordinate alignment size).toNat := by
  have extent_lt := extent.toNat_lt
  have quotient_le := Nat.div_le_self extent.toNat alignment.toNat
  have one_le : 0 < blocksFor alignment size := blocksFor_pos aligned fits.positive
  have at_zero : Within extent alignment size 0 := by
    rw [Within, Nat.zero_mul, Nat.zero_add]
    exact fits.size_le
  have blocks_le := ((within_iff aligned divides).mp at_zero).2
  have last_eq : (extent / alignment - TextureAtlas.blockCoordinate alignment size).toNat =
      extent.toNat / alignment.toNat - blocksFor alignment size := by
    rw [UInt32.toNat_sub, toNat_blockCoordinate aligned fits.rounding, UInt32.toNat_div]
    omega
  rw [last_eq, UInt32.size]
  constructor
  · omega
  · intro location
    rw [within_iff aligned divides]
    constructor
    · rintro ⟨_, inside⟩
      omega
    · intro location_le
      refine ⟨?_, by omega⟩
      apply (Nat.le_div_iff_mul_le aligned).mp
      omega

/-- Every location within the atlas is a number that the code has. -/
theorem exists_location (aligned : 0 < alignment.toNat)
    (within : Within extent alignment size location) :
    ∃ place : UInt32, place.toNat = location := by
  have extent_lt := extent.toNat_lt
  have location_le := Nat.le_mul_of_pos_right location aligned
  rw [Within] at within
  refine ⟨UInt32.ofNat location, UInt32.toNat_ofNat_of_lt' ?_⟩
  rw [UInt32.size]
  omega

/-- Going through offsets is going through the blocks themselves. -/
theorem forall_offset_iff {place : UInt32} {count : Nat}
    (bounded : place.toNat + count < UInt32.size) (property : UInt32 → Prop) :
    (∀ offset : UInt32, offset.toNat < count → property (place + offset)) ↔
      ∀ block : UInt32, place.toNat ≤ block.toNat → block.toNat < place.toNat + count →
        property block := by
  rw [UInt32.size] at bounded
  constructor
  · intro each block place_le block_lt
    have block_bound := block.toNat_lt
    have offset_eq : (block - place).toNat = block.toNat - place.toNat := by
      rw [UInt32.toNat_sub]
      omega
    have sum_eq : place + (block - place) = block := by
      apply UInt32.toNat_inj.mp
      rw [UInt32.toNat_add, offset_eq]
      omega
    rw [← sum_eq]
    apply each
    omega
  · intro each offset offset_lt
    have sum_eq : (place + offset).toNat = place.toNat + offset.toNat := by
      rw [UInt32.toNat_add]
      omega
    apply each
    · omega
    · omega

end Axis

/-! ## Rectangles -/

namespace TextureAtlas

/-- The alignment divides the size. -/
structure Aligned (atlas : TextureAtlas) : Prop where
  positive : 0 < atlas.atlasAlignment.toNat
  divides_x : atlas.atlasAlignment.toNat ∣ atlas.atlasSize.x.toNat
  divides_y : atlas.atlasAlignment.toNat ∣ atlas.atlasSize.y.toNat

/-- A size that the atlas gets right. -/
def Fits (atlas : TextureAtlas) (size : Vec2 UInt32) : Prop :=
  FitsAxis atlas.atlasSize.x atlas.atlasAlignment size.x ∧
    FitsAxis atlas.atlasSize.y atlas.atlasAlignment size.y

instance (atlas : TextureAtlas) (size : Vec2 UInt32) : Decidable (atlas.Fits size) :=
  inferInstanceAs (Decidable (_ ∧ _))

/-- The rectangle of a size at a location in blocks lies within the atlas. -/
def WithinAtlas (atlas : TextureAtlas) (size : Vec2 UInt32) (location : Vec2 Nat) : Prop :=
  Within atlas.atlasSize.x atlas.atlasAlignment size.x location.x ∧
    Within atlas.atlasSize.y atlas.atlasAlignment size.y location.y

/-- The block is one of those of a rectangle of a size at a location. -/
def InBlocks (atlas : TextureAtlas) (size : Vec2 UInt32) (location : Vec2 Nat)
    (block : Vec2 UInt32) : Prop :=
  (location.x ≤ block.x.toNat ∧
      block.x.toNat < location.x + blocksFor atlas.atlasAlignment size.x) ∧
    location.y ≤ block.y.toNat ∧
      block.y.toNat < location.y + blocksFor atlas.atlasAlignment size.y

/-- The subtexture has a part of its inside in common with the block. -/
def Covers (atlas : TextureAtlas) (subtexture : Subtexture) (block : Vec2 UInt32) : Prop :=
  Meets atlas.atlasAlignment (subtexture.uv.x * exact atlas.atlasSize.x)
      ((subtexture.uv.x + subtexture.wh.x) * exact atlas.atlasSize.x) block.x ∧
    Meets atlas.atlasAlignment (subtexture.uv.y * exact atlas.atlasSize.y)
      ((subtexture.uv.y + subtexture.wh.y) * exact atlas.atlasSize.y) block.y

/-- There is room for a rectangle of that size at a location in blocks. -/
def FreeAt (atlas : TextureAtlas) (size : Vec2 UInt32) (location : Vec2 Nat) : Prop :=
  atlas.WithinAtlas size location ∧
    ∀ block : Vec2 UInt32,
      Meets atlas.atlasAlignment (location.x * exact atlas.atlasAlignment)
          (location.x * exact atlas.atlasAlignment + exact size.x) block.x →
        Meets atlas.atlasAlignment (location.y * exact atlas.atlasAlignment)
            (location.y * exact atlas.atlasAlignment + exact size.y) block.y →
          block ∉ atlas.occupiedBlocks

/-- The value of a location as the code has it. -/
def place (location : Vec2 UInt32) : Vec2 Nat :=
  ⟨location.x.toNat, location.y.toNat⟩

variable {atlas : TextureAtlas} {size location : Vec2 UInt32}

theorem freeAt_iff (aligned : atlas.Aligned) {location : Vec2 Nat} :
    atlas.FreeAt size location ↔ atlas.WithinAtlas size location ∧
      ∀ block, atlas.InBlocks size location block → block ∉ atlas.occupiedBlocks := by
  unfold FreeAt InBlocks
  simp only [meets_iff aligned.positive, and_imp]

theorem covers_subtextureAt_iff (aligned : atlas.Aligned) (fits : atlas.Fits size)
    (within : atlas.WithinAtlas size (place location)) {block : Vec2 UInt32} :
    atlas.Covers (atlas.subtextureAt location size) block ↔
      atlas.InBlocks size (place location) block := by
  have positive_x := Nat.lt_of_lt_of_le fits.1.positive fits.1.size_le
  have positive_y := Nat.lt_of_lt_of_le fits.2.positive fits.2.size_le
  exact and_congr (meets_fraction_iff aligned.positive positive_x within.1)
    (meets_fraction_iff aligned.positive positive_y within.2)

theorem toNat_unalignedToBlockpos (aligned : atlas.Aligned) (fits : atlas.Fits size) :
    (atlas.unalignedToBlockpos size).x.toNat = blocksFor atlas.atlasAlignment size.x ∧
      (atlas.unalignedToBlockpos size).y.toNat = blocksFor atlas.atlasAlignment size.y :=
  ⟨toNat_blockCoordinate aligned.positive fits.1.rounding,
    toNat_blockCoordinate aligned.positive fits.2.rounding⟩

/-- The test of the search looks at the blocks of the rectangle. -/
theorem isFree_iff (aligned : atlas.Aligned) (fits : atlas.Fits size)
    (within : atlas.WithinAtlas size (place location)) :
    atlas.isFree location (atlas.unalignedToBlockpos size) = true ↔
      ∀ block, atlas.InBlocks size (place location) block → block ∉ atlas.occupiedBlocks := by
  have blocks := toNat_unalignedToBlockpos aligned fits
  have bound_x := location_add_lt aligned.positive aligned.divides_x within.1
  have bound_y := location_add_lt aligned.positive aligned.divides_y within.2
  have zero : (0 : UInt32).toNat = 0 := rfl
  simp only [isFree, List.all_eq_true, mem_counters_iff, zero, Nat.zero_le, true_and, blocks.1,
    blocks.2, decide_eq_true_eq]
  have columns := forall_offset_iff bound_x fun x => ∀ dy : UInt32,
    dy.toNat < blocksFor atlas.atlasAlignment size.y →
      (⟨x, location.y + dy⟩ : Vec2 UInt32) ∉ atlas.occupiedBlocks
  have rows := fun x => forall_offset_iff bound_y fun y =>
    (⟨x, y⟩ : Vec2 UInt32) ∉ atlas.occupiedBlocks
  constructor
  · rintro each ⟨x, y⟩ ⟨⟨low_x, high_x⟩, low_y, high_y⟩
    exact (rows x).mp (columns.mp each x low_x high_x) y low_y high_y
  · intro each
    apply columns.mpr
    intro x low_x high_x
    apply (rows x).mpr
    intro y low_y high_y
    exact each ⟨x, y⟩ ⟨⟨low_x, high_x⟩, low_y, high_y⟩

/-- Marking concerns the blocks of the rectangle. -/
theorem mem_markStorage_iff (aligned : atlas.Aligned) (fits : atlas.Fits size)
    (within : atlas.WithinAtlas size (place location)) (occupied : Bool) {block : Vec2 UInt32} :
    block ∈ (atlas.markStorage occupied location
        (atlas.unalignedToBlockpos size)).occupiedBlocks ↔
      if occupied then block ∈ atlas.occupiedBlocks ∨ atlas.InBlocks size (place location) block
      else block ∈ atlas.occupiedBlocks ∧ ¬atlas.InBlocks size (place location) block := by
  have blocks := toNat_unalignedToBlockpos aligned fits
  have bound_x := location_add_lt aligned.positive aligned.divides_x within.1
  have bound_y := location_add_lt aligned.positive aligned.divides_y within.2
  rw [UInt32.size] at bound_x bound_y
  have stop_x : (location.x + (atlas.unalignedToBlockpos size).x).toNat =
      location.x.toNat + blocksFor atlas.atlasAlignment size.x := by
    rw [UInt32.toNat_add, blocks.1]
    exact Nat.mod_eq_of_lt bound_x
  have stop_y : (location.y + (atlas.unalignedToBlockpos size).y).toNat =
      location.y.toNat + blocksFor atlas.atlasAlignment size.y := by
    rw [UInt32.toNat_add, blocks.2]
    exact Nat.mod_eq_of_lt bound_y
  have marked : block ∈ ((counters location.x
      (location.x + (atlas.unalignedToBlockpos size).x)).flatMap fun x =>
        (counters location.y (location.y + (atlas.unalignedToBlockpos size).y)).map
          fun y => (⟨x, y⟩ : Vec2 UInt32)) ↔ atlas.InBlocks size (place location) block := by
    simp only [List.mem_flatMap, List.mem_map, mem_counters_iff, stop_x, stop_y]
    constructor
    · rintro ⟨x, inside_x, y, inside_y, rfl⟩
      exact ⟨inside_x, inside_y⟩
    · rintro ⟨inside_x, inside_y⟩
      exact ⟨block.x, inside_x, block.y, inside_y, rfl⟩
  cases occupied with
  | true =>
      simp only [markStorage, if_true, Finset.mem_union, List.mem_toFinset]
      rw [marked]
  | false =>
      simp only [markStorage, Bool.false_eq_true, if_false, Finset.mem_sdiff, List.mem_toFinset]
      rw [marked]

/-- The inner loop finds the room that there is in a column. -/
theorem searchColumn_spec (aligned : atlas.Aligned) (fits : atlas.Fits size) (x : UInt32) :
    (∃ y : UInt32, Within atlas.atlasSize.y atlas.atlasAlignment size.y y.toNat ∧
        atlas.isFree ⟨x, y⟩ (atlas.unalignedToBlockpos size) = true ∧
        atlas.searchColumn (atlas.unalignedToBlockpos size) x = .found ⟨x, y⟩) ∨
      (∀ y : UInt32, Within atlas.atlasSize.y atlas.atlasAlignment size.y y.toNat →
          atlas.isFree ⟨x, y⟩ (atlas.unalignedToBlockpos size) = false) ∧
        atlas.searchColumn (atlas.unalignedToBlockpos size) x = .exhausted := by
  rcases last_location aligned.positive aligned.divides_y fits.2 with ⟨bounded, within_iff⟩
  have returns : ∀ y, (if atlas.isFree ⟨x, y⟩ (atlas.unalignedToBlockpos size) then
      Scan.found (⟨x, y⟩ : Vec2 UInt32) else .exhausted) ≠ .endless := by
    intro y
    split <;> simp
  rcases scan_spec _ returns bounded with ⟨y, location, y_le, foundEq, scanEq⟩ | ⟨none, scanEq⟩
  · apply Or.inl
    split at foundEq
    · rename_i free
      cases foundEq
      exact ⟨y, (within_iff y.toNat).mpr y_le, free, scanEq⟩
    · cases foundEq
  · refine Or.inr ⟨?_, scanEq⟩
    intro y within
    have notFound := none y ((within_iff y.toNat).mp within)
    split at notFound
    · cases notFound
    · rename_i notFree
      exact eq_false_of_ne_true notFree

/-- The search finds a location with room, if there is any. -/
theorem findStorage_spec (aligned : atlas.Aligned) (fits : atlas.Fits size) :
    (∃ location, atlas.WithinAtlas size (place location) ∧
        (∀ block, atlas.InBlocks size (place location) block → block ∉ atlas.occupiedBlocks) ∧
        atlas.findStorage (atlas.unalignedToBlockpos size) = .found location) ∨
      (∀ location, ¬atlas.FreeAt size location) ∧
        atlas.findStorage (atlas.unalignedToBlockpos size) = .exhausted := by
  rcases last_location aligned.positive aligned.divides_x fits.1 with ⟨bounded, within_iff⟩
  have returns : ∀ x, atlas.searchColumn (atlas.unalignedToBlockpos size) x ≠ .endless := by
    intro x
    rcases searchColumn_spec aligned fits x with ⟨y, -, -, columnEq⟩ | ⟨-, columnEq⟩
    · rw [columnEq]
      simp
    · rw [columnEq]
      simp
  rcases scan_spec _ returns bounded with ⟨x, location, x_le, foundEq, scanEq⟩ | ⟨none, scanEq⟩
  · apply Or.inl
    rcases searchColumn_spec aligned fits x with ⟨y, within_y, free, columnEq⟩ | ⟨-, columnEq⟩
    · rw [columnEq] at foundEq
      cases foundEq
      have within : atlas.WithinAtlas size (place ⟨x, y⟩) :=
        ⟨(within_iff x.toNat).mpr x_le, within_y⟩
      exact ⟨⟨x, y⟩, within, (isFree_iff aligned fits within).mp free, scanEq⟩
    · rw [columnEq] at foundEq
      cases foundEq
  · refine Or.inr ⟨?_, scanEq⟩
    intro location freeAt
    rw [freeAt_iff aligned] at freeAt
    rcases freeAt with ⟨within, free⟩
    rcases exists_location aligned.positive within.1 with ⟨x, x_eq⟩
    rcases exists_location aligned.positive within.2 with ⟨y, y_eq⟩
    have location_eq : location = place ⟨x, y⟩ := by
      rw [place, x_eq, y_eq]
    subst location_eq
    have x_le := (within_iff x.toNat).mp within.1
    rcases searchColumn_spec aligned fits x with ⟨z, -, -, columnEq⟩ | ⟨notFree, -⟩
    · rw [none x x_le] at columnEq
      cases columnEq
    · have free_here := (isFree_iff aligned fits within).mpr free
      rw [notFree y within.2] at free_here
      cases free_here

/-- The subtexture belongs to a rectangle that was handed out. -/
def Placed (atlas : TextureAtlas) (subtexture : Subtexture) : Prop :=
  ∃ location size, atlas.Fits size ∧ atlas.WithinAtlas size (place location) ∧
    subtexture = atlas.subtextureAt location size

/-- Removing a subtexture frees the blocks that it meets. -/
theorem mem_remove_iff (aligned : atlas.Aligned) {subtexture : Subtexture}
    (placed : atlas.Placed subtexture) {block : Vec2 UInt32} :
    block ∈ (atlas.remove subtexture).occupiedBlocks ↔
      block ∈ atlas.occupiedBlocks ∧ ¬atlas.Covers subtexture block := by
  rcases placed with ⟨location, size, fits, within, rfl⟩
  have positive_x := Nat.lt_of_lt_of_le fits.1.positive fits.1.size_le
  have positive_y := Nat.lt_of_lt_of_le fits.2.positive fits.2.size_le
  have remove_eq : atlas.remove (atlas.subtextureAt location size) =
      atlas.markStorage false location (atlas.unalignedToBlockpos size) := by
    simp only [remove, subtextureAt, unalignedToBlockpos, truncate_fraction positive_x,
      truncate_fraction positive_y,
      blockCoordinate_location aligned.positive aligned.divides_x fits.1.positive within.1,
      blockCoordinate_location aligned.positive aligned.divides_y fits.2.positive within.2]
  rw [remove_eq, mem_markStorage_iff aligned fits within false, if_neg Bool.false_ne_true,
    covers_subtextureAt_iff aligned fits within]

/-- The two ways in which preparing storage ends. -/
theorem prepareStorage_spec (aligned : atlas.Aligned) (fits : atlas.Fits size) :
    (∃ blocks subtexture,
        atlas.prepareStorage size =
          some ({ atlas with occupiedBlocks := blocks }, .ok subtexture) ∧
        (∃ location, atlas.FreeAt size location) ∧ atlas.Placed subtexture ∧
        (∀ block, atlas.Covers subtexture block → block ∉ atlas.occupiedBlocks) ∧
        ∀ block, block ∈ blocks ↔
          block ∈ atlas.occupiedBlocks ∨ atlas.Covers subtexture block) ∨
      ∃ text, atlas.prepareStorage size = some (atlas, .error text) ∧
        ∀ location, ¬atlas.FreeAt size location := by
  rcases findStorage_spec aligned fits with ⟨location, within, free, foundEq⟩ | ⟨none, foundEq⟩
  · apply Or.inl
    refine ⟨(atlas.markStorage true location (atlas.unalignedToBlockpos size)).occupiedBlocks,
      atlas.subtextureAt location size, by rw [prepareStorage, foundEq]; rfl,
      ⟨place location, ?_⟩, ⟨location, size, fits, within, rfl⟩, ?_, ?_⟩
    · exact (freeAt_iff aligned).mpr ⟨within, free⟩
    · intro block covers
      exact free block ((covers_subtextureAt_iff aligned fits within).mp covers)
    · intro block
      rw [mem_markStorage_iff aligned fits within true, if_pos rfl,
        covers_subtextureAt_iff aligned fits within]
  · apply Or.inr
    exact ⟨_, by rw [prepareStorage, foundEq], none⟩

end TextureAtlas

/-! ## Runs -/

/-- The rectangle of a subtexture lies inside its atlas. -/
def Subtexture.Inside (subtexture : Subtexture) : Prop :=
  (0 ≤ subtexture.uv.x ∧ subtexture.uv.x + subtexture.wh.x ≤ 1) ∧
    0 ≤ subtexture.uv.y ∧ subtexture.uv.y + subtexture.wh.y ≤ 1

namespace AtlasUse

/-- What is promised about the living subtextures. -/
structure Tidy (use : AtlasUse) : Prop where
  inside : ∀ subtexture ∈ use.live, subtexture.Inside
  disjoint : use.live.Pairwise fun first second =>
    ∀ block, use.atlas.Covers first block → ¬use.atlas.Covers second block
  occupied_iff : ∀ block, block ∈ use.atlas.occupiedBlocks ↔
    ∃ subtexture ∈ use.live, use.atlas.Covers subtexture block

/-- The calls that the atlas gets right. -/
def Sensible (use : AtlasUse) : AtlasCall → Prop
  | .prepare size => use.atlas.Fits size
  | .remove position => position < use.live.length

instance (use : AtlasUse) (call : AtlasCall) : Decidable (use.Sensible call) :=
  match call with
  | .prepare size => inferInstanceAs (Decidable (use.atlas.Fits size))
  | .remove position => inferInstanceAs (Decidable (position < use.live.length))

/-- What holds between sensible calls. -/
structure Sound (use : AtlasUse) : Prop where
  aligned : use.atlas.Aligned
  placed : ∀ subtexture ∈ use.live, use.atlas.Placed subtexture
  disjoint : use.live.Pairwise fun first second =>
    ∀ block, use.atlas.Covers first block → ¬use.atlas.Covers second block
  occupied_iff : ∀ block, block ∈ use.atlas.occupiedBlocks ↔
    ∃ subtexture ∈ use.live, use.atlas.Covers subtexture block

theorem Sound.tidy {use : AtlasUse} (sound : use.Sound) : use.Tidy where
  inside subtexture mem := by
    rcases sound.placed subtexture mem with ⟨location, size, fits, within, rfl⟩
    have positive_x := Nat.lt_of_lt_of_le fits.1.positive fits.1.size_le
    have positive_y := Nat.lt_of_lt_of_le fits.2.positive fits.2.size_le
    exact ⟨fraction_inside positive_x within.1, fraction_inside positive_y within.2⟩
  disjoint := sound.disjoint
  occupied_iff := sound.occupied_iff

theorem sound_create {size : Vec2 UInt32} {alignment : UInt32} {atlas : TextureAtlas}
    (created : TextureAtlas.create size alignment = some atlas) : Sound ⟨atlas, []⟩ := by
  rw [TextureAtlas.create] at created
  split at created
  · rename_i divisible
    cases created
    rcases divisible with ⟨alignment_ne, divides_x, divides_y⟩
    constructor
    · constructor
      · apply Nat.pos_of_ne_zero
        intro zero
        exact alignment_ne (UInt32.toNat_inj.mp zero)
      · have remainder := congrArg UInt32.toNat divides_x
        rw [UInt32.toNat_mod] at remainder
        exact Nat.dvd_of_mod_eq_zero remainder
      · have remainder := congrArg UInt32.toNat divides_y
        rw [UInt32.toNat_mod] at remainder
        exact Nat.dvd_of_mod_eq_zero remainder
    · intro subtexture mem
      cases mem
    · exact List.Pairwise.nil
    · intro block
      simp
  · cases created

/-- A subtexture that is handed out is alive from then on. -/
theorem Sound.prepare {use : AtlasUse} (sound : use.Sound) {blocks : Finset (Vec2 UInt32)}
    {subtexture : Subtexture} (placed : use.atlas.Placed subtexture)
    (free : ∀ block, use.atlas.Covers subtexture block → block ∉ use.atlas.occupiedBlocks)
    (blocks_iff : ∀ block, block ∈ blocks ↔
      block ∈ use.atlas.occupiedBlocks ∨ use.atlas.Covers subtexture block) :
    Sound ⟨{ use.atlas with occupiedBlocks := blocks }, use.live ++ [subtexture]⟩ where
  aligned := ⟨sound.aligned.positive, sound.aligned.divides_x, sound.aligned.divides_y⟩
  placed other mem := by
    rcases List.mem_append.mp mem with before | added
    · exact sound.placed other before
    · rw [List.mem_singleton] at added
      rw [added]
      exact placed
  disjoint := by
    rw [List.pairwise_append]
    refine ⟨sound.disjoint, List.pairwise_singleton _ _, ?_⟩
    intro first firstMem second secondMem block firstCovers secondCovers
    rw [List.mem_singleton] at secondMem
    rw [secondMem] at secondCovers
    exact free block secondCovers ((sound.occupied_iff block).mpr ⟨first, firstMem, firstCovers⟩)
  occupied_iff block := by
    apply (blocks_iff block).trans
    rw [sound.occupied_iff]
    constructor
    · rintro (⟨other, mem, covers⟩ | covers)
      · exact ⟨other, List.mem_append_left _ mem, covers⟩
      · exact ⟨subtexture, List.mem_append_right _ (List.mem_singleton_self _), covers⟩
    · rintro ⟨other, mem, covers⟩
      rcases List.mem_append.mp mem with before | added
      · exact Or.inl ⟨other, before, covers⟩
      · rw [List.mem_singleton] at added
        rw [added] at covers
        exact Or.inr covers

/-- A living subtexture that is removed leaves the blocks of the others occupied. -/
theorem Sound.remove {atlas : TextureAtlas} {before after : List Subtexture}
    {subtexture : Subtexture} (sound : Sound ⟨atlas, before ++ subtexture :: after⟩) :
    Sound ⟨atlas.remove subtexture, before ++ after⟩ := by
  have reordered := sound.disjoint
  rw [List.pairwise_middle fun disjoint block first second => disjoint block second first,
    List.pairwise_cons] at reordered
  have others_mem : ∀ other ∈ before ++ after, other ∈ before ++ subtexture :: after := by
    intro other mem
    rw [List.mem_append, List.mem_cons]
    exact (List.mem_append.mp mem).imp_right Or.inr
  have placed := sound.placed subtexture (List.mem_append_right _ List.mem_cons_self)
  constructor
  · exact ⟨sound.aligned.positive, sound.aligned.divides_x, sound.aligned.divides_y⟩
  · intro other mem
    exact sound.placed other (others_mem other mem)
  · exact reordered.2
  · intro block
    apply (TextureAtlas.mem_remove_iff sound.aligned placed).trans
    rw [sound.occupied_iff]
    constructor
    · rintro ⟨⟨other, mem, covers⟩, notCovers⟩
      have other_ne : other ≠ subtexture := by
        rintro rfl
        exact notCovers covers
      rw [List.mem_append, List.mem_cons] at mem
      refine ⟨other, List.mem_append.mpr (mem.imp_right fun later => ?_), covers⟩
      exact later.resolve_left other_ne
    · rintro ⟨other, mem, covers⟩
      exact ⟨⟨other, others_mem other mem, covers⟩,
        fun own => reordered.1 other mem block own covers⟩

/-- A sensible call is answered and keeps what holds. -/
theorem Sound.step {use : AtlasUse} {call : AtlasCall} (sound : use.Sound)
    (sensible : use.Sensible call) : ∃ next, step use call = some next ∧ next.Sound := by
  cases call with
  | prepare size =>
      rcases TextureAtlas.prepareStorage_spec sound.aligned sensible with
        ⟨blocks, subtexture, prepareEq, -, placed, free, blocks_iff⟩ | ⟨text, prepareEq, -⟩
      · rw [AtlasUse.step, prepareEq]
        exact ⟨_, rfl, sound.prepare placed free blocks_iff⟩
      · rw [AtlasUse.step, prepareEq]
        exact ⟨_, rfl, sound⟩
  | remove position =>
      rcases use with ⟨atlas, live⟩
      have positionLt : position < live.length := sensible
      have split_eq : live = live.take position ++ live[position] :: live.drop (position + 1) := by
        rw [List.cons_getElem_drop_succ, List.take_append_drop]
      refine ⟨⟨atlas.remove live[position], live.eraseIdx position⟩, ?_, ?_⟩
      · rw [AtlasUse.step, List.getElem?_eq_getElem positionLt]
        rfl
      · rw [List.eraseIdx_eq_take_drop_succ]
        apply Sound.remove
        rw [← split_eq]
        exact sound

/-- Whatever calls are made, if no size is larger than the atlas, the living rectangles lie
inside it and do not share a block, the occupied blocks are theirs, and storage is refused
if and only if there is no room for it, without a trace. -/
theorem tidy_of_sensible {size : Vec2 UInt32} {alignment : UInt32} {atlas : TextureAtlas}
    (created : TextureAtlas.create size alignment = some atlas) {calls : List AtlasCall}
    (sensible : Guarded step Sensible ⟨atlas, []⟩ calls) :
    ∃ final, run step ⟨atlas, []⟩ calls = some final ∧ final.Tidy ∧
      ∀ requested, final.atlas.Fits requested →
        ∃ after result, final.atlas.prepareStorage requested = some (after, result) ∧
          ((∃ text, result = .error text) ↔
            ∀ location, ¬final.atlas.FreeAt requested location) ∧
          ∀ text, result = .error text → after = final.atlas := by
  have progress : ∀ (use : AtlasUse) call, use.Sound → use.Sensible call →
      ∃ next, step use call = some next ∧ next.Sound :=
    fun _ _ sound sensibleCall => sound.step sensibleCall
  rcases exists_run progress (sound_create created) sensible with ⟨final, runEq, sound⟩
  refine ⟨final, runEq, sound.tidy, ?_⟩
  intro requested fits
  rcases TextureAtlas.prepareStorage_spec sound.aligned fits with
    ⟨blocks, subtexture, prepareEq, ⟨location, free⟩, -⟩ | ⟨text, prepareEq, none⟩
  · refine ⟨_, _, prepareEq, ?_, ?_⟩
    · constructor
      · rintro ⟨text, absurdEq⟩
        cases absurdEq
      · intro none
        exact absurd free (none location)
    · intro text absurdEq
      cases absurdEq
  · exact ⟨_, _, prepareEq, ⟨fun _ => none, fun _ => ⟨text, rfl⟩⟩, fun _ _ => rfl⟩

/-- An atlas of four by four blocks. -/
def smallAtlas : TextureAtlas :=
  ⟨⟨32, 32⟩, 8, ∅⟩

/-- Storage is prepared for some sizes, and some of it is given back. -/
def mixedCalls : List AtlasCall :=
  [.prepare ⟨8, 8⟩, .prepare ⟨20, 30⟩, .remove 0, .prepare ⟨9, 32⟩, .prepare ⟨8, 24⟩]

theorem tidy_mixedCalls :
    ∃ final, run step ⟨smallAtlas, []⟩ mixedCalls = some final ∧ final.Tidy ∧
      ∀ requested, final.atlas.Fits requested →
        ∃ after result, final.atlas.prepareStorage requested = some (after, result) ∧
          ((∃ text, result = .error text) ↔
            ∀ location, ¬final.atlas.FreeAt requested location) ∧
          ∀ text, result = .error text → after = final.atlas :=
  tidy_of_sensible (by decide +kernel : TextureAtlas.create ⟨32, 32⟩ 8 = some smallAtlas)
    (by decide +kernel)

/-- A texture that is wider than the atlas is not refused. -/
theorem too_wide_accepted :
    (∃ after subtexture,
      smallAtlas.prepareStorage ⟨40, 8⟩ = some (after, .ok subtexture) ∧ ¬subtexture.Inside) ∧
    ∀ location, ¬smallAtlas.FreeAt ⟨40, 8⟩ location := by
  constructor
  · refine ⟨smallAtlas.markStorage true ⟨0, 0⟩ ⟨5, 1⟩, smallAtlas.subtextureAt ⟨0, 0⟩ ⟨40, 8⟩, ?_,
      ?_⟩
    · have foundEq : smallAtlas.findStorage (smallAtlas.unalignedToBlockpos ⟨40, 8⟩) =
          .found ⟨0, 0⟩ := by
        decide +kernel
      rw [TextureAtlas.prepareStorage, foundEq]
      rfl
    · rintro ⟨⟨-, absurd⟩, -⟩
      revert absurd
      decide +kernel
  · rintro location ⟨⟨within, -⟩, -⟩
    have wide : location.x * 8 + 40 ≤ 32 := within
    omega

end AtlasUse

end VoxelEngine.Graphics
