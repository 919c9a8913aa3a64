import VoxelEngine.Graphics.AtlasAllocation
import VoxelEngine.Graphics.TextureAtlas
import Mathlib.Data.Finset.Lattice.Lemmas

/-!
# Storage for a group of textures

If an atlas has no room for all sizes of a group, then the storage that was prepared for the first
ones is given back, after which the same blocks are occupied as before.
-/

namespace VoxelEngine.Graphics

open VoxelEngine.Data

/-- The rectangle of a subtexture is not empty. -/
def Subtexture.solid (subtexture : Subtexture) : Bool :=
  decide (subtexture.wh.x ≠ 0 ∧ subtexture.wh.y ≠ 0)

namespace TextureAtlas

/-- A size that is not larger than the atlas, and can be rounded up to blocks without going past
the greatest number.  It may be empty. -/
structure Admits (atlas : TextureAtlas) (size : Vec2 UInt32) : Prop where
  le_x : size.x.toNat ≤ atlas.atlasSize.x.toNat
  le_y : size.y.toNat ≤ atlas.atlasSize.y.toNat
  rounding_x : size.x.toNat + atlas.atlasAlignment.toNat ≤ UInt32.size
  rounding_y : size.y.toNat + atlas.atlasAlignment.toNat ≤ UInt32.size

/-- The search finds a location for each size of a group, after those of the sizes before it are
occupied. -/
def Takes (atlas : TextureAtlas) : List (Vec2 UInt32) → Prop
  | [] => True
  | size :: rest => ∃ location,
      atlas.findStorage (atlas.unalignedToBlockpos size) = .found location ∧
        (atlas.markStorage true location (atlas.unalignedToBlockpos size)).Takes rest

/-- Two states of one atlas. -/
def SameFrame (before after : TextureAtlas) : Prop :=
  after.atlasSize = before.atlasSize ∧ after.atlasAlignment = before.atlasAlignment

/-- The occupied blocks of an atlas are those of its living subtextures, which do not share any.
The empty ones are in the corner. -/
structure Keeps (atlas : TextureAtlas) (live : List Subtexture) : Prop where
  sound : AtlasUse.Sound ⟨atlas, live.filter Subtexture.solid⟩
  corner : ∀ subtexture ∈ live, subtexture.solid = false → subtexture.uv = ⟨0, 0⟩

section Frame

variable {atlas next last : TextureAtlas} {size : Vec2 UInt32}

theorem SameFrame.refl (atlas : TextureAtlas) : SameFrame atlas atlas :=
  ⟨rfl, rfl⟩

theorem SameFrame.trans (first : SameFrame atlas next) (second : SameFrame next last) :
    SameFrame atlas last :=
  ⟨second.1.trans first.1, second.2.trans first.2⟩

theorem sameFrame_markStorage (atlas : TextureAtlas) (occupied : Bool)
    (location size : Vec2 UInt32) : SameFrame atlas (atlas.markStorage occupied location size) :=
  ⟨rfl, rfl⟩

theorem sameFrame_remove (atlas : TextureAtlas) (subtexture : Subtexture) :
    SameFrame atlas (atlas.remove subtexture) :=
  ⟨rfl, rfl⟩

theorem SameFrame.admits (same : SameFrame atlas next) (admits : atlas.Admits size) :
    next.Admits size := by
  rcases admits with ⟨le_x, le_y, rounding_x, rounding_y⟩
  exact ⟨by rwa [same.1], by rwa [same.1], by rwa [same.2], by rwa [same.2]⟩

theorem SameFrame.covers_iff (same : SameFrame atlas next) (subtexture : Subtexture)
    (block : Vec2 UInt32) : next.Covers subtexture block ↔ atlas.Covers subtexture block := by
  rw [Covers, Covers, same.1, same.2]

end Frame

section Empty

variable {atlas : TextureAtlas} {size location : Vec2 UInt32} {subtexture : Subtexture}

/-! ## Empty rectangles -/

theorem blockCoordinate_zero {alignment : UInt32} (aligned : 0 < alignment.toNat) :
    blockCoordinate alignment 0 = 0 := by
  have alignment_lt := alignment.toNat_lt
  have zero : (0 : UInt32).toNat = 0 := rfl
  apply UInt32.toNat_inj.mp
  rw [toNat_blockCoordinate aligned, blocksFor, zero, Nat.zero_add]
  · exact Nat.div_eq_of_lt (Nat.sub_lt aligned Nat.one_pos)
  · rw [zero, Nat.zero_add, UInt32.size]
    omega

@[simp]
theorem counters_self (first : UInt32) : counters first first = [] := by
  rw [counters, Nat.sub_self]
  rfl

/-- No blocks are marked for an empty rectangle. -/
theorem markStorage_empty (atlas : TextureAtlas) (occupied : Bool) (location : Vec2 UInt32)
    (empty : size.x = 0 ∨ size.y = 0) : atlas.markStorage occupied location size = atlas := by
  have none : (counters location.x (location.x + size.x)).flatMap (fun x =>
      (counters location.y (location.y + size.y)).map fun y => (⟨x, y⟩ : Vec2 UInt32)) = [] := by
    rcases empty with zero | zero
    · rw [zero, UInt32.add_zero, counters_self]
      rfl
    · rw [zero, UInt32.add_zero, counters_self]
      exact List.flatMap_eq_nil_iff.mpr fun _ _ => rfl
  rw [markStorage, none, List.toFinset_nil]
  cases occupied with
  | true => rw [if_pos rfl, Finset.union_empty]
  | false => rw [if_neg Bool.false_ne_true, Finset.sdiff_empty]

/-- Removing an empty subtexture changes nothing. -/
theorem remove_empty (aligned : atlas.Aligned) (empty : subtexture.solid = false) :
    atlas.remove subtexture = atlas := by
  have zero : truncate 0 = 0 := truncate_exact 0
  apply markStorage_empty
  have sides : subtexture.wh.x = 0 ∨ subtexture.wh.y = 0 := by
    rw [Subtexture.solid, decide_eq_false_iff_not, not_and_or, not_not, not_not] at empty
    exact empty
  rcases sides with side | side
  · apply Or.inl
    change blockCoordinate _ (truncate (subtexture.wh.x * _)) = 0
    rw [side, zero_mul, zero, blockCoordinate_zero aligned.positive]
  · apply Or.inr
    change blockCoordinate _ (truncate (subtexture.wh.y * _)) = 0
    rw [side, zero_mul, zero, blockCoordinate_zero aligned.positive]

/-- An empty subtexture in the corner has no part of its inside in common with a block. -/
theorem not_covers_empty (empty : subtexture.solid = false) (corner : subtexture.uv = ⟨0, 0⟩)
    (block : Vec2 UInt32) : ¬atlas.Covers subtexture block := by
  have not_negative : ∀ coordinate : UInt32,
      ¬exact coordinate * exact atlas.atlasAlignment < 0 := by
    intro coordinate
    apply not_lt_of_ge
    exact mul_nonneg (Nat.cast_nonneg _) (Nat.cast_nonneg _)
  rw [Subtexture.solid, decide_eq_false_iff_not, not_and_or, not_not, not_not] at empty
  rintro ⟨⟨_, high_x⟩, _, high_y⟩
  rw [corner, zero_add] at high_x high_y
  rcases empty with side | side
  · rw [side, zero_mul] at high_x
    exact not_negative _ high_x
  · rw [side, zero_mul] at high_y
    exact not_negative _ high_y

/-- A search that is done at once. -/
theorem scan_eq_found {α : Type} {body : UInt32 → Scan α} {value : α} (last : UInt32)
    (first : body 0 = .found value) : scan last body = .found value := by
  rw [scan, scanFrom, first]

/-- There is always room for an empty rectangle. -/
theorem findStorage_empty (empty : size.x = 0 ∨ size.y = 0) :
    atlas.findStorage size = .found ⟨0, 0⟩ := by
  have free : atlas.isFree ⟨0, 0⟩ size = true := by
    rw [isFree, List.all_eq_true]
    intro dx mem
    rw [List.all_eq_true]
    intro dy other
    rcases empty with zero | zero
    · rw [zero, counters_self] at mem
      cases mem
    · rw [zero, counters_self] at other
      cases other
  apply scan_eq_found
  apply scan_eq_found
  rw [if_pos free]

theorem unalignedToBlockpos_empty (aligned : atlas.Aligned) (empty : size.x = 0 ∨ size.y = 0) :
    (atlas.unalignedToBlockpos size).x = 0 ∨ (atlas.unalignedToBlockpos size).y = 0 := by
  rcases empty with zero | zero
  · apply Or.inl
    rw [unalignedToBlockpos, zero, blockCoordinate_zero aligned.positive]
  · apply Or.inr
    rw [unalignedToBlockpos, zero, blockCoordinate_zero aligned.positive]

theorem not_solid_subtextureAt (empty : size.x = 0 ∨ size.y = 0) :
    (atlas.subtextureAt location size).solid = false := by
  have zero : exact 0 = 0 := Nat.cast_zero
  rw [Subtexture.solid, decide_eq_false_iff_not, not_and_or, not_not, not_not]
  rcases empty with side | side
  · apply Or.inl
    rw [subtextureAt, side, zero, zero_div]
  · apply Or.inr
    rw [subtextureAt, side, zero, zero_div]

theorem solid_subtextureAt (fits : atlas.Fits size) :
    (atlas.subtextureAt location size).solid = true := by
  have quotient_ne : ∀ {extent alignment size : UInt32}, FitsAxis extent alignment size →
      exact size / exact extent ≠ 0 := by
    intro extent alignment size fitsAxis
    apply div_ne_zero
    · exact (exact_pos fitsAxis.positive).ne'
    · exact (exact_pos (Nat.lt_of_lt_of_le fitsAxis.positive fitsAxis.size_le)).ne'
  rw [Subtexture.solid, decide_eq_true_iff]
  exact ⟨quotient_ne fits.1, quotient_ne fits.2⟩

@[simp]
theorem uv_subtextureAt_zero (atlas : TextureAtlas) (size : Vec2 UInt32) :
    (atlas.subtextureAt ⟨0, 0⟩ size).uv = ⟨0, 0⟩ := by
  have zero : exact 0 = 0 := Nat.cast_zero
  rw [subtextureAt, UInt32.zero_mul, zero, zero_div, zero_div]

theorem Admits.fits (admits : atlas.Admits size) (nonempty : ¬(size.x = 0 ∨ size.y = 0)) :
    atlas.Fits size := by
  have positive : ∀ {coordinate : UInt32}, coordinate ≠ 0 → 0 < coordinate.toNat := by
    intro coordinate coordinate_ne
    apply Nat.pos_of_ne_zero
    intro zero
    exact coordinate_ne (UInt32.toNat_inj.mp zero)
  rw [not_or] at nonempty
  exact ⟨⟨positive nonempty.1, admits.le_x, admits.rounding_x⟩,
    ⟨positive nonempty.2, admits.le_y, admits.rounding_y⟩⟩

end Empty

section Group

variable {atlas next last : TextureAtlas} {size : Vec2 UInt32} {sizes : List (Vec2 UInt32)}
  {live result : List Subtexture} {subtexture : Subtexture}

/-! ## One size -/

/-- The fractions of the atlas that a size makes up. -/
def fraction (atlas : TextureAtlas) (size : Vec2 UInt32) : Vec2 ℚ :=
  ⟨exact size.x / exact atlas.atlasSize.x, exact size.y / exact atlas.atlasSize.y⟩

theorem Keeps.disjoint (keeps : atlas.Keeps live) :
    live.Pairwise fun first second =>
      ∀ block, atlas.Covers first block → ¬atlas.Covers second block := by
  have solids := List.pairwise_filter.mp keeps.sound.disjoint
  refine List.Pairwise.imp_of_mem ?_ solids
  intro first second firstMem secondMem apart block firstCovers secondCovers
  have solid : ∀ subtexture ∈ live, atlas.Covers subtexture block →
      subtexture.solid = true := by
    intro subtexture mem covers
    by_contra empty
    have isEmpty := Bool.eq_false_of_not_eq_true empty
    exact not_covers_empty isEmpty (keeps.corner subtexture mem isEmpty) block covers
  exact apart (solid first firstMem firstCovers) (solid second secondMem secondCovers) block
    firstCovers secondCovers

theorem Keeps.occupied_iff (keeps : atlas.Keeps live) (block : Vec2 UInt32) :
    block ∈ atlas.occupiedBlocks ↔ ∃ subtexture ∈ live, atlas.Covers subtexture block := by
  apply (keeps.sound.occupied_iff block).trans
  constructor
  · rintro ⟨subtexture, mem, covers⟩
    exact ⟨subtexture, (List.mem_filter.mp mem).1, covers⟩
  · rintro ⟨subtexture, mem, covers⟩
    refine ⟨subtexture, List.mem_filter.mpr ⟨mem, ?_⟩, covers⟩
    by_contra empty
    have isEmpty := Bool.eq_false_of_not_eq_true empty
    exact not_covers_empty isEmpty (keeps.corner subtexture mem isEmpty) block covers

/-- The same living subtextures leave only one state of an atlas. -/
theorem Keeps.ext (keeps : atlas.Keeps live) (others : next.Keeps live)
    (same : SameFrame atlas next) : next = atlas := by
  have blocks_eq : next.occupiedBlocks = atlas.occupiedBlocks := by
    ext block
    rw [others.occupied_iff, keeps.occupied_iff]
    simp only [same.covers_iff]
  rcases atlas with ⟨atlasSize, atlasAlignment, occupiedBlocks⟩
  rcases next with ⟨nextSize, nextAlignment, nextBlocks⟩
  rcases same with ⟨size_eq, alignment_eq⟩
  cases size_eq
  cases alignment_eq
  cases blocks_eq
  rfl

/-- Preparing storage for a size that the atlas admits. -/
theorem Keeps.prepare (keeps : atlas.Keeps live) (admits : atlas.Admits size) :
    (∃ location, atlas.findStorage (atlas.unalignedToBlockpos size) = .found location ∧
        (atlas.markStorage true location (atlas.unalignedToBlockpos size)).Keeps
          (live ++ [atlas.subtextureAt location size])) ∨
      atlas.findStorage (atlas.unalignedToBlockpos size) = .exhausted := by
  have aligned : atlas.Aligned := keeps.sound.aligned
  by_cases empty : size.x = 0 ∨ size.y = 0
  · have blocks := unalignedToBlockpos_empty aligned empty
    refine Or.inl ⟨⟨0, 0⟩, findStorage_empty blocks, ?_⟩
    rw [markStorage_empty atlas true ⟨0, 0⟩ blocks]
    have notSolid : (atlas.subtextureAt ⟨0, 0⟩ size).solid = false := not_solid_subtextureAt empty
    constructor
    · rw [List.filter_append, List.filter_cons_of_neg (by rw [notSolid]; exact Bool.false_ne_true),
        List.filter_nil, List.append_nil]
      exact keeps.sound
    · intro subtexture mem isEmpty
      rcases List.mem_append.mp mem with before | added
      · exact keeps.corner subtexture before isEmpty
      · rw [List.mem_singleton.mp added]
        exact uv_subtextureAt_zero atlas size
  · have fits := admits.fits empty
    rcases findStorage_spec aligned fits with ⟨location, within, free, foundEq⟩ | ⟨_, noneEq⟩
    · refine Or.inl ⟨location, foundEq, ?_⟩
      have solid : (atlas.subtextureAt location size).solid = true := solid_subtextureAt fits
      constructor
      · rw [List.filter_append, List.filter_cons_of_pos solid, List.filter_nil]
        refine @AtlasUse.Sound.prepare ⟨atlas, live.filter Subtexture.solid⟩ keeps.sound _
          (atlas.subtextureAt location size) ⟨location, size, fits, within, rfl⟩ ?_ ?_
        · intro block covers
          exact free block ((covers_subtextureAt_iff aligned fits within).mp covers)
        · intro block
          have marked := @mem_markStorage_iff atlas size location aligned fits within true block
          rw [if_pos rfl, ← covers_subtextureAt_iff aligned fits within] at marked
          exact marked
      · intro subtexture mem isEmpty
        rcases List.mem_append.mp mem with before | added
        · exact keeps.corner subtexture before isEmpty
        · rw [List.mem_singleton.mp added, solid] at isEmpty
          cases isEmpty
    · exact Or.inr noneEq

/-- Removing a living subtexture. -/
theorem Keeps.remove {before after : List Subtexture}
    (keeps : atlas.Keeps (before ++ subtexture :: after)) :
    (atlas.remove subtexture).Keeps (before ++ after) := by
  have aligned := keeps.sound.aligned
  have corner : ∀ other ∈ before ++ after, other.solid = false → other.uv = ⟨0, 0⟩ := by
    intro other mem
    apply keeps.corner
    rw [List.mem_append, List.mem_cons]
    exact (List.mem_append.mp mem).imp_right Or.inr
  have sound := keeps.sound
  rw [List.filter_append] at sound
  cases solid : subtexture.solid with
  | true =>
      rw [List.filter_cons_of_pos solid] at sound
      refine ⟨?_, corner⟩
      rw [List.filter_append]
      exact sound.remove
  | false =>
      rw [List.filter_cons_of_neg (by rw [solid]; exact Bool.false_ne_true),
        ← List.filter_append] at sound
      rw [remove_empty aligned solid]
      exact ⟨sound, corner⟩

/-! ## All sizes -/

/-- What was prepared for a group is given back. -/
theorem Keeps.giveBack (keeps : atlas.Keeps (live ++ result)) :
    (result.foldl TextureAtlas.remove atlas).Keeps live ∧
      SameFrame atlas (result.foldl TextureAtlas.remove atlas) := by
  induction result generalizing atlas with
  | nil =>
      rw [List.append_nil] at keeps
      exact ⟨keeps, SameFrame.refl atlas⟩
  | cons subtexture rest ih =>
      rcases ih keeps.remove with ⟨restKeeps, same⟩
      exact ⟨restKeeps, (sameFrame_remove atlas subtexture).trans same⟩

/-- The loop over the sizes of a group. -/
theorem Keeps.prepareEach (keeps : atlas.Keeps (live ++ result))
    (admits : ∀ size ∈ sizes, atlas.Admits size) :
    (∃ reached regions, atlas.prepareEach result sizes = some (reached, result ++ regions, none) ∧
        SameFrame atlas reached ∧ reached.Keeps (live ++ (result ++ regions)) ∧
        List.Forall₂ (fun size region => region.wh = atlas.fraction size) sizes regions ∧
        atlas.Takes sizes) ∨
      (∃ reached regions text,
        atlas.prepareEach result sizes = some (reached, result ++ regions, some text) ∧
        SameFrame atlas reached ∧ reached.Keeps (live ++ (result ++ regions)) ∧
        ¬atlas.Takes sizes) := by
  induction sizes generalizing atlas result with
  | nil =>
      refine Or.inl ⟨atlas, [], ?_, SameFrame.refl atlas, ?_, List.Forall₂.nil, trivial⟩
      · rw [TextureAtlas.prepareEach, List.append_nil]
      · rwa [List.append_nil]
  | cons size rest ih =>
      rcases keeps.prepare (admits size List.mem_cons_self) with ⟨location, foundEq, nextKeeps⟩ | noneEq
      · have prepareEq : atlas.prepareStorage size =
            some (atlas.markStorage true location (atlas.unalignedToBlockpos size),
              .ok (atlas.subtextureAt location size)) := by
          rw [prepareStorage, foundEq]
        have same := sameFrame_markStorage atlas true location (atlas.unalignedToBlockpos size)
        rw [List.append_assoc] at nextKeeps
        rw [TextureAtlas.prepareEach, prepareEq]
        rcases ih nextKeeps fun other mem =>
            same.admits (admits other (List.mem_cons_of_mem _ mem)) with
          ⟨reached, regions, restEq, restSame, restKeeps, shapes, takes⟩ |
          ⟨reached, regions, text, restEq, restSame, restKeeps, notTakes⟩
        · refine Or.inl ⟨reached, atlas.subtextureAt location size :: regions, ?_,
            same.trans restSame, ?_, List.Forall₂.cons rfl shapes, ⟨location, foundEq, takes⟩⟩
          · rw [List.append_cons result]
            exact restEq
          · rw [List.append_cons result]
            exact restKeeps
        · refine Or.inr ⟨reached, atlas.subtextureAt location size :: regions, text, ?_,
            same.trans restSame, ?_, ?_⟩
          · rw [List.append_cons result]
            exact restEq
          · rw [List.append_cons result]
            exact restKeeps
          · rintro ⟨other, otherEq, takes⟩
            cases foundEq.symm.trans otherEq
            exact notTakes takes
      · have prepareEq : ∃ text, atlas.prepareStorage size = some (atlas, .error text) :=
          ⟨_, by rw [prepareStorage, noneEq]⟩
        rcases prepareEq with ⟨text, prepareEq⟩
        rw [TextureAtlas.prepareEach, prepareEq]
        refine Or.inr ⟨atlas, [], text, ?_, SameFrame.refl atlas, ?_, ?_⟩
        · rw [List.append_nil]
        · rwa [List.append_nil]
        · rintro ⟨location, foundEq, _⟩
          cases noneEq.symm.trans foundEq

/-- A group is stored in an atlas that takes it, and leaves any other one as it is. -/
theorem Keeps.prepareStorageForAll (keeps : atlas.Keeps live)
    (admits : ∀ size ∈ sizes, atlas.Admits size) :
    (∃ reached regions, atlas.prepareStorageForAll sizes = some (reached, .ok regions) ∧
        SameFrame atlas reached ∧ reached.Keeps (live ++ regions) ∧
        List.Forall₂ (fun size region => region.wh = atlas.fraction size) sizes regions ∧
        atlas.Takes sizes) ∨
      (∃ text, atlas.prepareStorageForAll sizes = some (atlas, .error text)) ∧
        ¬atlas.Takes sizes := by
  have start : atlas.Keeps (live ++ []) := by rwa [List.append_nil]
  rcases start.prepareEach admits with
    ⟨reached, regions, eachEq, same, reachedKeeps, shapes, takes⟩ |
    ⟨reached, regions, text, eachEq, same, reachedKeeps, notTakes⟩
  · rw [List.nil_append] at eachEq reachedKeeps
    refine Or.inl ⟨reached, regions, ?_, same, reachedKeeps, shapes, takes⟩
    rw [TextureAtlas.prepareStorageForAll, eachEq]
  · rw [List.nil_append] at eachEq reachedKeeps
    refine Or.inr ⟨⟨text, ?_⟩, notTakes⟩
    rcases reachedKeeps.giveBack with ⟨restored, sameRestored⟩
    rw [TextureAtlas.prepareStorageForAll, eachEq]
    simp only [keeps.ext restored (same.trans sameRestored)]

end Group

end TextureAtlas

end VoxelEngine.Graphics
