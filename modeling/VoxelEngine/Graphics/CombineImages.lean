import VoxelEngine.Graphics.Resampling
import Mathlib.Algebra.BigOperators.Fin

/-!
# Combining images

Each image is converted to a single channel, the weighted average of its source channels, and is
then added to the destination channels.  Reading or writing where there is no pixel, dividing by
zero and converting a number that is out of range have no result.
-/

namespace VoxelEngine.Graphics

open Data

variable {T : Type} {rows : Nat}

/-- The masks of `combine_image_data`, one number for each channel there can be. -/
abbrev ChannelMask :=
  Fin 4 → Int8

/-- `combine_image_data` -/
structure CombineImageData (T : Type) (rows : Nat) where
  src : Image (Pixel T rows)
  sourceChannels : ChannelMask
  destChannels : ChannelMask

/-- Add up a number for each channel. -/
def total (number : Fin rows → ℚ) : ℚ :=
  (List.finRange rows).foldl (fun sum channel => sum + number channel) 0

/-- The part of a mask for the channels of a pixel, as weights. -/
def weightsOf (few : rows ≤ 4) (mask : ChannelMask) : Fin rows → ℚ := fun channel =>
  (mask (channel.castLE few)).toInt

/-- The weighted average of the channels of a pixel. -/
def weightedAverage (type : ChannelType T) (weights : Fin rows → ℚ) (pixel : Pixel T rows) : ℚ :=
  total fun channel => weights channel / total weights * type.exact (pixel channel)

/-- `to_grayscale` -/
def toGrayscale (type : ChannelType T) (src : Image (Pixel T rows)) (weights : Fin rows → ℚ) :
    Option (Image T) :=
  if total weights = 0 then none
  else do
    let grays ← src.data.mapM fun pixel => type.convert (weightedAverage type weights pixel)
    let data ← changeEach (fun _ gray => gray) (filledImage src.size type.zero).data grays
    pure ⟨data, src.size⟩

/-- The gray values that are added to the pixels of the destination, in their order.  A single
pixel is used everywhere, and an image of the right size as it is. -/
def grayValues (src : Image (Pixel T rows)) (gray : Image T) (size : Vec2 UInt32) :
    Option (List T) :=
  if src.data.length = 1 then (positions size).mapM fun _ => gray.data[0]?
  else if src.size = size then (List.range src.data.length).mapM fun index => gray.data[index]?
  else
    (positions size).mapM fun place =>
      NearestNeighbour.sample gray place (scaleFactor src.size size)

/-- Add a gray value to the destination channels of a pixel. -/
def addGray (type : ChannelType T) (few : rows ≤ 4) (mask : ChannelMask) (pixel : Pixel T rows)
    (gray : T) : Pixel T rows := fun channel =>
  type.add (pixel channel) (type.mul gray (type.ofMask (mask (channel.castLE few))))

/-- What the loop of `combine_images` does with one image. -/
def combineImage (type : ChannelType T) (few : rows ≤ 4) (result : Image (Pixel T rows))
    (image : CombineImageData T rows) : Option (Image (Pixel T rows)) := do
  let gray ← toGrayscale type image.src (weightsOf few image.sourceChannels)
  let values ← grayValues image.src gray result.size
  let data ← changeEach (addGray type few image.destChannels) result.data values
  pure ⟨data, result.size⟩

/-- `combine_images`, if its assertions hold. -/
def combineImages (type : ChannelType T) (few : rows ≤ 4) (images : List (CombineImageData T rows))
    (size : Vec2 UInt32) : Option (Image (Pixel T rows)) :=
  images.foldlM (combineImage type few) (filledImage size fun _ => type.zero)

/-- The size and the masks of an image. -/
structure ImageShape where
  size : Vec2 UInt32
  sourceChannels : ChannelMask
  destChannels : ChannelMask

def CombineImageData.shape (image : CombineImageData T rows) : ImageShape :=
  ⟨image.src.size, image.sourceChannels, image.destChannels⟩

/-- The assertions of `combine_images`. -/
structure Admitted (rows : Nat) (shapes : List ImageShape) : Prop where
  atMostOne : ∀ channel, shapes.foldl (fun sum shape =>
    sum + UInt64.ofInt (shape.destChannels channel).toInt) 0 ≤ 1
  sourceInPixel : ∀ shape ∈ shapes, ∀ channel : Fin 4, rows ≤ channel.val →
    shape.sourceChannels channel = 0
  destInPixel : ∀ shape ∈ shapes, ∀ channel : Fin 4, rows ≤ channel.val →
    shape.destChannels channel = 0

/-- There are pixels, and they can be counted with 32 bits. -/
structure Countable (size : Vec2 UInt32) : Prop where
  nonempty : size.x ≠ 0 ∧ size.y ≠ 0
  small : size.x.toNat * size.y.toNat < 4294967296

/-! ## One image -/

variable {type : ChannelType T} {few : rows ≤ 4} {src : Image (Pixel T rows)}
  {weights : Fin rows → ℚ} {size : Vec2 UInt32}

theorem pixelCount_lt (size : Vec2 UInt32) : pixelCount size < 4294967296 :=
  UInt32.toNat_lt _

/-- What is needed for a gray image. -/
theorem exists_toGrayscale_iff :
    (∃ gray, toGrayscale type src weights = some gray) ↔
      total weights ≠ 0 ∧
        (∀ pixel ∈ src.data, ∃ gray, type.convert (weightedAverage type weights pixel) =
          some gray) ∧
        src.data.length ≤ pixelCount src.size := by
  unfold toGrayscale
  split
  · rename_i zero
    simp [zero]
  · rename_i nonzero
    rw [← exists_mapM_iff]
    simp only [Option.bind_eq_bind, Option.pure_def, Option.bind_eq_some_iff, Option.some.injEq]
    constructor
    · rintro ⟨_, grays, graysEq, data, dataEq, _⟩
      have enough := exists_changeEach_iff.mp ⟨data, dataEq⟩
      rw [length_of_mapM graysEq, filledImage, List.length_replicate] at enough
      exact ⟨nonzero, ⟨grays, graysEq⟩, enough⟩
    · rintro ⟨_, ⟨grays, graysEq⟩, enough⟩
      have writable : grays.length ≤ (filledImage src.size type.zero).data.length := by
        rw [length_of_mapM graysEq, filledImage, List.length_replicate]
        exact enough
      rcases exists_changeEach_iff.mpr writable with ⟨data, dataEq⟩
      exact ⟨_, grays, graysEq, data, dataEq, rfl⟩

/-- The gray image of a countable one has the converted average of each pixel. -/
theorem toGrayscale_spec {gray : Image T} (wellFormed : src.WellFormed)
    (small : src.size.x.toNat * src.size.y.toNat < 4294967296)
    (grayEq : toGrayscale type src weights = some gray) :
    gray.size = src.size ∧ gray.data.length = src.data.length ∧
      ∀ index : Nat, gray.data[index]? =
        src.data[index]?.bind fun pixel => type.convert (weightedAverage type weights pixel) := by
  unfold toGrayscale at grayEq
  split at grayEq
  · cases grayEq
  · simp only [Option.bind_eq_bind, Option.pure_def, Option.bind_eq_some_iff,
      Option.some.injEq] at grayEq
    rcases grayEq with ⟨grays, graysEq, data, dataEq, rfl⟩
    have full : grays.length = (filledImage src.size type.zero).data.length := by
      rw [length_of_mapM graysEq, filledImage, List.length_replicate, pixelCount_eq small]
      exact wellFormed
    rw [changeEach_replace full, Option.some.injEq] at dataEq
    rw [← dataEq]
    exact ⟨rfl, length_of_mapM graysEq, getElem?_of_mapM graysEq⟩

/-- A single pixel is the one that is sampled. -/
theorem rowIndex_single {place : Vec2 UInt32} (single : size.x.toNat * size.y.toNat = 1)
    (inside : Inside size place) : rowIndex size place = 0 := by
  have lt := rowIndex_lt inside
  omega

/-- In all three cases the value for a position is that of the position that is sampled. -/
theorem grayValues_spec {gray : Image T} (wellFormed : src.WellFormed)
    (countable : Countable src.size) (sameSize : gray.size = src.size)
    (full : gray.data.length = src.data.length) :
    ∃ values, grayValues src gray size = some values ∧
      values.length = size.x.toNat * size.y.toNat ∧
      ∀ place, Inside size place →
        values[rowIndex size place]? = gray.data[rowIndex src.size
          (NearestNeighbour.position src.size place (scaleFactor src.size size))]? := by
  have sampled : ∀ place, Inside src.size (NearestNeighbour.position src.size place
      (scaleFactor src.size size)) := fun place =>
    NearestNeighbour.position_inside _ _ _ countable.nonempty
  have length_eq : gray.data.length = src.size.x.toNat * src.size.y.toNat :=
    full.trans wellFormed
  unfold grayValues
  split
  · rename_i single
    have first : 0 < gray.data.length := by omega
    have each : ∀ place ∈ positions size, ∃ value, gray.data[0]? = some value := fun _ _ =>
      ⟨gray.data[0], List.getElem?_eq_getElem first⟩
    rcases exists_mapM_iff.mpr each with ⟨values, valuesEq⟩
    refine ⟨values, valuesEq, by rw [length_of_mapM valuesEq, length_positions], ?_⟩
    intro place inside
    rw [getElem?_of_mapM valuesEq, getElem?_positions inside, Option.bind_some,
      rowIndex_single (wellFormed.symm.trans single) (sampled place)]
  · split
    · rename_i same
      have each : ∀ index ∈ List.range src.data.length, ∃ value, gray.data[index]? =
          some value := by
        intro index mem
        rw [List.mem_range, ← full] at mem
        exact ⟨gray.data[index], List.getElem?_eq_getElem mem⟩
      rcases exists_mapM_iff.mpr each with ⟨values, valuesEq⟩
      rw [← same]
      refine ⟨values, valuesEq, by rw [length_of_mapM valuesEq, List.length_range, wellFormed], ?_⟩
      intro place inside
      have lt := rowIndex_lt inside
      have itself : NearestNeighbour.position src.size place (scaleFactor src.size src.size) =
          place := by
        unfold NearestNeighbour.position scaleFactor
        rw [NearestNeighbour.coordinate_same inside.1, NearestNeighbour.coordinate_same inside.2]
      rw [← wellFormed] at lt
      rw [getElem?_of_mapM valuesEq, List.getElem?_range lt, Option.bind_some, itself]
    · have read : ∀ place, NearestNeighbour.sample gray place (scaleFactor src.size size) =
          gray.data[rowIndex src.size
            (NearestNeighbour.position src.size place (scaleFactor src.size size))]? := by
        intro place
        have inside := sampled place
        rw [← sameSize] at inside
        unfold NearestNeighbour.sample
        rw [← sameSize, Image.get_eq inside (by rw [sameSize]; exact countable.small)]
      have each : ∀ place ∈ positions size, ∃ value,
          NearestNeighbour.sample gray place (scaleFactor src.size size) = some value := by
        intro place _
        have lt := rowIndex_lt (sampled place)
        rw [← length_eq] at lt
        exact ⟨_, (read place).trans (List.getElem?_eq_getElem lt)⟩
      rcases exists_mapM_iff.mpr each with ⟨values, valuesEq⟩
      refine ⟨values, valuesEq, by rw [length_of_mapM valuesEq, length_positions], ?_⟩
      intro place inside
      rw [getElem?_of_mapM valuesEq, getElem?_positions inside, Option.bind_some, read]

/-- What there is at a position of the result after an image was added to it. -/
theorem combineImage_spec {image : CombineImageData T rows} {before : Image (Pixel T rows)}
    (wellFormed : image.src.WellFormed) (countable : Countable image.src.size)
    (room : before.data.length = before.size.x.toNat * before.size.y.toNat)
    (nonzero : total (weightsOf few image.sourceChannels) ≠ 0)
    (converts : ∀ pixel ∈ image.src.data, ∃ gray,
      type.convert (weightedAverage type (weightsOf few image.sourceChannels) pixel) = some gray) :
    ∃ after, combineImage type few before image = some after ∧ after.size = before.size ∧
      after.data.length = before.data.length ∧
      ∀ place, Inside before.size place → ∃ source gray pixel,
        image.src.data[rowIndex image.src.size (NearestNeighbour.position image.src.size place
          (scaleFactor image.src.size before.size))]? = some source ∧
        type.convert (weightedAverage type (weightsOf few image.sourceChannels) source) =
          some gray ∧
        before.data[rowIndex before.size place]? = some pixel ∧
        after.data[rowIndex before.size place]? =
          some (addGray type few image.destChannels pixel gray) := by
  have enough : image.src.data.length ≤ pixelCount image.src.size := by
    rw [pixelCount_eq countable.small]
    exact wellFormed.le
  rcases exists_toGrayscale_iff.mpr ⟨nonzero, converts, enough⟩ with ⟨gray, grayEq⟩
  rcases toGrayscale_spec wellFormed countable.small grayEq with ⟨sameSize, full, grays⟩
  rcases @grayValues_spec _ _ _ before.size gray wellFormed countable sameSize full with
    ⟨values, valuesEq, length_eq, each⟩
  rcases (@exists_changeEach_iff _ _ (addGray type few image.destChannels) before.data values).mpr
    (length_eq.trans room.symm).le with ⟨data, dataEq⟩
  refine ⟨⟨data, before.size⟩, ?_, rfl, length_changeEach dataEq, ?_⟩
  · simp only [combineImage, grayEq, valuesEq, dataEq, Option.bind_eq_bind, Option.bind_some,
      Option.pure_def]
  · intro place inside
    have sampled := rowIndex_lt (NearestNeighbour.position_inside image.src.size place
      (scaleFactor image.src.size before.size) countable.nonempty)
    have placed := rowIndex_lt inside
    rw [← wellFormed] at sampled
    rw [← room] at placed
    have sourceEq := List.getElem?_eq_getElem sampled
    rcases converts _ (List.mem_of_getElem? sourceEq) with ⟨value, converted⟩
    have valueEq := each place inside
    rw [grays, sourceEq, Option.bind_some, converted] at valueEq
    refine ⟨_, value, _, sourceEq, converted, List.getElem?_eq_getElem placed, ?_⟩
    rw [getElem?_changeEach dataEq valueEq, List.getElem?_eq_getElem placed, Option.map_some]

end VoxelEngine.Graphics
