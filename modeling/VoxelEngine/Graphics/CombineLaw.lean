import Mathlib.Algebra.BigOperators.Field
import Mathlib.Algebra.Order.BigOperators.Group.Finset
import VoxelEngine.Graphics.CombineImages

/-!
# What combined images consist of

Each destination channel is to hold the average of the selected source channels of the image that
claims it, and zero if no image does.  This is so for whatever the images contain exactly if all
images can be counted with 32 bits, no sum of a source mask is zero, no weighted average is out
of range, the images that claim a channel weigh what they select equally, and no channel is
claimed twice.
-/

namespace VoxelEngine.Graphics

open Data

variable {T : Type} {rows : Nat}

/-- The image is to be written to the channel. -/
def ImageShape.Claims (few : rows ≤ 4) (shape : ImageShape) (channel : Fin rows) : Prop :=
  shape.destChannels (channel.castLE few) ≠ 0

/-- The channels of a pixel that a mask selects. -/
def selected (few : rows ≤ 4) (mask : ChannelMask) : Finset (Fin rows) :=
  Finset.univ.filter fun channel => mask (channel.castLE few) ≠ 0

/-- The average of the selected channels of a pixel. -/
def average (type : ChannelType T) (few : rows ≤ 4) (mask : ChannelMask) (pixel : Pixel T rows) :
    ℚ :=
  (∑ channel ∈ selected few mask, type.exact (pixel channel)) / (selected few mask).card

/-- The position of a source that is sampled for a position of the destination. -/
def sampledPosition (source dest place : Vec2 UInt32) : Vec2 UInt32 :=
  NearestNeighbour.position source place (scaleFactor source dest)

/-- A channel of the destination holds the converted value of the sampled pixel of each image that
claims it, and zero if there is none. -/
def HoldsValue (type : ChannelType T) (few : rows ≤ 4)
    (value : ChannelMask → Pixel T rows → ℚ) (images : List (CombineImageData T rows))
    (size place : Vec2 UInt32) (channel : Fin rows) (content : T) : Prop :=
  (∀ image ∈ images, image.shape.Claims few channel → ∃ source,
    Inside image.src.size (sampledPosition image.src.size size place) ∧
      image.src.data[rowIndex image.src.size (sampledPosition image.src.size size place)]? =
        some source ∧
      type.convert (value image.sourceChannels source) = some content) ∧
    ((∀ image ∈ images, ¬image.shape.Claims few channel) → content = type.zero)

/-- Every channel at every position of an image holds the value of the image that claims it. -/
structure CombinedBy (type : ChannelType T) (few : rows ≤ 4)
    (value : ChannelMask → Pixel T rows → ℚ) (images : List (CombineImageData T rows))
    (size : Vec2 UInt32) (result : Image (Pixel T rows)) : Prop where
  size_eq : result.size = size
  length_eq : result.data.length = size.x.toNat * size.y.toNat
  pixels : ∀ place, Inside size place → ∃ pixel, result.data[rowIndex size place]? = some pixel ∧
    ∀ channel, HoldsValue type few value images size place channel (pixel channel)

/-- Images of the given shapes are combined without undefined behaviour, and each channel holds
the average of the selected channels of the image that claims it. -/
def CombinesAverages (type : ChannelType T) (few : rows ≤ 4) (shapes : List ImageShape)
    (size : Vec2 UInt32) : Prop :=
  ∀ images : List (CombineImageData T rows), images.map CombineImageData.shape = shapes →
    (∀ image ∈ images, image.src.WellFormed) →
      ∃ result, combineImages type few images size = some result ∧
        CombinedBy type few (average type few) images size result

/-- The shapes with which nothing undefined is done. -/
structure Processable (type : ChannelType T) (few : rows ≤ 4) (shapes : List ImageShape)
    (size : Vec2 UInt32) : Prop where
  small : size.x.toNat * size.y.toNat < 4294967296
  sourcesSmall : ∀ shape ∈ shapes, shape.size.x.toNat * shape.size.y.toNat < 4294967296
  nonzero : ∀ shape ∈ shapes, total (weightsOf few shape.sourceChannels) ≠ 0
  converts : ∀ shape ∈ shapes, ∀ pixel : Pixel T rows, ∃ gray,
    type.convert (weightedAverage type (weightsOf few shape.sourceChannels) pixel) = some gray
  claimedOnce : ∀ channel : Fin rows, shapes.Pairwise fun first second =>
    first.Claims few channel → ¬second.Claims few channel

/-- The images that claim a channel weigh all channels that they select equally. -/
def WeighsEqually (few : rows ≤ 4) (shapes : List ImageShape) : Prop :=
  ∀ shape ∈ shapes, ∀ channel : Fin rows, shape.Claims few channel →
    ∀ first ∈ selected few shape.sourceChannels, ∀ second ∈ selected few shape.sourceChannels,
      shape.sourceChannels (first.castLE few) = shape.sourceChannels (second.castLE few)

/-! ## Weights -/

variable {type : ChannelType T} {few : rows ≤ 4} {mask : ChannelMask} {shapes : List ImageShape}
  {size : Vec2 UInt32} {images : List (CombineImageData T rows)}

theorem total_eq (number : Fin rows → ℚ) : total number = ∑ channel, number channel := by
  rw [total, Fin.sum_univ_def, List.sum_eq_foldl, List.foldl_map]

theorem mem_selected_iff {channel : Fin rows} :
    channel ∈ selected few mask ↔ mask (channel.castLE few) ≠ 0 := by
  rw [selected, Finset.mem_filter]
  exact and_iff_right (Finset.mem_univ channel)

theorem weightsOf_eq_zero {channel : Fin rows} (unselected : channel ∉ selected few mask) :
    weightsOf few mask channel = 0 := by
  rw [mem_selected_iff, not_not] at unselected
  rw [weightsOf, unselected]
  rfl

/-- Only selected channels count. -/
theorem sum_weights (number : Fin rows → ℚ) :
    ∑ channel, weightsOf few mask channel * number channel =
      ∑ channel ∈ selected few mask, weightsOf few mask channel * number channel := by
  symm
  apply Finset.sum_subset (Finset.subset_univ _)
  intro channel _ unselected
  rw [weightsOf_eq_zero unselected, zero_mul]

theorem total_weightsOf :
    total (weightsOf few mask) = ∑ channel ∈ selected few mask, weightsOf few mask channel := by
  have each := @sum_weights rows few mask fun _ => 1
  simp only [mul_one] at each
  rw [total_eq, each]

/-- Something is selected if the weights do not add up to zero. -/
theorem selected_nonempty (nonzero : total (weightsOf few mask) ≠ 0) :
    (selected few mask).Nonempty := by
  rw [Finset.nonempty_iff_ne_empty]
  intro empty
  rw [total_weightsOf, empty] at nonzero
  exact nonzero rfl

/-- The weighted average of a pixel, with one division. -/
theorem weightedAverage_eq (pixel : Pixel T rows) :
    weightedAverage type (weightsOf few mask) pixel =
      (∑ channel ∈ selected few mask, weightsOf few mask channel * type.exact (pixel channel)) /
        total (weightsOf few mask) := by
  rw [weightedAverage, total_eq, ← sum_weights, Finset.sum_div]
  apply Finset.sum_congr rfl
  intro channel _
  rw [div_mul_eq_mul_div]

/-- With equal weights the weighted average is the average. -/
theorem weightedAverage_eq_average (nonzero : total (weightsOf few mask) ≠ 0)
    (equal : ∀ first ∈ selected few mask, ∀ second ∈ selected few mask,
      mask (first.castLE few) = mask (second.castLE few)) (pixel : Pixel T rows) :
    weightedAverage type (weightsOf few mask) pixel = average type few mask pixel := by
  rcases selected_nonempty nonzero with ⟨channel, mem⟩
  have weights_eq : ∀ other ∈ selected few mask,
      weightsOf few mask other = weightsOf few mask channel := by
    intro other otherMem
    rw [weightsOf, weightsOf, equal other otherMem channel mem]
  have total_eq_mul : total (weightsOf few mask) =
      (selected few mask).card * weightsOf few mask channel := by
    rw [total_weightsOf, Finset.sum_congr rfl weights_eq, Finset.sum_const, nsmul_eq_mul]
  have weight_ne : weightsOf few mask channel ≠ 0 := by
    intro zero
    rw [total_eq_mul, zero, mul_zero] at nonzero
    exact nonzero rfl
  have sum_eq_mul : ∑ other ∈ selected few mask,
        weightsOf few mask other * type.exact (pixel other) =
      (∑ other ∈ selected few mask, type.exact (pixel other)) * weightsOf few mask channel := by
    rw [Finset.sum_mul]
    apply Finset.sum_congr rfl
    intro other otherMem
    rw [weights_eq other otherMem, mul_comm]
  rw [weightedAverage_eq, sum_eq_mul, total_eq_mul, mul_div_mul_right _ _ weight_ne, average]

/-- Weights are equal if none of them has less than its share. -/
theorem equal_of_shares (nonzero : total (weightsOf few mask) ≠ 0)
    (shares : ∀ channel ∈ selected few mask, 1 ≤ weightsOf few mask channel *
      (selected few mask).card / total (weightsOf few mask)) :
    ∀ first ∈ selected few mask, ∀ second ∈ selected few mask,
      mask (first.castLE few) = mask (second.castLE few) := by
  have sum_eq : ∑ _channel ∈ selected few mask, (1 : ℚ) = ∑ channel ∈ selected few mask,
      weightsOf few mask channel * (selected few mask).card / total (weightsOf few mask) := by
    rw [← Finset.sum_div, ← Finset.sum_mul, ← total_weightsOf, mul_div_cancel_left₀ _ nonzero,
      Finset.sum_const, nsmul_eq_mul, mul_one]
  have each := (Finset.sum_eq_sum_iff_of_le shares).mp sum_eq
  intro first firstMem second secondMem
  have same := (each first firstMem).symm.trans (each second secondMem)
  have card_ne : ((selected few mask).card : ℚ) ≠ 0 :=
    Nat.cast_ne_zero.mpr (Finset.card_ne_zero_of_mem firstMem)
  rw [div_left_inj' nonzero, mul_left_inj' card_ne, weightsOf, weightsOf, Int.cast_inj] at same
  exact Int8.toInt_inj.mp same

theorem total_weightsOf_eq_cast :
    total (weightsOf few mask) =
      (∑ channel : Fin rows, (mask (channel.castLE few)).toInt : ℤ) := by
  rw [total_eq, Int.cast_sum]
  rfl

/-- If no weight is negative, the weighted average of a pixel is between two of its channels, and
can be converted. -/
theorem exists_convert_weightedAverage (nonneg : ∀ channel ∈ selected few mask,
    0 ≤ weightsOf few mask channel) (nonzero : total (weightsOf few mask) ≠ 0)
    (pixel : Pixel T rows) :
    ∃ gray, type.convert (weightedAverage type (weightsOf few mask) pixel) = some gray := by
  have some_selected := selected_nonempty nonzero
  rcases Finset.exists_min_image _ (fun channel => type.exact (pixel channel)) some_selected with
    ⟨low, _, smallest⟩
  rcases Finset.exists_max_image _ (fun channel => type.exact (pixel channel)) some_selected with
    ⟨high, _, largest⟩
  have positive : 0 < total (weightsOf few mask) := by
    apply lt_of_le_of_ne _ (Ne.symm nonzero)
    rw [total_weightsOf]
    exact Finset.sum_nonneg nonneg
  apply type.converts_between _ (pixel low) (pixel high)
  · rw [weightedAverage_eq, le_div_iff₀ positive, total_weightsOf]
    calc
      type.exact (pixel low) * ∑ channel ∈ selected few mask, weightsOf few mask channel =
          ∑ channel ∈ selected few mask, weightsOf few mask channel * type.exact (pixel low) := by
        rw [mul_comm, Finset.sum_mul]
      _ ≤ ∑ channel ∈ selected few mask, weightsOf few mask channel * type.exact (pixel channel) :=
        Finset.sum_le_sum fun channel mem =>
          mul_le_mul_of_nonneg_left (smallest channel mem) (nonneg channel mem)
  · rw [weightedAverage_eq, div_le_iff₀ positive, total_weightsOf]
    calc
      ∑ channel ∈ selected few mask, weightsOf few mask channel * type.exact (pixel channel) ≤
          ∑ channel ∈ selected few mask, weightsOf few mask channel * type.exact (pixel high) :=
        Finset.sum_le_sum fun channel mem =>
          mul_le_mul_of_nonneg_left (largest channel mem) (nonneg channel mem)
      _ = type.exact (pixel high) * ∑ channel ∈ selected few mask, weightsOf few mask channel := by
        rw [mul_comm, Finset.sum_mul]

/-! ## Masks -/

/-- Adding up the masks of a channel that is claimed once gives the mask that claims it. -/
theorem foldl_claims {channel : Fin 4} {start : UInt64} {shape : ImageShape} (mem : shape ∈ shapes)
    (claims : shape.destChannels channel ≠ 0)
    (once : shapes.Pairwise fun first second =>
      first.destChannels channel ≠ 0 → ¬second.destChannels channel ≠ 0) :
    shapes.foldl (fun sum shape => sum + UInt64.ofInt (shape.destChannels channel).toInt) start =
      start + UInt64.ofInt (shape.destChannels channel).toInt := by
  have unclaimed : ∀ (others : List ImageShape) (sum : UInt64),
      (∀ other ∈ others, ¬other.destChannels channel ≠ 0) →
        others.foldl (fun sum shape =>
          sum + UInt64.ofInt (shape.destChannels channel).toInt) sum = sum := by
    intro others
    induction others with
    | nil => exact fun _ _ => rfl
    | cons first rest ih =>
        intro sum each
        rw [List.forall_mem_cons, not_not] at each
        have zero : UInt64.ofInt (0 : Int8).toInt = 0 := rfl
        rw [List.foldl_cons, each.1, zero, UInt64.add_zero]
        exact ih sum each.2
  induction shapes generalizing start with
  | nil => cases mem
  | cons first rest ih =>
      rw [List.pairwise_cons] at once
      rw [List.foldl_cons]
      rcases List.mem_cons.mp mem with rfl | later
      · exact unclaimed rest _ fun other otherMem => once.1 other otherMem claims
      · have firstZero : first.destChannels channel = 0 := by
          by_contra nonzero
          exact once.1 shape later nonzero claims
        have zero : UInt64.ofInt (0 : Int8).toInt = 0 := rfl
        rw [firstZero, zero, UInt64.add_zero]
        exact ih later once.2

/-- A mask that claims a channel, and no other does, is one. -/
theorem mask_eq_one {shape : ImageShape} {channel : Fin rows} (admitted : Admitted rows shapes)
    (once : shapes.Pairwise fun first second =>
      first.Claims few channel → ¬second.Claims few channel)
    (mem : shape ∈ shapes) (claims : shape.Claims few channel) :
    shape.destChannels (channel.castLE few) = 1 := by
  have atMostOne := admitted.atMostOne (channel.castLE few)
  rw [foldl_claims mem claims once, UInt64.zero_add] at atMostOne
  have nonzero : (shape.destChannels (channel.castLE few)).toInt ≠ 0 := fun zero =>
    claims (Int8.toInt_inj.mp zero)
  have lower := (shape.destChannels (channel.castLE few)).le_toInt
  have upper := (shape.destChannels (channel.castLE few)).toInt_lt
  have toNat_eq : (UInt64.ofInt (shape.destChannels (channel.castLE few)).toInt).toNat =
      ((shape.destChannels (channel.castLE few)).toInt % 18446744073709551616).toNat := by
    have size_eq : UInt64.size = 18446744073709551616 := rfl
    unfold UInt64.ofInt
    exact UInt64.toNat_ofNat_of_lt' (by omega)
  rw [UInt64.le_iff_toNat_le, toNat_eq] at atMostOne
  have one : (1 : UInt64).toNat = 1 := rfl
  apply Int8.toInt_inj.mp
  change (shape.destChannels (channel.castLE few)).toInt = 1
  omega

/-! ## All images -/

/-- The value that is added for an image. -/
def weighted (type : ChannelType T) (few : rows ≤ 4) (mask : ChannelMask) (pixel : Pixel T rows) :
    ℚ :=
  weightedAverage type (weightsOf few mask) pixel

/-- Before the first image all channels hold zero. -/
theorem combinedBy_filledImage {value : ChannelMask → Pixel T rows → ℚ}
    (small : size.x.toNat * size.y.toNat < 4294967296) :
    CombinedBy type few value [] size (filledImage size fun _ => type.zero) where
  size_eq := rfl
  length_eq := by rw [filledImage, List.length_replicate, pixelCount_eq small]
  pixels := by
    intro place inside
    have lt := rowIndex_lt inside
    rw [← pixelCount_eq small] at lt
    refine ⟨fun _ => type.zero, List.getElem?_replicate_of_lt lt, ?_⟩
    intro channel
    constructor
    · intro image mem
      cases mem
    · exact fun _ => rfl

/-- One more image is added to channels that are not claimed yet, with a mask of one. -/
theorem CombinedBy.combineImage {done : List (CombineImageData T rows)}
    {image : CombineImageData T rows} {before : Image (Pixel T rows)}
    (combined : CombinedBy type few (weighted type few) done size before)
    (wellFormed : image.src.WellFormed) (countable : Countable image.src.size)
    (nonzero : total (weightsOf few image.sourceChannels) ≠ 0)
    (converts : ∀ pixel : Pixel T rows, ∃ gray,
      type.convert (weightedAverage type (weightsOf few image.sourceChannels) pixel) = some gray)
    (claimed : ∀ channel, image.shape.Claims few channel →
      image.destChannels (channel.castLE few) = 1 ∧
        ∀ other ∈ done, ¬other.shape.Claims few channel) :
    ∃ after, Graphics.combineImage type few before image = some after ∧
      CombinedBy type few (weighted type few) (done ++ [image]) size after := by
  have room := combined.length_eq
  rw [← combined.size_eq] at room
  rcases combineImage_spec wellFormed countable room nonzero fun pixel _ => converts pixel with
    ⟨after, afterEq, size_eq, length_eq, each⟩
  refine ⟨after, afterEq, ⟨size_eq.trans combined.size_eq, length_eq.trans combined.length_eq, ?_⟩⟩
  intro place inside
  rw [combined.size_eq] at each
  rcases each place inside with ⟨source, gray, pixel, sourceEq, grayEq, pixelEq, resultEq⟩
  rcases combined.pixels place inside with ⟨old, oldEq, holds⟩
  have old_eq : old = pixel := Option.some.inj (oldEq.symm.trans pixelEq)
  subst old_eq
  refine ⟨_, resultEq, ?_⟩
  intro channel
  have imageShape : image.shape.destChannels = image.destChannels := rfl
  by_cases claims : image.shape.Claims few channel
  · rcases claimed channel claims with ⟨one, unclaimed⟩
    have content : addGray type few image.destChannels old gray channel = gray := by
      rw [addGray, one, type.mul_one, (holds channel).2 unclaimed, type.zero_add]
    rw [content]
    constructor
    · intro other mem otherClaims
      rcases List.mem_append.mp mem with before | here
      · exact absurd otherClaims (unclaimed other before)
      · rw [List.mem_singleton.mp here]
        exact ⟨source, NearestNeighbour.position_inside _ _ _ countable.nonempty, sourceEq, grayEq⟩
    · intro none
      exact absurd claims (none image (List.mem_append_right _ List.mem_cons_self))
  · have zeroMask : image.destChannels (channel.castLE few) = 0 := not_not.mp claims
    have content : addGray type few image.destChannels old gray channel = old channel := by
      rw [addGray, zeroMask, type.mul_zero, type.add_zero]
    rw [content]
    constructor
    · intro other mem otherClaims
      rcases List.mem_append.mp mem with before | here
      · exact (holds channel).1 other before otherClaims
      · rw [List.mem_singleton.mp here] at otherClaims
        exact absurd otherClaims claims
    · intro none
      apply (holds channel).2
      intro other before
      exact none other (List.mem_append_left _ before)

/-- Images of shapes with which nothing undefined is done are combined by their weighted
averages. -/
theorem Processable.combines (processable : Processable type few shapes size)
    (admitted : Admitted rows shapes)
    (nonempty : ∀ shape ∈ shapes, shape.size.x ≠ 0 ∧ shape.size.y ≠ 0)
    (shapes_eq : images.map CombineImageData.shape = shapes)
    (wellFormed : ∀ image ∈ images, image.src.WellFormed) :
    ∃ result, combineImages type few images size = some result ∧
      CombinedBy type few (weighted type few) images size result := by
  have continued : ∀ (rest done : List (CombineImageData T rows)) (before : Image (Pixel T rows)),
      done ++ rest = images → CombinedBy type few (weighted type few) done size before →
        ∃ result, rest.foldlM (Graphics.combineImage type few) before = some result ∧
          CombinedBy type few (weighted type few) images size result := by
    intro rest
    induction rest with
    | nil =>
        rintro done before rfl combined
        rw [List.append_nil]
        exact ⟨before, rfl, combined⟩
    | cons image rest ih =>
        intro done before split_eq combined
        have mem : image ∈ images := by
          rw [← split_eq]
          exact List.mem_append_right _ List.mem_cons_self
        have shapeMem : image.shape ∈ shapes := by
          rw [← shapes_eq]
          exact List.mem_map_of_mem mem
        have claimed : ∀ channel, image.shape.Claims few channel →
            image.destChannels (channel.castLE few) = 1 ∧
              ∀ other ∈ done, ¬other.shape.Claims few channel := by
          intro channel claims
          have once := processable.claimedOnce channel
          refine ⟨mask_eq_one admitted once shapeMem claims, ?_⟩
          rw [← shapes_eq, ← split_eq, List.map_append, List.pairwise_append] at once
          intro other otherMem otherClaims
          exact once.2.2 other.shape (List.mem_map_of_mem otherMem) image.shape
            (List.mem_map_of_mem List.mem_cons_self) otherClaims claims
        have countable : Countable image.src.size :=
          ⟨nonempty image.shape shapeMem, processable.sourcesSmall image.shape shapeMem⟩
        have nonzero : total (weightsOf few image.sourceChannels) ≠ 0 :=
          processable.nonzero image.shape shapeMem
        have converts : ∀ pixel : Pixel T rows, ∃ gray, type.convert
            (weightedAverage type (weightsOf few image.sourceChannels) pixel) = some gray :=
          processable.converts image.shape shapeMem
        rcases combined.combineImage (wellFormed image mem) countable nonzero converts claimed with
          ⟨after, afterEq, afterCombined⟩
        rcases ih (done ++ [image]) after (by rw [← split_eq, List.append_assoc]; rfl)
          afterCombined with ⟨result, resultEq, resultCombined⟩
        refine ⟨result, ?_, resultCombined⟩
        rw [List.foldlM_cons, afterEq]
        exact resultEq
  unfold combineImages
  exact continued images [] (filledImage size fun _ => type.zero) (List.nil_append images)
    (combinedBy_filledImage processable.small)

/-! ## What the images show of their shapes -/

/-- An image of the given shape with the same pixel everywhere. -/
def ImageShape.filledWith (shape : ImageShape) (pixel : Pixel T rows) : CombineImageData T rows :=
  ⟨⟨List.replicate (shape.size.x.toNat * shape.size.y.toNat) pixel, shape.size⟩,
    shape.sourceChannels, shape.destChannels⟩

theorem wellFormed_filledWith (shape : ImageShape) (pixel : Pixel T rows) :
    (shape.filledWith pixel).src.WellFormed :=
  List.length_replicate

/-- Every image that is combined is converted. -/
theorem exists_toGrayscale_of_combineImages {result : Image (Pixel T rows)}
    (resultEq : combineImages type few images size = some result) {image : CombineImageData T rows}
    (mem : image ∈ images) :
    ∃ gray, toGrayscale type image.src (weightsOf few image.sourceChannels) = some gray := by
  unfold combineImages at resultEq
  generalize (filledImage size fun _ => type.zero : Image (Pixel T rows)) = before at resultEq
  induction images generalizing before with
  | nil => cases mem
  | cons first rest ih =>
      rw [List.foldlM_cons] at resultEq
      rcases Option.bind_eq_some_iff.mp resultEq with ⟨after, afterEq, restEq⟩
      rcases List.mem_cons.mp mem with rfl | later
      · rcases Option.bind_eq_some_iff.mp afterEq with ⟨gray, grayEq, _⟩
        exact ⟨gray, grayEq⟩
      · exact ih later after restEq

/-- Adding images does not change the number of pixels. -/
theorem length_combineImages {result : Image (Pixel T rows)}
    (resultEq : combineImages type few images size = some result) :
    result.data.length = pixelCount size := by
  have kept : ∀ (rest : List (CombineImageData T rows)) (before : Image (Pixel T rows)),
      rest.foldlM (combineImage type few) before = some result →
        result.data.length = before.data.length := by
    intro rest
    induction rest with
    | nil =>
        intro before beforeEq
        rw [Option.some.inj beforeEq]
    | cons first rest ih =>
        intro before beforeEq
        rw [List.foldlM_cons] at beforeEq
        rcases Option.bind_eq_some_iff.mp beforeEq with ⟨after, afterEq, restEq⟩
        rw [ih after restEq]
        simp only [combineImage, Option.bind_eq_bind, Option.pure_def, Option.bind_eq_some_iff,
          Option.some.injEq] at afterEq
        rcases afterEq with ⟨_, _, _, _, data, dataEq, rfl⟩
        exact length_changeEach dataEq
  rw [kept images _ resultEq, filledImage, List.length_replicate]

/-- What is sampled from an image with the same pixel everywhere. -/
theorem eq_of_filledWith {shape : ImageShape} {pixel source : Pixel T rows} {index : Nat}
    (sourceEq : (shape.filledWith pixel).src.data[index]? = some source) : source = pixel :=
  List.eq_of_mem_replicate (List.mem_of_getElem? sourceEq)

/-- The pixel with one value in all channels. -/
theorem average_const {value : T} (some_selected : (selected few mask).Nonempty) :
    average type few mask (fun _ => value) = type.exact value := by
  have card_ne : ((selected few mask).card : ℚ) ≠ 0 :=
    Nat.cast_ne_zero.mpr (Finset.card_ne_zero.mpr some_selected)
  rw [average, Finset.sum_const, nsmul_eq_mul, mul_div_cancel_left₀ _ card_ne]

/-- The pixel with a value in a single channel. -/
def singleChannel (type : ChannelType T) (channel : Fin rows) (value : T) : Pixel T rows :=
  Function.update (fun _ => type.zero) channel value

/-- Only the selected channel counts. -/
theorem sum_singleChannel {channel : Fin rows} {value : T} (factor : Fin rows → ℚ)
    (mem : channel ∈ selected few mask) :
    ∑ other ∈ selected few mask, factor other *
        type.exact (singleChannel type channel value other) =
      factor channel * type.exact value := by
  rw [Finset.sum_eq_single_of_mem channel mem]
  · rw [singleChannel, Function.update_self]
  · intro other _ different
    rw [singleChannel, Function.update_of_ne different, type.exact_zero, mul_zero]

namespace CombinesAverages

/-- Images of the given shapes that have the given pixels everywhere are combined. -/
theorem filled (combines : CombinesAverages type few shapes size) (pixel : Pixel T rows) :
    ∃ result, combineImages type few (shapes.map fun shape => shape.filledWith pixel) size =
        some result ∧
      CombinedBy type few (average type few) (shapes.map fun shape => shape.filledWith pixel) size
        result := by
  apply combines
  · rw [List.map_map]
    exact List.map_id shapes
  · intro image mem
    rcases List.mem_map.mp mem with ⟨shape, _, rfl⟩
    exact wellFormed_filledWith shape pixel

/-- What is needed to convert each image. -/
theorem converted (combines : CombinesAverages type few shapes size) {shape : ImageShape}
    (mem : shape ∈ shapes) (pixel : Pixel T rows) :
    total (weightsOf few shape.sourceChannels) ≠ 0 ∧
      (∀ other ∈ (shape.filledWith pixel).src.data, ∃ gray,
        type.convert (weightedAverage type (weightsOf few shape.sourceChannels) other) =
          some gray) ∧
      (shape.filledWith pixel).src.data.length ≤ pixelCount shape.size := by
  rcases combines.filled pixel with ⟨result, resultEq, _⟩
  have there : shape.filledWith pixel ∈ shapes.map fun shape => shape.filledWith pixel :=
    List.mem_map.mpr ⟨shape, mem, rfl⟩
  exact exists_toGrayscale_iff.mp (exists_toGrayscale_of_combineImages resultEq there)

theorem small (combines : CombinesAverages type few shapes size) :
    size.x.toNat * size.y.toNat < 4294967296 := by
  rcases combines.filled fun _ => type.zero with ⟨result, resultEq, combined⟩
  rw [← combined.length_eq, length_combineImages resultEq]
  exact pixelCount_lt size

/-- What the first pixel holds, if the images have the same pixel everywhere. -/
theorem content_eq {images : List (CombineImageData T rows)} {result : Image (Pixel T rows)}
    {value : ChannelMask → Pixel T rows → ℚ}
    (combined : CombinedBy type few value images size result)
    (wanted : size.x ≠ 0 ∧ size.y ≠ 0) :
    ∃ content, result.data[rowIndex size ⟨0, 0⟩]? = some content ∧
      ∀ (channel : Fin rows) (shape : ImageShape) (pixel : Pixel T rows),
        shape.filledWith pixel ∈ images → shape.Claims few channel →
          type.convert (value shape.sourceChannels pixel) = some (content channel) := by
  rcases combined.pixels ⟨0, 0⟩ (inside_zero wanted) with ⟨content, contentEq, holds⟩
  refine ⟨content, contentEq, ?_⟩
  intro channel shape pixel mem claims
  rcases (holds channel).1 _ mem claims with ⟨source, _, sourceEq, converted⟩
  rw [eq_of_filledWith sourceEq] at converted
  exact converted

/-- A channel that is claimed twice cannot hold two averages. -/
theorem claimedOnce (combines : CombinesAverages type few shapes size)
    (wanted : size.x ≠ 0 ∧ size.y ≠ 0) (channel : Fin rows) :
    shapes.Pairwise fun first second =>
      first.Claims few channel → ¬second.Claims few channel := by
  rcases type.represents 1 (by decide) with ⟨one, exact_one, convert_one⟩
  rw [List.pairwise_iff_getElem]
  intro i j i_lt j_lt before firstClaims secondClaims
  let pixelOf (index : Nat) : Pixel T rows := fun _ => if index = j then one else type.zero
  let images := shapes.mapIdx fun index shape => shape.filledWith (pixelOf index)
  have shapes_eq : images.map CombineImageData.shape = shapes := by
    apply List.ext_getElem
    · simp [images]
    · intro index _ _
      simp [images, ImageShape.filledWith, CombineImageData.shape]
  have wellFormed : ∀ image ∈ images, image.src.WellFormed := by
    intro image mem
    rcases List.mem_mapIdx.mp mem with ⟨index, index_lt, rfl⟩
    exact wellFormed_filledWith _ _
  rcases combines images shapes_eq wellFormed with ⟨result, _, combined⟩
  rcases content_eq combined wanted with ⟨content, _, contents⟩
  have memberOf : ∀ index (index_lt : index < shapes.length),
      shapes[index].filledWith (pixelOf index) ∈ images := fun index index_lt =>
    List.mem_mapIdx.mpr ⟨index, index_lt, rfl⟩
  have first := contents channel _ _ (memberOf i i_lt) firstClaims
  have second := contents channel _ _ (memberOf j j_lt) secondClaims
  have firstNonzero := (combines.converted (List.getElem_mem i_lt) (pixelOf i)).1
  have secondNonzero := (combines.converted (List.getElem_mem j_lt) (pixelOf j)).1
  rw [average_const (selected_nonempty firstNonzero), if_neg (Nat.ne_of_lt before),
    type.exact_zero, type.convert_zero, Option.some.injEq] at first
  rw [average_const (selected_nonempty secondNonzero), if_pos rfl, exact_one, convert_one,
    Option.some.injEq] at second
  have zero_eq_one : type.exact type.zero = type.exact one := by rw [first, second]
  rw [type.exact_zero, exact_one, Nat.cast_one] at zero_eq_one
  exact zero_ne_one zero_eq_one

theorem processable (combines : CombinesAverages type few shapes size)
    (wanted : size.x ≠ 0 ∧ size.y ≠ 0)
    (nonempty : ∀ shape ∈ shapes, shape.size.x ≠ 0 ∧ shape.size.y ≠ 0) :
    Processable type few shapes size where
  small := combines.small
  sourcesSmall := by
    intro shape mem
    have fits := (combines.converted mem fun _ => type.zero).2.2
    rw [wellFormed_filledWith] at fits
    exact fits.trans_lt (pixelCount_lt shape.size)
  nonzero := fun shape mem => (combines.converted mem fun _ => type.zero).1
  converts := by
    intro shape mem pixel
    apply (combines.converted mem pixel).2.1
    apply List.mem_replicate.mpr
    have inside := rowIndex_lt (inside_zero (nonempty shape mem))
    exact ⟨(Nat.zero_lt_of_lt inside).ne', rfl⟩
  claimedOnce := combines.claimedOnce wanted

/-- A channel with less than its share shows that the weights are not equal. -/
theorem weighsEqually (combines : CombinesAverages type few shapes size)
    (wanted : size.x ≠ 0 ∧ size.y ≠ 0) (admitted : Admitted rows shapes)
    (nonempty : ∀ shape ∈ shapes, shape.size.x ≠ 0 ∧ shape.size.y ≠ 0) :
    WeighsEqually few shapes := by
  intro shape mem channel claims
  have processable := combines.processable wanted nonempty
  apply equal_of_shares (processable.nonzero shape mem)
  intro heavy heavyMem
  have few_selected : (selected few shape.sourceChannels).card ≤ 4 :=
    ((Finset.card_le_univ _).trans_eq (Fintype.card_fin rows)).trans few
  rcases type.represents _ few_selected with ⟨count, exact_count, _⟩
  rcases type.represents 1 (by decide) with ⟨one, exact_one, convert_one⟩
  rcases combines.filled (singleChannel type heavy count) with ⟨result, resultEq, averaged⟩
  have shapes_eq : (shapes.map fun shape => shape.filledWith
      (singleChannel type heavy count)).map CombineImageData.shape = shapes := by
    rw [List.map_map]
    exact List.map_id shapes
  have wellFormed : ∀ image ∈ shapes.map fun shape => shape.filledWith
      (singleChannel type heavy count), image.src.WellFormed := by
    intro image imageMem
    rcases List.mem_map.mp imageMem with ⟨other, _, rfl⟩
    exact wellFormed_filledWith other _
  rcases processable.combines admitted nonempty shapes_eq wellFormed with
    ⟨again, againEq, weighed⟩
  have same : again = result := Option.some.inj (againEq.symm.trans resultEq)
  rw [same] at weighed
  rcases content_eq averaged wanted with ⟨content, contentEq, averages⟩
  rcases content_eq weighed wanted with ⟨other, otherEq, weights⟩
  have other_eq : other = content := Option.some.inj (otherEq.symm.trans contentEq)
  have there : shape.filledWith (singleChannel type heavy count) ∈ shapes.map fun shape =>
      shape.filledWith (singleChannel type heavy count) :=
    List.mem_map.mpr ⟨shape, mem, rfl⟩
  have averageEq := averages channel shape _ there claims
  have weightEq := weights channel shape _ there claims
  have card_ne : ((selected few shape.sourceChannels).card : ℚ) ≠ 0 :=
    Nat.cast_ne_zero.mpr (Finset.card_ne_zero_of_mem heavyMem)
  have single := @sum_singleChannel _ _ type few shape.sourceChannels heavy count (fun _ => 1)
    heavyMem
  simp only [one_mul] at single
  rw [average, single, exact_count, div_self card_ne, ← Nat.cast_one, convert_one,
    Option.some.injEq] at averageEq
  rw [weighted, weightedAverage_eq, sum_singleChannel _ heavyMem, exact_count, other_eq,
    ← averageEq] at weightEq
  have towards := type.towards_zero _ _ weightEq
  rw [exact_one, Nat.cast_one] at towards
  rcases le_total 0 (weightsOf few shape.sourceChannels heavy *
    (selected few shape.sourceChannels).card / total (weightsOf few shape.sourceChannels)) with
    nonneg | nonpos
  · exact towards.1 nonneg
  · exact absurd (towards.2 nonpos) (not_le_of_gt one_pos)

end CombinesAverages

/-- Combining images gives the averages, whatever the images contain, if and only if nothing
undefined is done with images of these shapes, and those that claim a channel weigh what they
select equally. -/
theorem combinesAverages_iff (admitted : Admitted rows shapes)
    (wanted : size.x ≠ 0 ∧ size.y ≠ 0)
    (nonempty : ∀ shape ∈ shapes, shape.size.x ≠ 0 ∧ shape.size.y ≠ 0) :
    CombinesAverages type few shapes size ↔
      Processable type few shapes size ∧ WeighsEqually few shapes := by
  constructor
  · intro combines
    exact ⟨combines.processable wanted nonempty, combines.weighsEqually wanted admitted nonempty⟩
  · rintro ⟨processable, equal⟩ images shapes_eq wellFormed
    rcases processable.combines admitted nonempty shapes_eq wellFormed with
      ⟨result, resultEq, combined⟩
    refine ⟨result, resultEq, combined.size_eq, combined.length_eq, ?_⟩
    intro place inside
    rcases combined.pixels place inside with ⟨pixel, pixelEq, holds⟩
    refine ⟨pixel, pixelEq, ?_⟩
    intro channel
    refine ⟨?_, (holds channel).2⟩
    intro image mem claims
    rcases (holds channel).1 image mem claims with ⟨source, sampled, sourceEq, converted⟩
    have shapeMem : image.shape ∈ shapes := by
      rw [← shapes_eq]
      exact List.mem_map_of_mem mem
    have nonzero : total (weightsOf few image.sourceChannels) ≠ 0 :=
      processable.nonzero image.shape shapeMem
    refine ⟨source, sampled, sourceEq, ?_⟩
    rw [← weightedAverage_eq_average nonzero (equal image.shape shapeMem channel claims)]
    exact converted

/-! ## Bytes -/

/-- Channels of one byte. -/
def byteChannel : ChannelType UInt8 where
  zero := 0
  add := (· + ·)
  mul := (· * ·)
  ofMask := Int8.toUInt8
  exact := fun value => value.toNat
  convert := fun number => if -1 < number ∧ number < 256 then some (UInt8.ofNat ⌊number⌋₊) else none
  zero_add := UInt8.zero_add
  add_zero := UInt8.add_zero
  mul_one := UInt8.mul_one
  mul_zero := fun _ => UInt8.mul_zero
  exact_zero := Nat.cast_zero
  represents := by
    intro number le
    exists UInt8.ofNat number
    have small : (number : ℚ) < 256 := by
      have bound : (number : ℚ) ≤ 4 := Nat.cast_le.mpr le
      linarith
    have nonneg : (0 : ℚ) ≤ number := Nat.cast_nonneg number
    constructor
    · rw [UInt8.toNat_ofNat_of_lt' (Nat.lt_of_le_of_lt le (by decide))]
    · rw [if_pos ⟨by linarith, small⟩, Nat.floor_natCast]
  convert_zero := by
    rw [if_pos (by norm_num), Nat.floor_zero]
    rfl
  converts_between := by
    intro number low high low_le le_high
    have nonneg : (0 : ℚ) ≤ low.toNat := Nat.cast_nonneg _
    have small : ((high.toNat : ℕ) : ℚ) < 256 := Nat.cast_lt.mpr high.toNat_lt
    rw [if_pos ⟨by linarith, by linarith⟩]
    exact ⟨_, rfl⟩
  towards_zero := by
    intro number value convertEq
    split at convertEq
    · rename_i range
      rw [← Option.some.inj convertEq]
      have small : ⌊number⌋₊ < 256 := by
        rw [Nat.floor_lt' (by decide)]
        exact range.2
      rw [UInt8.toNat_ofNat_of_lt' small]
      constructor
      · exact Nat.floor_le
      · intro nonpos
        rw [Nat.floor_of_nonpos nonpos, Nat.cast_zero]
    · cases convertEq

/-- A mask of a single channel. -/
def oneChannel (channel : Fin 4) : ChannelMask :=
  Function.update (fun _ => 0) channel 1

/-- Pixels of four channels have every channel that a mask can select. -/
theorem admitted_four {shapes : List ImageShape}
    (atMostOne : ∀ channel, shapes.foldl (fun sum shape =>
      sum + UInt64.ofInt (shape.destChannels channel).toInt) 0 ≤ 1) : Admitted 4 shapes := by
  constructor
  · exact atMostOne
  · intro _ _ channel above
    exact absurd channel.isLt (Nat.not_lt_of_le above)
  · intro _ _ channel above
    exact absurd channel.isLt (Nat.not_lt_of_le above)

/-- An image of two by three pixels, of which two channels are averaged, and a single pixel, of
which the last channel is used. -/
def packedShapes : List ImageShape :=
  [⟨⟨2, 3⟩, ![1, 1, 0, 0], oneChannel 0⟩, ⟨⟨1, 1⟩, oneChannel 3, oneChannel 3⟩]

/-- Both are packed into an image of another size. -/
theorem combinesAverages_packedShapes :
    CombinesAverages byteChannel (Nat.le_refl 4) packedShapes ⟨4, 5⟩ := by
  have weights : ∀ shape ∈ packedShapes, ∀ channel : Fin 4,
      0 ≤ weightsOf (Nat.le_refl 4) shape.sourceChannels channel := by
    intro shape mem channel
    rw [weightsOf, Int.cast_nonneg_iff]
    revert shape channel
    decide
  have nonzero : ∀ shape ∈ packedShapes,
      total (weightsOf (Nat.le_refl 4) shape.sourceChannels) ≠ 0 := by
    intro shape mem
    rw [total_weightsOf_eq_cast, Int.cast_ne_zero]
    revert shape
    decide
  apply (combinesAverages_iff (admitted_four (by decide)) (by decide) (by decide)).mpr
  constructor
  · constructor
    · decide
    · decide
    · exact nonzero
    · intro shape mem
      exact exists_convert_weightedAverage (fun channel _ => weights shape mem channel)
        (nonzero shape mem)
    · unfold ImageShape.Claims
      decide
  · unfold WeighsEqually ImageShape.Claims selected
    decide

/-- An image whose source mask selects no channel passes the assertions, but its weights are
divided by zero. -/
theorem not_combinesAverages_unselected :
    Admitted 4 [⟨⟨1, 1⟩, fun _ => 0, oneChannel 0⟩] ∧
      toGrayscale byteChannel ⟨[fun _ => 0], ⟨1, 1⟩⟩
        (weightsOf (Nat.le_refl 4) fun _ => 0) = none ∧
      ¬CombinesAverages byteChannel (Nat.le_refl 4) [⟨⟨1, 1⟩, fun _ => 0, oneChannel 0⟩] ⟨1, 1⟩ := by
  have zero : total (weightsOf (Nat.le_refl 4) fun _ => 0) = 0 := by
    rw [total_eq]
    exact Finset.sum_eq_zero fun _ _ => Int.cast_zero
  constructor
  · exact admitted_four (by decide)
  · constructor
    · rw [toGrayscale, if_pos zero]
    · intro combines
      exact (combines.converted List.mem_cons_self fun _ => 0).1 zero

end VoxelEngine.Graphics
