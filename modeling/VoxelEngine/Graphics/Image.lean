import VoxelEngine.Data.PartialList
import VoxelEngine.Graphics.TextureAtlas
import Mathlib.Tactic.Linarith
import Mathlib.Tactic.Ring

/-!
# Images and samplers

An image keeps its pixels row by row.  Resizing it computes each pixel of the result with a
sampler, which reads the source around the corresponding position.  Coordinates are exact here.
-/

namespace VoxelEngine.Graphics

open Data

/-- `image`.  The pixels are not checked to be as many as the size says. -/
structure Image (P : Type) where
  data : List P
  size : Vec2 UInt32

/-- What the functions on images need to know of the type of a channel.  A number that is not
above the number of channels can be represented, and conversions go towards zero.  There is no
result of a conversion that is out of range, but what is between two values is in range. -/
structure ChannelType (T : Type) where
  zero : T
  add : T → T → T
  mul : T → T → T
  ofMask : Int8 → T
  exact : T → ℚ
  convert : ℚ → Option T
  zero_add : ∀ value, add zero value = value
  add_zero : ∀ value, add value zero = value
  mul_one : ∀ value, mul value (ofMask 1) = value
  mul_zero : ∀ value, mul value (ofMask 0) = zero
  exact_zero : exact zero = 0
  represents : ∀ number : Nat, number ≤ 4 →
    ∃ value, exact value = number ∧ convert number = some value
  convert_zero : convert 0 = some zero
  converts_between : ∀ number low high, exact low ≤ number → number ≤ exact high →
    ∃ value, convert number = some value
  towards_zero : ∀ number value, convert number = some value →
    (0 ≤ number → exact value ≤ number) ∧ (number ≤ 0 → exact value ≤ 0)

/-- A pixel with so many channels. -/
abbrev Pixel (T : Type) (rows : Nat) :=
  Fin rows → T

/-- The number of pixels, as it is computed from the size of an image. -/
def pixelCount (size : Vec2 UInt32) : Nat :=
  (size.x * size.y).toNat

/-- `filled_image` -/
def filledImage {P : Type} (size : Vec2 UInt32) (color : P) : Image P :=
  ⟨List.replicate (pixelCount size) color, size⟩

/-- The positions of an image, row by row. -/
def positions (size : Vec2 UInt32) : List (Vec2 UInt32) :=
  (counters 0 size.y).flatMap fun y => (counters 0 size.x).map fun x => ⟨x, y⟩

/-- The position is one of the image. -/
def Inside (size place : Vec2 UInt32) : Prop :=
  place.x < size.x ∧ place.y < size.y

namespace Image

variable {P : Type}

/-- `image::operator[]`, which reads whatever is at the index of the position, if there is
something. -/
def get (image : Image P) (place : Vec2 UInt32) : Option P :=
  image.data[(place.x + place.y * image.size.x).toNat]?

/-- There is a pixel for each position. -/
def WellFormed (image : Image P) : Prop :=
  image.data.length = image.size.x.toNat * image.size.y.toNat

end Image

/-- A pixel of which each channel has a result. -/
def allChannels {T : Type} {rows : Nat} (channels : Fin rows → Option T) : Option (Pixel T rows) :=
  if each : ∀ channel, (channels channel).isSome then
    some fun channel => (channels channel).get (each channel)
  else none

/-- The factor between the coordinates of two images. -/
def scaleFactor (source dest : Vec2 UInt32) : Vec2 ℚ :=
  ⟨exact source.x / exact dest.x, exact source.y / exact dest.y⟩

def clamp (value low high : UInt32) : UInt32 :=
  if value < low then low else if high < value then high else value

/-- Round to the nearest integer, and halves away from zero. -/
def roundAway (value : ℚ) : ℤ :=
  if value < 0 then -⌊-value + 1 / 2⌋ else ⌊value + 1 / 2⌋

/-! ## Samplers -/

namespace NearestNeighbour

def epsilon : ℚ :=
  1 / 1000000

/-- The coordinate that is read, along one axis. -/
def coordinate (dest : UInt32) (factor : ℚ) (extent : UInt32) : UInt32 :=
  clamp (truncate (roundAway (exact dest * factor - epsilon))) 0 (extent - 1)

/-- The position that is read. -/
def position (size dest : Vec2 UInt32) (factor : Vec2 ℚ) : Vec2 UInt32 :=
  ⟨coordinate dest.x factor.x size.x, coordinate dest.y factor.y size.y⟩

/-- `image_samplers::nearest_neighbour` -/
def sample {P : Type} (src : Image P) (dest : Vec2 UInt32) (factor : Vec2 ℚ) : Option P :=
  src.get (position src.size dest factor)

end NearestNeighbour

namespace Bilinear

/-- The lower coordinate that is read, along one axis. -/
def low (dest : UInt32) (factor : ℚ) (extent : UInt32) : UInt32 :=
  clamp (truncate (⌊exact dest * factor⌋ : ℤ)) 0 extent

/-- The upper coordinate that is read, along one axis. -/
def high (dest : UInt32) (factor : ℚ) (extent : UInt32) : UInt32 :=
  clamp (truncate (⌈exact dest * factor⌉ : ℤ)) 0 extent

/-- How far the position is from the lower coordinate. -/
def part (dest : UInt32) (factor : ℚ) (extent : UInt32) : ℚ :=
  exact dest * factor - exact (low dest factor extent)

def lerp (a b t : ℚ) : ℚ :=
  a + (b - a) * t

def biLerp (p00 p10 p01 p11 tx ty : ℚ) : ℚ :=
  lerp (lerp p00 p10 tx) (lerp p01 p11 tx) ty

/-- The four positions that are read. -/
def accesses (size dest : Vec2 UInt32) (factor : Vec2 ℚ) : List (Vec2 UInt32) :=
  [⟨low dest.x factor.x size.x, low dest.y factor.y size.y⟩,
    ⟨high dest.x factor.x size.x, low dest.y factor.y size.y⟩,
    ⟨low dest.x factor.x size.x, high dest.y factor.y size.y⟩,
    ⟨high dest.x factor.x size.x, high dest.y factor.y size.y⟩]

/-- What is made of the four pixels, in one channel. -/
def blend (size dest : Vec2 UInt32) (factor : Vec2 ℚ) (p00 p10 p01 p11 : ℚ) : ℚ :=
  biLerp p00 p10 p01 p11 (part dest.x factor.x size.x) (part dest.y factor.y size.y)

/-- `image_samplers::bilinear`.  It has no result if a position is read where there is no pixel, or
if a channel is out of range. -/
def sample {T : Type} {rows : Nat} (type : ChannelType T) (src : Image (Pixel T rows))
    (dest : Vec2 UInt32) (factor : Vec2 ℚ) : Option (Pixel T rows) :=
  match (accesses src.size dest factor).map src.get with
  | [some p00, some p10, some p01, some p11] =>
      allChannels fun channel =>
        type.convert (blend src.size dest factor (type.exact (p00 channel))
          (type.exact (p10 channel)) (type.exact (p01 channel)) (type.exact (p11 channel)))
  | _ => none

end Bilinear

/-- `resize_image`, with a sampler that may have no result. -/
def resizeImage {P : Type} (zero : P) (source : Image P) (resizeTo : Vec2 UInt32)
    (sampler : Image P → Vec2 UInt32 → Vec2 ℚ → Option P) : Option (Image P) := do
  let pixels ← (positions resizeTo).mapM fun place =>
    sampler source place (scaleFactor source.size resizeTo)
  let data ← changeEach (fun _ pixel => pixel) (filledImage resizeTo zero).data pixels
  pure ⟨data, resizeTo⟩

end VoxelEngine.Graphics
