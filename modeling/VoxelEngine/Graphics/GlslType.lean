import VoxelEngine.Data.Rounding
import Mathlib.Data.List.Basic

/-!
# GLSL types and where the specification places them

The types that uniform and storage blocks are made of, their values, and the offsets that
the layout rules `std140` and `std430` give to the scalars in them.  GLSL has no arrays
without elements and no structures without members.
-/

namespace VoxelEngine.Graphics

open VoxelEngine.Data

/-- `glsl_layout` -/
inductive GlslLayout where
  | std140
  | std430
  deriving DecidableEq

/-- The scalar types. -/
inductive Scalar where
  | bool
  | i32
  | u32
  | f32
  | f64
  deriving DecidableEq

/-- The dimensions of vectors and matrices. -/
inductive Dimension where
  | two
  | three
  | four
  deriving DecidableEq

def Dimension.toNat : Dimension → Nat
  | .two => 2
  | .three => 3
  | .four => 4

mutual

/-- A type that can be part of a block. -/
inductive GlslType where
  | scalar (kind : Scalar)
  /-- `vec<rows, T>` -/
  | vector (kind : Scalar) (rows : Dimension)
  /-- `mat<columns, rows, f32>` -/
  | matrix (columns rows : Dimension)
  /-- `std::array<T, length>` -/
  | array (element : GlslType) (length : Nat) (positive : 0 < length)
  /-- A class that can be decomposed into its members. -/
  | struct (members : GlslMembers)

/-- The members of a structure, in the order of their declaration. -/
inductive GlslMembers where
  | last (member : GlslType)
  | cons (member : GlslType) (others : GlslMembers)

end

/-! ## Values -/

/-- `sizeof(T)` for a scalar. -/
def Scalar.size : Scalar → Nat
  | .bool => 1
  | .i32 | .u32 | .f32 => 4
  | .f64 => 8

/-- The object representation of a scalar. -/
abbrev ScalarBytes (kind : Scalar) :=
  { bytes : List UInt8 // bytes.length = kind.size }

mutual

/-- The values of a type. -/
def GlslType.Value : GlslType → Type
  | .scalar kind => ScalarBytes kind
  | .vector kind rows => Fin rows.toNat → ScalarBytes kind
  | .matrix columns rows => Fin columns.toNat → Fin rows.toNat → ScalarBytes .f32
  | .array element length _ => Fin length → element.Value
  | .struct members => members.Values

/-- The values of the members of a structure. -/
def GlslMembers.Values : GlslMembers → Type
  | .last member => member.Value
  | .cons member others => member.Value × others.Values

end

mutual

/-- The object representations of the scalars in a value. -/
def GlslType.leaves : (type : GlslType) → type.Value → List (List UInt8)
  | .scalar _, value => [value.1]
  | .vector _ rows, value => (List.finRange rows.toNat).map fun row => (value row).1
  | .matrix columns rows, value => (List.finRange columns.toNat).flatMap fun column =>
      (List.finRange rows.toNat).map fun row => (value column row).1
  | .array element length _, value => (List.finRange length).flatMap fun index =>
      element.leaves (value index)
  | .struct members, value => members.leaves value

/-- The object representations of the scalars in the members of a structure. -/
def GlslMembers.leaves : (members : GlslMembers) → members.Values → List (List UInt8)
  | .last member, value => member.leaves value
  | .cons member others, value => member.leaves value.1 ++ others.leaves value.2

end

/-! ## The specification -/

namespace GlslLayout

/-- The basic machine units of a scalar. -/
def scalarUnits : Scalar → Nat
  | .bool | .i32 | .u32 | .f32 => 4
  | .f64 => 8

/-- The base alignment of a vector, two or four times that of its components. -/
def vectorAlignment (kind : Scalar) : Dimension → Nat
  | .two => 2 * scalarUnits kind
  | .three | .four => 4 * scalarUnits kind

/-- Arrays and structures have the alignment of what is in them, in `std140` rounded up to
that of a vector of four components. -/
def composite : GlslLayout → Nat → Nat
  | .std140, alignment => roundUp alignment 16
  | .std430, alignment => alignment

/-- The columns of a matrix are laid out like an array of vectors. -/
def columnStride (layout : GlslLayout) (rows : Dimension) : Nat :=
  roundUp (rows.toNat * scalarUnits .f32) (layout.composite (vectorAlignment .f32 rows))

end GlslLayout

mutual

/-- The base alignment of a type. -/
def GlslType.baseAlignment (layout : GlslLayout) : GlslType → Nat
  | .scalar kind => GlslLayout.scalarUnits kind
  | .vector kind rows => GlslLayout.vectorAlignment kind rows
  | .matrix _ rows => layout.composite (GlslLayout.vectorAlignment .f32 rows)
  | .array element _ _ => layout.composite (element.baseAlignment layout)
  | .struct members => layout.composite (members.largestAlignment layout)

/-- The largest base alignment of a member. -/
def GlslMembers.largestAlignment (layout : GlslLayout) : GlslMembers → Nat
  | .last member => member.baseAlignment layout
  | .cons member others => max (member.baseAlignment layout) (others.largestAlignment layout)

end

mutual

/-- The size of a type, including the padding at its end. -/
def GlslType.blockSize (layout : GlslLayout) : GlslType → Nat
  | .scalar kind => GlslLayout.scalarUnits kind
  | .vector kind rows => rows.toNat * GlslLayout.scalarUnits kind
  | .matrix columns rows => columns.toNat * layout.columnStride rows
  | .array element length _ =>
      length * roundUp (element.blockSize layout) (layout.composite (element.baseAlignment layout))
  | .struct members =>
      roundUp (members.blockEnd layout 0) (layout.composite (members.largestAlignment layout))

/-- Where the last member ends, if the first one may start at `cursor`. -/
def GlslMembers.blockEnd (layout : GlslLayout) (cursor : Nat) : GlslMembers → Nat
  | .last member => roundUp cursor (member.baseAlignment layout) + member.blockSize layout
  | .cons member others =>
      others.blockEnd layout
        (roundUp cursor (member.baseAlignment layout) + member.blockSize layout)

end

mutual

/-- The offsets of the scalars of a type from its start. -/
def GlslType.leafOffsets (layout : GlslLayout) : GlslType → List Nat
  | .scalar _ => [0]
  | .vector kind rows =>
      (List.range rows.toNat).map fun row => row * GlslLayout.scalarUnits kind
  | .matrix columns rows => (List.range columns.toNat).flatMap fun column =>
      (List.range rows.toNat).map fun row =>
        column * layout.columnStride rows + row * GlslLayout.scalarUnits .f32
  | .array element length _ => (List.range length).flatMap fun index =>
      (element.leafOffsets layout).map fun offset =>
        index * roundUp (element.blockSize layout)
          (layout.composite (element.baseAlignment layout)) + offset
  | .struct members => members.leafOffsets layout 0

/-- The offsets of the scalars of the members from the start of the structure. -/
def GlslMembers.leafOffsets (layout : GlslLayout) (cursor : Nat) : GlslMembers → List Nat
  | .last member => (member.leafOffsets layout).map fun offset =>
      roundUp cursor (member.baseAlignment layout) + offset
  | .cons member others =>
      ((member.leafOffsets layout).map fun offset =>
        roundUp cursor (member.baseAlignment layout) + offset) ++
      others.leafOffsets layout
        (roundUp cursor (member.baseAlignment layout) + member.blockSize layout)

end

end VoxelEngine.Graphics

/-!
## Writing values in a GLSL layout

Values are appended to an array of bytes, one scalar after the other, with padding where
the alignment of what comes next asks for it.
-/

namespace VoxelEngine.Graphics

open VoxelEngine.Data

/-! ## Alignment -/

/-- `get_glsl_alignment` of a scalar. -/
def scalarAlignment : Scalar → Nat
  | .bool | .i32 | .u32 | .f32 => 4
  | .f64 => 8

/-- `get_glsl_alignment` of a vector. -/
def glslVectorAlignment (kind : Scalar) (rows : Dimension) : Nat :=
  scalarAlignment kind * (if rows.toNat ≤ 2 then 2 else 4)

mutual

/-- `get_glsl_alignment` -/
def GlslType.getGlslAlignment (layout : GlslLayout) : GlslType → Nat
  | .scalar kind => scalarAlignment kind
  | .vector kind rows => glslVectorAlignment kind rows
  -- Matrices are aligned as if they consisted of vectors of four components.
  | .matrix _ _ => glslVectorAlignment .f32 .four
  | .array element _ _ =>
      if layout = .std140 then max (element.getGlslAlignment layout) 16
      else element.getGlslAlignment layout
  | .struct members => members.getGlslAlignment layout (if layout = .std140 then 16 else 0)

/-- The loop of `get_glsl_alignment` over the members of a structure. -/
def GlslMembers.getGlslAlignment (layout : GlslLayout) (alignment : Nat) : GlslMembers → Nat
  | .last member => max alignment (member.getGlslAlignment layout)
  | .cons member others =>
      others.getGlslAlignment layout (max alignment (member.getGlslAlignment layout))

end

/-! ## Emission -/

/-- `std::vector<u8>::resize`, filling up with zeros. -/
def resize (bytes : List UInt8) (size : Nat) : List UInt8 :=
  bytes.take size ++ List.replicate (size - bytes.length) 0

/-- `push_alignment` -/
def pushAlignment (alignment : Nat) (result : List UInt8) : List UInt8 :=
  resize result (nextAlignedAddress result.length alignment)

/-- `push_data` -/
def pushData (object : List UInt8) (alignment : Nat) (result : List UInt8) : List UInt8 :=
  let startAddress := nextAlignedAddress result.length alignment
  let resized := resize result (startAddress + object.length)
  resized.take startAddress ++ object ++ resized.drop (startAddress + object.length)

/-- `push_glsl_layout` of a vector. -/
def pushVector (kind : Scalar) (rows : Dimension) (value : Fin rows.toNat → ScalarBytes kind)
    (result : List UInt8) : List UInt8 :=
  (List.finRange rows.toNat).foldl
    (fun pushed row => pushData (value row).1 (scalarAlignment kind) pushed)
    (pushAlignment (glslVectorAlignment kind rows) result)

mutual

/-- `push_glsl_layout` -/
def GlslType.push (layout : GlslLayout) :
    (type : GlslType) → type.Value → Bool → List UInt8 → List UInt8
  | .scalar kind, value, _, result => pushData value.1 (scalarAlignment kind) result
  | .vector kind rows, value, _, result => pushVector kind rows value result
  | .matrix columns rows, value, _, result =>
      (List.finRange columns.toNat).foldl
        (fun pushed column => pushVector .f32 rows (value column) pushed)
        (pushAlignment ((GlslType.matrix columns rows).getGlslAlignment layout) result)
  | .array element length positive, value, _, result =>
      let alignment := (GlslType.array element length positive).getGlslAlignment layout
      pushAlignment alignment ((List.finRange length).foldl
        (fun pushed index =>
          element.push layout (value index) false (pushAlignment alignment pushed)) result)
  | .struct members, value, topLevel, result =>
      let alignment := (GlslType.struct members).getGlslAlignment layout
      let pushed := members.push layout value (pushAlignment alignment result)
      if topLevel then pushed else pushAlignment alignment pushed

/-- The loop of `push_glsl_layout` over the members of a structure. -/
def GlslMembers.push (layout : GlslLayout) :
    (members : GlslMembers) → members.Values → List UInt8 → List UInt8
  | .last member, value, result => member.push layout value false result
  | .cons member others, value, result =>
      others.push layout value.2 (member.push layout value.1 false result)

end

/-- `to_glsl_layout`, which is `to_std140` or `to_std430`. -/
def toGlslLayout (layout : GlslLayout) (type : GlslType) (value : type.Value) : List UInt8 :=
  type.push layout value true []

end VoxelEngine.Graphics
