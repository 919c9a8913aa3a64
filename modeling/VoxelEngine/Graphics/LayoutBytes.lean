import VoxelEngine.Graphics.LayoutRegularity
import Mathlib.Data.Fin.Tuple.Basic

/-!
# What is found at the offsets of the layout rules

Every type has values with any scalars in its places.  So a value in which a single scalar
differs from zero shows where that scalar is written, and the bytes of all values are laid
out as the rules have it if and only if the offsets agree.
-/

namespace VoxelEngine.Graphics

open VoxelEngine.Data

/-! ## Values with given scalars -/

mutual

/-- The scalar types in a type. -/
def GlslType.scalars : GlslType → List Scalar
  | .scalar kind => [kind]
  | .vector kind rows => (List.finRange rows.toNat).flatMap fun _ => [kind]
  | .matrix columns rows => (List.finRange columns.toNat).flatMap fun _ =>
      (List.finRange rows.toNat).flatMap fun _ => [.f32]
  | .array element length _ => (List.finRange length).flatMap fun _ => element.scalars
  | .struct members => members.scalars

def GlslMembers.scalars : GlslMembers → List Scalar
  | .last member => member.scalars
  | .cons member others => member.scalars ++ others.scalars

end

/-- The leaves are object representations of the scalar types. -/
def Fits (leaves : List (List UInt8)) (kinds : List Scalar) : Prop :=
  leaves.map List.length = kinds.map Scalar.size

/-- Leaves for several pieces are divided into leaves for each of them. -/
theorem Fits.pieces {count : Nat} {kinds : List Scalar} {leaves : List (List UInt8)}
    (fits : Fits leaves ((List.finRange count).flatMap fun _ => kinds)) :
    ∃ pieces : Fin count → List (List UInt8),
      (List.finRange count).flatMap pieces = leaves ∧ ∀ index, Fits (pieces index) kinds := by
  induction count generalizing leaves with
  | zero =>
      refine ⟨fun _ => [], ?_, fun index => index.elim0⟩
      exact (List.map_eq_nil_iff.mp fits).symm
  | succ count ih =>
      rw [Fits, List.finRange_succ, List.flatMap_cons, List.map_append, List.flatMap_map] at fits
      rcases List.map_eq_append_iff.mp fits with ⟨first, others, rfl, firstFits, othersFit⟩
      rcases ih othersFit with ⟨pieces, rfl, piecesFit⟩
      refine ⟨Fin.cons first pieces, ?_, ?_⟩
      · simp [List.finRange_succ, List.flatMap_map]
      · intro index
        refine Fin.cases ?_ ?_ index
        · exact firstFits
        · exact piecesFit

/-- A single leaf that fits is an object representation. -/
theorem Fits.single {kind : Scalar} {leaves : List (List UInt8)} (fits : Fits leaves [kind]) :
    ∃ bytes : ScalarBytes kind, [bytes.1] = leaves := by
  rcases List.map_eq_singleton_iff.mp fits with ⟨bytes, rfl, length_eq⟩
  exact ⟨⟨bytes, length_eq⟩, rfl⟩

theorem Fits.vector {kind : Scalar} {count : Nat} {leaves : List (List UInt8)}
    (fits : Fits leaves ((List.finRange count).flatMap fun _ => [kind])) :
    ∃ value : Fin count → ScalarBytes kind,
      ((List.finRange count).map fun row => (value row).1) = leaves := by
  rcases fits.pieces with ⟨pieces, rfl, piecesFit⟩
  choose value value_eq using fun row => (piecesFit row).single
  refine ⟨value, ?_⟩
  rw [List.map_eq_flatMap]
  simp only [value_eq]

mutual

/-- Every choice of scalars occurs in a value. -/
theorem GlslType.exists_value : (type : GlslType) → {leaves : List (List UInt8)} →
    Fits leaves type.scalars → ∃ value, type.leaves value = leaves
  | .scalar _, _, fits => fits.single
  | .vector _ _, _, fits => fits.vector
  | .matrix columns rows, _, fits => by
      rcases fits.pieces with ⟨pieces, rfl, piecesFit⟩
      choose value value_eq using fun column => (piecesFit column).vector
      refine ⟨value, ?_⟩
      show ((List.finRange columns.toNat).flatMap fun column =>
        (List.finRange rows.toNat).map fun row => (value column row).1) = _
      simp only [value_eq]
  | .array element length _, _, fits => by
      rcases fits.pieces with ⟨pieces, rfl, piecesFit⟩
      choose value value_eq using fun index => element.exists_value (piecesFit index)
      refine ⟨value, ?_⟩
      show ((List.finRange length).flatMap fun index => element.leaves (value index)) = _
      simp only [value_eq]
  | .struct members, _, fits => members.exists_value fits

theorem GlslMembers.exists_value : (members : GlslMembers) → {leaves : List (List UInt8)} →
    Fits leaves members.scalars → ∃ value, members.leaves value = leaves
  | .last member, _, fits => member.exists_value fits
  | .cons member others, _, fits => by
      rw [Fits, GlslMembers.scalars, List.map_append] at fits
      rcases List.map_eq_append_iff.mp fits with ⟨first, rest, rfl, firstFits, restFits⟩
      rcases member.exists_value firstFits with ⟨value, rfl⟩
      rcases others.exists_value restFits with ⟨values, rfl⟩
      exact ⟨(value, values), rfl⟩

end

theorem Scalar.size_pos (kind : Scalar) : 0 < kind.size := by
  cases kind <;> decide

/-! ## Marked scalars -/

/-- Leaves of which only the one at the index differs from zero. -/
def marked (kinds : List Scalar) (marker : Nat) : List (List UInt8) :=
  kinds.mapIdx fun index kind => List.replicate kind.size (if index = marker then 255 else 0)

theorem fits_marked (kinds : List Scalar) (marker : Nat) : Fits (marked kinds marker) kinds := by
  rw [Fits, marked]
  apply List.ext_getElem
  · simp
  · intro index _ _
    simp

theorem getElem_marked {kinds : List Scalar} {marker index : Nat}
    (lt : index < (marked kinds marker).length) :
    ∃ kind : Scalar, (marked kinds marker)[index] =
      List.replicate kind.size (if index = marker then 255 else 0) := by
  simp only [marked, List.getElem_mapIdx]
  exact ⟨_, rfl⟩

variable {layout : GlslLayout} {type : GlslType}

/-- The scalars of a value are found where the layout rules have them. -/
def LaidOut (layout : GlslLayout) (type : GlslType) (value : type.Value) : Prop :=
  List.Forall₂ (FoundAt (toGlslLayout layout type value)) (type.leafOffsets layout)
    (type.leaves value)

theorem emits_toGlslLayout (value : type.Value) :
    Emits [] (toGlslLayout layout type value) (type.written layout) (type.leaves value) := by
  have emits := (type.emits_push layout value true []).1
  rw [List.length_nil, roundUp_zero] at emits
  simpa [toGlslLayout] using emits

/-- A byte that differs from zero belongs to the marked scalar. -/
theorem byte_of_marked {value : type.Value} {marker : Nat}
    (value_eq : type.leaves value = marked type.scalars marker)
    {position : Nat} {byte : UInt8}
    (byteEq : (toGlslLayout layout type value)[position]? = some byte) (nonzero : byte ≠ 0) :
    ∃ start leaf, (type.written layout)[marker]? = some start ∧
      (type.leaves value)[marker]? = some leaf ∧
      start ≤ position ∧ position < start + leaf.length := by
  rcases (emits_toGlslLayout value).elsewhere position byte (Nat.zero_le _) byteEq nonzero with
    ⟨⟨start, leaf⟩, mem, le, lt, byteMem⟩
  rcases List.getElem_of_mem mem with ⟨index, bound, pair_eq⟩
  rw [List.getElem_zip] at pair_eq
  rcases Prod.mk.inj pair_eq with ⟨start_eq, leaf_eq⟩
  rw [List.length_zip, Nat.lt_min] at bound
  have isMarker : index = marker := by
    by_contra other
    have isMarked := leaf_eq
    simp only [value_eq] at isMarked
    have bounded := bound.2
    rw [value_eq] at bounded
    rcases getElem_marked bounded with ⟨kind, zeros⟩
    rw [isMarked, if_neg other] at zeros
    rw [show leaf = _ from zeros] at byteMem
    exact nonzero (List.eq_of_mem_replicate byteMem)
  subst isMarker
  refine ⟨start, leaf, ?_, ?_, le, lt⟩
  · rw [List.getElem?_eq_getElem bound.1, start_eq]
  · rw [List.getElem?_eq_getElem bound.2, leaf_eq]

/-- The bytes of a leaf are where it is found. -/
theorem FoundAt.getElem? {bytes leaf : List UInt8} {offset index : Nat}
    (found : FoundAt bytes offset leaf) (lt : index < leaf.length) :
    bytes[offset + index]? = leaf[index]? := by
  rcases found with ⟨tail, drop_eq⟩
  rw [← List.getElem?_drop, ← drop_eq, List.getElem?_append_left lt]

/-- Where the marked scalars of all values are found is where they are written. -/
theorem written_of_laidOut (laid : ∀ value, LaidOut layout type value) :
    type.written layout = type.leafOffsets layout := by
  apply List.ext_getElem (type.length_written layout)
  intro marker lt specified_lt
  rcases type.exists_value (fits_marked type.scalars marker) with ⟨value, value_eq⟩
  have placed := laid value
  have bound : marker < (type.leaves value).length := placed.length_eq ▸ specified_lt
  have found : FoundAt (toGlslLayout layout type value) (type.leafOffsets layout)[marker]
      (type.leaves value)[marker] :=
    placed.get specified_lt bound
  have marked_bound := bound
  rw [value_eq] at marked_bound
  rcases getElem_marked marked_bound with ⟨kind, isMarked⟩
  have leaf_eq : (type.leaves value)[marker] = List.replicate kind.size 255 := by
    simp only [value_eq, isMarked, if_true]
  have inside : ∀ index, index < kind.size →
      (type.written layout)[marker] ≤ (type.leafOffsets layout)[marker] + index ∧
        (type.leafOffsets layout)[marker] + index <
          (type.written layout)[marker] + kind.size := by
    intro index index_lt
    have leaf_lt : index < ((type.leaves value)[marker]).length := by
      rwa [leaf_eq, List.length_replicate]
    have byteEq := found.getElem? leaf_lt
    rw [leaf_eq, List.getElem?_replicate, if_pos index_lt] at byteEq
    rcases byte_of_marked value_eq byteEq (by decide) with
      ⟨start, leaf, start_eq, marked_eq, le, position_lt⟩
    rw [List.getElem?_eq_getElem lt] at start_eq
    rw [List.getElem?_eq_getElem bound, leaf_eq] at marked_eq
    cases start_eq
    cases marked_eq
    rw [List.length_replicate] at position_lt
    exact ⟨le, position_lt⟩
  -- The first and the last byte leave only one place.
  have positive := kind.size_pos
  have first := inside 0 positive
  have last := inside (kind.size - 1) (by omega)
  omega

/-- All values of a type are laid out as the rules have it if and only if it is regular. -/
theorem laidOut_iff_regular (layout : GlslLayout) (type : GlslType) :
    (∀ value, LaidOut layout type value) ↔ type.Regular layout := by
  rw [← type.written_iff]
  constructor
  · exact written_of_laidOut
  · intro equal value
    rw [LaidOut, ← equal]
    exact (emits_toGlslLayout value).placed

/-- The object representation of `1.0f`. -/
def oneBytes : ScalarBytes .f32 :=
  ⟨[0x00, 0x00, 0x80, 0x3f], by decide⟩

/-- A member behind a matrix with three rows, the columns of a matrix with two rows and a
matrix with two rows behind another member are not where the rules have them. -/
theorem matrices_misplaced :
    ¬LaidOut .std140 (.struct (.cons (.matrix .three .three) (.last (.scalar .f32))))
        (fun _ _ => oneBytes, oneBytes) ∧
      ¬LaidOut .std430 (.struct (.cons (.matrix .three .three) (.last (.scalar .f32))))
        (fun _ _ => oneBytes, oneBytes) ∧
      ¬LaidOut .std140 (.matrix .two .two) (fun _ _ => oneBytes) ∧
      ¬LaidOut .std430 (.struct (.cons (.scalar .f32) (.last (.matrix .two .two))))
        (oneBytes, fun _ _ => oneBytes) := by
  simp only [LaidOut]
  decide +kernel

end VoxelEngine.Graphics
