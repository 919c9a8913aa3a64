import VoxelEngine.Graphics.GlslType
import Mathlib.Data.List.Forall2

/-!
# Where values are written

What is written for a value only depends on its type: the scalars come to lie at certain
distances from the first position that has the alignment of the type, and all other bytes
that are added are zero.
-/

namespace VoxelEngine.Graphics

open VoxelEngine.Data

/-! ## Added bytes -/

/-- The bytes from the offset on begin with the given ones. -/
def FoundAt (bytes : List UInt8) (offset : Nat) (leaf : List UInt8) : Prop :=
  leaf <+: bytes.drop offset

instance (bytes : List UInt8) (offset : Nat) (leaf : List UInt8) :
    Decidable (FoundAt bytes offset leaf) :=
  inferInstanceAs (Decidable (leaf <+: bytes.drop offset))

/-- Bytes were added, the leaves at their offsets and zeros elsewhere. -/
structure Emits (before after : List UInt8) (offsets : List Nat)
    (leaves : List (List UInt8)) : Prop where
  extends_before : before <+: after
  placed : List.Forall₂ (FoundAt after) offsets leaves
  elsewhere : ∀ position byte, before.length ≤ position → after[position]? = some byte →
    byte ≠ 0 → ∃ pair ∈ offsets.zip leaves, pair.1 ≤ position ∧
      position < pair.1 + pair.2.length ∧ byte ∈ pair.2

theorem FoundAt.mono {bytes more leaf : List UInt8} {offset : Nat} (grown : bytes <+: more)
    (found : FoundAt bytes offset leaf) : FoundAt more offset leaf := by
  rcases grown with ⟨tail, rfl⟩
  apply List.IsPrefix.trans found
  rw [List.drop_append]
  exact List.prefix_append _ _

namespace Emits

variable {before middle after : List UInt8} {offsets moreOffsets : List Nat}
  {leaves moreLeaves : List (List UInt8)}

theorem refl (bytes : List UInt8) : Emits bytes bytes [] [] where
  extends_before := List.prefix_refl bytes
  placed := List.Forall₂.nil
  elsewhere position byte le byteEq _ := by
    rw [List.getElem?_eq_none le] at byteEq
    cases byteEq

/-- What is added later does not touch what was added before. -/
theorem trans (first : Emits before middle offsets leaves)
    (second : Emits middle after moreOffsets moreLeaves) :
    Emits before after (offsets ++ moreOffsets) (leaves ++ moreLeaves) where
  extends_before := first.extends_before.trans second.extends_before
  placed := by
    apply List.rel_append _ second.placed
    exact first.placed.imp fun _ _ found => found.mono second.extends_before
  elsewhere position byte le byteEq nonzero := by
    rw [List.zip_append first.placed.length_eq]
    rcases Nat.lt_or_ge position middle.length with early | late
    · rcases second.extends_before with ⟨tail, rfl⟩
      rw [List.getElem?_append_left early] at byteEq
      rcases first.elsewhere position byte le byteEq nonzero with ⟨pair, mem, inside⟩
      exact ⟨pair, List.mem_append_left _ mem, inside⟩
    · rcases second.elsewhere position byte late byteEq nonzero with ⟨pair, mem, inside⟩
      exact ⟨pair, List.mem_append_right _ mem, inside⟩

/-- Zeros alone hold nothing. -/
theorem zeros (bytes : List UInt8) (count : Nat) :
    Emits bytes (bytes ++ List.replicate count 0) [] [] where
  extends_before := List.prefix_append _ _
  placed := List.Forall₂.nil
  elsewhere position byte le byteEq nonzero := by
    rw [List.getElem?_append_right le, List.getElem?_replicate] at byteEq
    split at byteEq
    · exact absurd (Option.some.inj byteEq).symm nonzero
    · cases byteEq

/-- A leaf holds itself. -/
theorem leaf (bytes object : List UInt8) :
    Emits bytes (bytes ++ object) [bytes.length] [object] where
  extends_before := List.prefix_append _ _
  placed := by
    apply List.Forall₂.cons _ List.Forall₂.nil
    exact ⟨[], by rw [List.append_nil, List.drop_left]⟩
  elsewhere position byte le byteEq _ := by
    rw [List.getElem?_append_right le] at byteEq
    rcases List.getElem?_eq_some_iff.mp byteEq with ⟨lt, getEq⟩
    refine ⟨(bytes.length, object), by simp, le, ?_, getEq ▸ List.getElem_mem lt⟩
    show position < bytes.length + object.length
    omega

end Emits

/-! ## Alignments -/

/-- One of the alignments that occur. -/
def IsAlignment (alignment : Nat) : Prop :=
  ∃ exponent, 2 ≤ exponent ∧ exponent ≤ 5 ∧ alignment = 2 ^ exponent

namespace IsAlignment

variable {alignment other : Nat}

theorem pos (isAlignment : IsAlignment alignment) : 0 < alignment := by
  rcases isAlignment with ⟨exponent, -, -, rfl⟩
  exact Nat.two_pow_pos exponent

/-- Of two alignments the smaller one divides the greater one. -/
theorem dvd_of_le (one : IsAlignment alignment) (two : IsAlignment other)
    (le : alignment ≤ other) : alignment ∣ other := by
  rcases one with ⟨first, -, -, rfl⟩
  rcases two with ⟨second, -, -, rfl⟩
  exact Nat.pow_dvd_pow 2 ((Nat.pow_le_pow_iff_right (Nat.lt_succ_self 1)).mp le)

theorem max (one : IsAlignment alignment) (two : IsAlignment other) :
    IsAlignment (max alignment other) := by
  rcases Nat.le_total alignment other with le | le
  · rwa [Nat.max_eq_right le]
  · rwa [Nat.max_eq_left le]

theorem nextAligned (isAlignment : IsAlignment alignment) (address : Nat) :
    nextAlignedAddress address alignment = roundUp address alignment := by
  rcases isAlignment with ⟨exponent, -, -, rfl⟩
  exact nextAlignedAddress_eq exponent

end IsAlignment

theorem isAlignment_sixteen : IsAlignment 16 :=
  ⟨4, by decide, by decide, by decide⟩

theorem isAlignment_scalar (kind : Scalar) : IsAlignment (scalarAlignment kind) := by
  cases kind
  case f64 => exact ⟨3, by decide, by decide, by decide⟩
  all_goals exact ⟨2, by decide, by decide, by decide⟩

theorem isAlignment_vector (kind : Scalar) (rows : Dimension) :
    IsAlignment (glslVectorAlignment kind rows) := by
  cases kind
  case f64 =>
    cases rows
    case two => exact ⟨4, by decide, by decide, by decide⟩
    all_goals exact ⟨5, by decide, by decide, by decide⟩
  all_goals
    cases rows
    case two => exact ⟨3, by decide, by decide, by decide⟩
    all_goals exact ⟨4, by decide, by decide, by decide⟩

variable (layout : GlslLayout)

/-- The largest alignment of a member. -/
def GlslMembers.greatest : GlslMembers → Nat
  | .last member => member.getGlslAlignment layout
  | .cons member others => Max.max (member.getGlslAlignment layout) others.greatest

theorem GlslMembers.getGlslAlignment_eq : (alignment : Nat) → (members : GlslMembers) →
    members.getGlslAlignment layout alignment = Max.max alignment (members.greatest layout)
  | _, .last _ => rfl
  | alignment, .cons member others => by
      rw [getGlslAlignment, getGlslAlignment_eq, greatest, Nat.max_assoc]

mutual

theorem GlslType.isAlignment : (type : GlslType) → IsAlignment (type.getGlslAlignment layout)
  | .scalar kind => isAlignment_scalar kind
  | .vector kind rows => isAlignment_vector kind rows
  | .matrix _ _ => isAlignment_vector .f32 .four
  | .array element _ _ => by
      rw [GlslType.getGlslAlignment]
      split
      · exact element.isAlignment.max isAlignment_sixteen
      · exact element.isAlignment
  | .struct members => by
      rw [GlslType.getGlslAlignment, GlslMembers.getGlslAlignment_eq]
      split
      · exact isAlignment_sixteen.max members.isAlignment
      · rw [Nat.zero_max]
        exact members.isAlignment

theorem GlslMembers.isAlignment : (members : GlslMembers) → IsAlignment (members.greatest layout)
  | .last member => member.isAlignment
  | .cons member others => member.isAlignment.max others.isAlignment

end

theorem GlslMembers.member_dvd (member : GlslType) (others : GlslMembers) :
    member.getGlslAlignment layout ∣ (GlslMembers.cons member others).greatest layout := by
  apply (member.isAlignment layout).dvd_of_le ((GlslMembers.cons member others).isAlignment layout)
  exact Nat.le_max_left _ _

theorem GlslMembers.others_dvd (member : GlslType) (others : GlslMembers) :
    others.greatest layout ∣ (GlslMembers.cons member others).greatest layout := by
  apply (others.isAlignment layout).dvd_of_le ((GlslMembers.cons member others).isAlignment layout)
  exact Nat.le_max_right _ _

/-- An array is at least aligned like its elements. -/
theorem GlslType.element_dvd (element : GlslType) (length : Nat) (positive : 0 < length) :
    element.getGlslAlignment layout ∣
      (GlslType.array element length positive).getGlslAlignment layout := by
  apply (element.isAlignment layout).dvd_of_le (GlslType.isAlignment layout _)
  rw [GlslType.getGlslAlignment]
  split
  · exact Nat.le_max_left _ _
  · exact Nat.le_refl _

/-- A structure is at least aligned like its members. -/
theorem GlslMembers.greatest_dvd (members : GlslMembers) :
    members.greatest layout ∣ (GlslType.struct members).getGlslAlignment layout := by
  apply (members.isAlignment layout).dvd_of_le (GlslType.isAlignment layout _)
  rw [GlslType.getGlslAlignment, GlslMembers.getGlslAlignment_eq]
  exact Nat.le_max_right _ _

/-! ## Relative positions -/

/-- How far apart the columns of a matrix are written. -/
def columnStep (rows : Dimension) : Nat :=
  roundUp (rows.toNat * 4) (glslVectorAlignment .f32 rows)

mutual

/-- How far what is written for a nested value of the type extends. -/
def GlslType.extent : GlslType → Nat
  | .scalar kind => kind.size
  | .vector kind rows => (rows.toNat - 1) * scalarAlignment kind + kind.size
  | .matrix columns rows => (columns.toNat - 1) * columnStep rows + rows.toNat * 4
  | .array element length positive =>
      length * roundUp element.extent
        ((GlslType.array element length positive).getGlslAlignment layout)
  | .struct members =>
      roundUp (members.extent 0) ((GlslType.struct members).getGlslAlignment layout)

/-- How far what is written for the members extends, if it starts at `cursor`. -/
def GlslMembers.extent (cursor : Nat) : GlslMembers → Nat
  | .last member => roundUp cursor (member.getGlslAlignment layout) + member.extent
  | .cons member others =>
      others.extent (roundUp cursor (member.getGlslAlignment layout) + member.extent)

end

mutual

/-- The offsets at which the scalars of a type are written. -/
def GlslType.written : GlslType → List Nat
  | .scalar _ => [0]
  | .vector kind rows => (List.range rows.toNat).map fun row => row * scalarAlignment kind
  | .matrix columns rows => (List.range columns.toNat).flatMap fun column =>
      (List.range rows.toNat).map fun row => column * columnStep rows + row * 4
  | .array element length positive => (List.range length).flatMap fun index =>
      element.written.map fun offset =>
        index * roundUp (element.extent layout)
          ((GlslType.array element length positive).getGlslAlignment layout) + offset
  | .struct members => members.written 0

/-- The offsets at which the scalars of the members are written. -/
def GlslMembers.written (cursor : Nat) : GlslMembers → List Nat
  | .last member =>
      member.written.map fun offset => roundUp cursor (member.getGlslAlignment layout) + offset
  | .cons member others =>
      (member.written.map fun offset =>
        roundUp cursor (member.getGlslAlignment layout) + offset) ++
      others.written (roundUp cursor (member.getGlslAlignment layout) + member.extent layout)

end

/-! ## What is written -/

theorem length_resize {bytes : List UInt8} {size : Nat} (le : bytes.length ≤ size) :
    resize bytes size = bytes ++ List.replicate (size - bytes.length) 0 := by
  rw [resize, List.take_of_length_le le]

variable {alignment : Nat} (isAlignment : IsAlignment alignment)
include isAlignment

theorem pushAlignment_eq (result : List UInt8) : pushAlignment alignment result =
    result ++ List.replicate (roundUp result.length alignment - result.length) 0 := by
  rw [pushAlignment, isAlignment.nextAligned, length_resize (le_roundUp isAlignment.pos)]

theorem length_pushAlignment (result : List UInt8) :
    (pushAlignment alignment result).length = roundUp result.length alignment := by
  have le : result.length ≤ roundUp result.length alignment := le_roundUp isAlignment.pos
  rw [pushAlignment_eq isAlignment, List.length_append, List.length_replicate]
  omega

theorem emits_pushAlignment (result : List UInt8) :
    Emits result (pushAlignment alignment result) [] [] := by
  rw [pushAlignment_eq isAlignment]
  exact Emits.zeros result _

/-- Data is written behind padding. -/
theorem pushData_eq (object result : List UInt8) :
    pushData object alignment result = pushAlignment alignment result ++ object := by
  have le : result.length ≤ roundUp result.length alignment := le_roundUp isAlignment.pos
  have length_eq := length_pushAlignment isAlignment result
  have resized : resize result (roundUp result.length alignment + object.length) =
      pushAlignment alignment result ++ List.replicate object.length 0 := by
    rw [length_resize (by omega), pushAlignment_eq isAlignment, List.append_assoc,
      List.replicate_append_replicate]
    congr 2
    omega
  rw [pushData, isAlignment.nextAligned]
  simp only [resized]
  rw [← length_eq, List.take_left, List.drop_of_length_le (by simp), List.append_nil]

theorem emits_pushData (object result : List UInt8) :
    Emits result (pushData object alignment result) [roundUp result.length alignment] [object] ∧
      (pushData object alignment result).length =
        roundUp result.length alignment + object.length := by
  have length_eq := length_pushAlignment isAlignment result
  rw [pushData_eq isAlignment, List.length_append, length_eq]
  refine ⟨?_, rfl⟩
  have written := Emits.leaf (pushAlignment alignment result) object
  rw [length_eq] at written
  exact (emits_pushAlignment isAlignment result).trans written

/-- A loop whose rounds write the same offsets from the next aligned position on. -/
theorem emits_foldl {count extent : Nat} {offsets : List Nat}
    {leaves : Fin count → List (List UInt8)} (round : Fin count → List UInt8 → List UInt8)
    (rounds : ∀ index result,
      Emits result (round index result)
          (offsets.map fun offset => roundUp result.length alignment + offset) (leaves index) ∧
        (round index result).length = roundUp result.length alignment + extent)
    (result : List UInt8) {base : Nat} (aligned : alignment ∣ base)
    (start : roundUp result.length alignment = base) :
    Emits result ((List.finRange count).foldl (fun pushed index => round index pushed) result)
        ((List.range count).flatMap fun index =>
          offsets.map fun offset => base + (index * roundUp extent alignment + offset))
        ((List.finRange count).flatMap leaves) ∧
      roundUp ((List.finRange count).foldl (fun pushed index => round index pushed)
        result).length alignment = base + count * roundUp extent alignment ∧
      (0 < count → ((List.finRange count).foldl (fun pushed index => round index pushed)
        result).length = base + ((count - 1) * roundUp extent alignment + extent)) := by
  induction count generalizing result base with
  | zero =>
      refine ⟨Emits.refl result, ?_, fun absurd => (Nat.lt_irrefl 0 absurd).elim⟩
      rw [Nat.zero_mul]
      exact start
  | succ count ih =>
      rcases rounds 0 result with ⟨firstEmits, firstLength⟩
      rw [start] at firstEmits firstLength
      have nextStart : roundUp (round 0 result).length alignment =
          base + roundUp extent alignment := by
        rw [firstLength, roundUp_add isAlignment.pos aligned]
      have nextAligned : alignment ∣ base + roundUp extent alignment :=
        Nat.dvd_add aligned dvd_roundUp
      rcases ih (fun index => round index.succ) (fun index => rounds index.succ) (round 0 result)
        nextAligned nextStart with ⟨restEmits, restRound, restLength⟩
      have shift : ∀ index offset, base + roundUp extent alignment +
          (index * roundUp extent alignment + offset) =
            base + (index.succ * roundUp extent alignment + offset) := by
        intro index offset
        rw [Nat.succ_mul]
        omega
      simp only [shift] at restEmits
      simp only [List.finRange_succ, List.foldl_cons, List.foldl_map, List.range_succ_eq_map,
        List.flatMap_cons, List.flatMap_map, Nat.zero_mul, Nat.zero_add]
      refine ⟨firstEmits.trans restEmits, ?_, ?_⟩
      · rw [restRound, Nat.succ_mul]
        omega
      · intro _
        rcases Nat.eq_zero_or_pos count with rfl | positive
        · simpa using firstLength
        · rw [restLength positive, Nat.add_sub_cancel]
          rcases Nat.exists_eq_succ_of_ne_zero positive.ne' with ⟨before, rfl⟩
          rw [Nat.succ_sub_one, Nat.succ_mul]
          omega

omit isAlignment

/-- The components of a vector fill its alignment without gaps. -/
@[simp]
theorem roundUp_size (kind : Scalar) :
    roundUp kind.size (scalarAlignment kind) = scalarAlignment kind := by
  cases kind <;> rfl

theorem scalarAlignment_dvd (kind : Scalar) (rows : Dimension) :
    scalarAlignment kind ∣ glslVectorAlignment kind rows :=
  Nat.dvd_mul_right _ _

theorem emits_pushVector (kind : Scalar) (rows : Dimension)
    (value : Fin rows.toNat → ScalarBytes kind) (result : List UInt8) :
    Emits result (pushVector kind rows value result)
        (((List.range rows.toNat).map fun row => row * scalarAlignment kind).map fun offset =>
          roundUp result.length (glslVectorAlignment kind rows) + offset)
        ((List.finRange rows.toNat).map fun row => (value row).1) ∧
      (pushVector kind rows value result).length =
        roundUp result.length (glslVectorAlignment kind rows) +
          ((rows.toNat - 1) * scalarAlignment kind + kind.size) := by
  have vectorAligned := isAlignment_vector kind rows
  have aligned : scalarAlignment kind ∣ roundUp result.length (glslVectorAlignment kind rows) :=
    (scalarAlignment_dvd kind rows).trans dvd_roundUp
  have positive : 0 < rows.toNat := by cases rows <;> decide
  have rounds : ∀ (row : Fin rows.toNat) (pushed : List UInt8),
      Emits pushed (pushData (value row).1 (scalarAlignment kind) pushed)
          ([0].map fun offset => roundUp pushed.length (scalarAlignment kind) + offset)
          [(value row).1] ∧
        (pushData (value row).1 (scalarAlignment kind) pushed).length =
          roundUp pushed.length (scalarAlignment kind) + kind.size := by
    intro row pushed
    have written := emits_pushData (isAlignment_scalar kind) (value row).1 pushed
    rw [(value row).2] at written
    exact written
  rcases emits_foldl (isAlignment_scalar kind) _ rounds
    (pushAlignment (glslVectorAlignment kind rows) result) aligned
    (by rw [length_pushAlignment vectorAligned, roundUp_of_dvd aligned]) with
    ⟨emits, -, length_eq⟩
  rw [roundUp_size] at emits length_eq
  constructor
  · have whole := (emits_pushAlignment vectorAligned result).trans emits
    rw [List.map_map, List.map_eq_flatMap, List.map_eq_flatMap]
    exact whole
  · exact length_eq positive

mutual

theorem GlslType.emits_push : (type : GlslType) → (value : type.Value) → (topLevel : Bool) →
    (result : List UInt8) →
    Emits result (type.push layout value topLevel result)
        ((type.written layout).map fun offset =>
          roundUp result.length (type.getGlslAlignment layout) + offset)
        (type.leaves value) ∧
      (topLevel = false → (type.push layout value topLevel result).length =
        roundUp result.length (type.getGlslAlignment layout) + type.extent layout)
  | .scalar kind, value, topLevel, result => by
      rcases emits_pushData (isAlignment_scalar kind) value.1 result with ⟨emits, length_eq⟩
      rw [value.2] at length_eq
      exact ⟨emits, fun _ => length_eq⟩
  | .vector kind rows, value, topLevel, result => by
      rcases emits_pushVector kind rows value result with ⟨emits, length_eq⟩
      exact ⟨emits, fun _ => length_eq⟩
  | .matrix columns rows, value, topLevel, result => by
      have matrixAligned := isAlignment_vector .f32 .four
      have columnAligned := isAlignment_vector .f32 rows
      have aligned : glslVectorAlignment .f32 rows ∣
          roundUp result.length (glslVectorAlignment .f32 .four) :=
        (by cases rows <;> decide : glslVectorAlignment .f32 rows ∣
          glslVectorAlignment .f32 .four).trans dvd_roundUp
      have positive : 0 < columns.toNat := by cases columns <;> decide
      have extent_eq : (rows.toNat - 1) * scalarAlignment .f32 + Scalar.f32.size =
          rows.toNat * 4 := by
        cases rows <;> rfl
      rcases emits_foldl columnAligned _
        (fun column pushed => emits_pushVector .f32 rows (value column) pushed)
        (pushAlignment (glslVectorAlignment .f32 .four) result) aligned
        (by rw [length_pushAlignment matrixAligned, roundUp_of_dvd aligned]) with
        ⟨emits, -, length_eq⟩
      rw [extent_eq] at emits length_eq
      constructor
      · have whole := (emits_pushAlignment matrixAligned result).trans emits
        simp only [List.map_map] at whole
        rw [GlslType.written, List.map_flatMap]
        simp only [List.map_map]
        exact whole
      · intro _
        exact length_eq positive
  | .array element length positive, value, topLevel, result => by
      have arrayAligned := (GlslType.array element length positive).isAlignment layout
      have element_dvd := element.element_dvd layout length positive
      generalize alignment_eq :
        (GlslType.array element length positive).getGlslAlignment layout = alignment at *
      have rounds : ∀ (index : Fin length) (pushed : List UInt8),
          Emits pushed (element.push layout (value index) false (pushAlignment alignment pushed))
              ((element.written layout).map fun offset =>
                roundUp pushed.length alignment + offset)
              (element.leaves (value index)) ∧
            (element.push layout (value index) false (pushAlignment alignment pushed)).length =
              roundUp pushed.length alignment + element.extent layout := by
        intro index pushed
        rcases element.emits_push (value index) false (pushAlignment alignment pushed) with
          ⟨emits, length_eq⟩
        rw [length_pushAlignment arrayAligned, roundUp_of_dvd (element_dvd.trans dvd_roundUp)]
          at emits length_eq
        exact ⟨(emits_pushAlignment arrayAligned pushed).trans emits, length_eq rfl⟩
      rcases emits_foldl arrayAligned _ rounds result dvd_roundUp rfl with
        ⟨emits, round_eq, -⟩
      have whole := emits.trans (emits_pushAlignment arrayAligned _)
      rw [List.append_nil, List.append_nil] at whole
      rw [GlslType.push, alignment_eq]
      constructor
      · rw [GlslType.written, List.map_flatMap, alignment_eq]
        simp only [List.map_map]
        exact whole
      · intro _
        rw [length_pushAlignment arrayAligned, round_eq, GlslType.extent, alignment_eq]
  | .struct members, value, topLevel, result => by
      have structAligned := (GlslType.struct members).isAlignment layout
      have greatest_dvd := members.greatest_dvd layout
      have length_aligned := length_pushAlignment structAligned result
      rcases members.emits_push value (pushAlignment _ result) _ 0
        (greatest_dvd.trans dvd_roundUp) length_aligned with ⟨emits, length_eq⟩
      have whole := (emits_pushAlignment structAligned result).trans emits
      rw [GlslType.push]
      cases topLevel with
      | true => exact ⟨whole, fun absurd => by cases absurd⟩
      | false =>
          have padded := whole.trans (emits_pushAlignment structAligned _)
          rw [List.append_nil, List.append_nil] at padded
          refine ⟨padded, fun _ => ?_⟩
          simp only [Bool.false_eq_true, if_false]
          rw [length_pushAlignment structAligned, length_eq,
            roundUp_add structAligned.pos dvd_roundUp, GlslType.extent]

theorem GlslMembers.emits_push : (members : GlslMembers) → (value : members.Values) →
    (result : List UInt8) → (base cursor : Nat) → members.greatest layout ∣ base →
    result.length = base + cursor →
    Emits result (members.push layout value result)
        ((members.written layout cursor).map fun offset => base + offset)
        (members.leaves value) ∧
      (members.push layout value result).length = base + members.extent layout cursor
  | .last member, value, result, base, cursor, aligned, length_eq => by
      have start : roundUp result.length (member.getGlslAlignment layout) =
          base + roundUp cursor (member.getGlslAlignment layout) := by
        rw [length_eq, roundUp_add (member.isAlignment layout).pos aligned]
      rcases member.emits_push value false result with ⟨emits, member_length⟩
      rw [start] at emits member_length
      refine ⟨?_, ?_⟩
      · simp only [Nat.add_assoc] at emits
        rw [GlslMembers.written, List.map_map]
        exact emits
      · rw [GlslMembers.push, member_length rfl, GlslMembers.extent, Nat.add_assoc]
  | .cons member others, value, result, base, cursor, aligned, length_eq => by
      have member_dvd := (GlslMembers.member_dvd layout member others).trans aligned
      have others_dvd := (GlslMembers.others_dvd layout member others).trans aligned
      have start : roundUp result.length (member.getGlslAlignment layout) =
          base + roundUp cursor (member.getGlslAlignment layout) := by
        rw [length_eq, roundUp_add (member.isAlignment layout).pos member_dvd]
      rcases member.emits_push value.1 false result with ⟨emits, member_length⟩
      rw [start] at emits member_length
      have next_length := member_length rfl
      rw [Nat.add_assoc] at next_length
      rcases others.emits_push value.2 (member.push layout value.1 false result) base _ others_dvd
        next_length with ⟨restEmits, rest_length⟩
      refine ⟨?_, ?_⟩
      · simp only [Nat.add_assoc] at emits
        rw [GlslMembers.written, List.map_append, List.map_map]
        exact emits.trans restEmits
      · rw [GlslMembers.push, rest_length, GlslMembers.extent]

end

end VoxelEngine.Graphics
