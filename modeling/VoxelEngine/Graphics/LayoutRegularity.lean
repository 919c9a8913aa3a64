import VoxelEngine.Graphics.LayoutAgreement

/-!
# The regular types

The regular types are exactly those whose scalars are written at the offsets that the layout
rules have for them.  The induction carries along how what was written so far ends, compared
to where the rules have it end.
-/

namespace VoxelEngine.Graphics

open VoxelEngine.Data

variable {layout : GlslLayout}

/-! ## How regular types end -/

/-- Ends are related in the same way from every aligned position on. -/
theorem Ends.shift {type : GlslType} {written specified base : Nat}
    (ends : Ends layout (some type) written specified)
    (aligned : type.getGlslAlignment layout ∣ base) :
    Ends layout (some type) (base + written) (base + specified) := by
  have isAlignment := type.isAlignment layout
  cases ends with
  | alike notEarly notLate le bounded =>
      have four_dvd : 4 ∣ base := by
        rcases isAlignment with ⟨exponent, lower, -, alignment_eq⟩
        rw [alignment_eq] at aligned
        exact (Nat.pow_dvd_pow 2 lower).trans aligned
      apply Ends.alike notEarly notLate (Nat.add_le_add_left le base)
      rw [roundUp_add (by decide) four_dvd]
      exact Nat.add_le_add_left bounded base
  | early endsEarly multiple =>
      rw [endsEarly.alignment] at aligned
      apply Ends.early endsEarly
      rw [Nat.add_assoc]
      exact Nat.dvd_add aligned multiple
  | late endsLate =>
      rw [endsLate.overaligned.alignment] at aligned
      rw [← roundUp_add (by decide) aligned]
      exact Ends.late endsLate

/-- An array or structure is padded to its alignment. -/
theorem ends_padded {type : GlslType} (notEarly : ¬type.EndsEarly)
    (late_iff : type.EndsLate layout ↔ type.Overaligned layout ∧ ¬16 ∣ type.blockSize layout)
    (divides : type.baseAlignment layout ∣ type.blockSize layout)
    (padded : type.extent layout =
      roundUp (type.blockSize layout) (type.getGlslAlignment layout)) :
    Ends layout (some type) (type.extent layout) (type.blockSize layout) := by
  rcases type.alignment_cases layout with ⟨notOver, equal⟩ | ⟨overaligned, -, sixteen⟩
  · rw [padded, equal, roundUp_of_dvd divides]
    apply Ends.alike notEarly
    · exact fun endsLate => notOver endsLate.overaligned
    · exact Nat.le_refl _
    · exact le_roundUp (by decide)
  · rw [padded, sixteen]
    by_cases multiple : 16 ∣ type.blockSize layout
    · rw [roundUp_of_dvd multiple]
      apply Ends.alike notEarly
      · exact fun endsLate => (late_iff.mp endsLate).2 multiple
      · exact Nat.le_refl _
      · exact le_roundUp (by decide)
    · exact Ends.late (late_iff.mpr ⟨overaligned, multiple⟩)

theorem ends_scalar (kind : Scalar) :
    Ends layout (some (.scalar kind)) ((GlslType.scalar kind).extent layout)
      ((GlslType.scalar kind).blockSize layout) := by
  apply Ends.alike
  · exact id
  · exact fun endsLate => Bool.false_ne_true endsLate.1.2.1
  · show kind.size ≤ GlslLayout.scalarUnits kind
    cases kind <;> decide
  · show GlslLayout.scalarUnits kind ≤ roundUp kind.size 4
    cases kind <;> decide

theorem ends_vector (kind : Scalar) (rows : Dimension) :
    Ends layout (some (.vector kind rows)) ((GlslType.vector kind rows).extent layout)
      ((GlslType.vector kind rows).blockSize layout) := by
  apply Ends.alike
  · exact id
  · exact fun endsLate => Bool.false_ne_true endsLate.1.2.1
  · show (rows.toNat - 1) * scalarAlignment kind + kind.size ≤
      rows.toNat * GlslLayout.scalarUnits kind
    cases kind <;> cases rows <;> decide
  · show rows.toNat * GlslLayout.scalarUnits kind ≤
      roundUp ((rows.toNat - 1) * scalarAlignment kind + kind.size) 4
    cases kind <;> cases rows <;> decide

theorem ends_matrix (columns rows : Dimension)
    (regular : (GlslType.matrix columns rows).Regular layout) :
    Ends layout (some (.matrix columns rows)) ((GlslType.matrix columns rows).extent layout)
      ((GlslType.matrix columns rows).blockSize layout) := by
  have alike : ∀ rows, rows ≠ .three → (layout = .std140 → rows ≠ .two) →
      (GlslType.matrix columns rows).extent layout =
        (GlslType.matrix columns rows).blockSize layout := by
    intro rows notThree spread
    cases rows
    case two =>
      cases layout
      case std140 => exact (spread rfl rfl).elim
      case std430 => cases columns <;> rfl
    case three => exact (notThree rfl).elim
    case four => cases layout <;> cases columns <;> rfl
  by_cases three : rows = .three
  · subst three
    have early : (GlslType.matrix columns .three).blockSize layout =
        (GlslType.matrix columns .three).extent layout + 4 := by
      cases layout <;> cases columns <;> rfl
    rw [early]
    apply Ends.early
    · rfl
    · show 16 ∣ (columns.toNat - 1) * 16 + 12 + 4
      cases columns <;> decide
  · rw [alike rows three regular]
    exact Ends.alike three id (Nat.le_refl _) (le_roundUp (by decide))

theorem overaligned_array {element : GlslType} {length : Nat} {positive : 0 < length} :
    (GlslType.array element length positive).Overaligned layout ↔ element.Overaligned layout := by
  rw [GlslType.Overaligned, GlslType.Overaligned]
  apply and_congr_right
  rintro rfl
  exact Iff.rfl

variable (layout)

/-- The strides of a regular array only differ if there is a single element. -/
theorem padded_array {element : GlslType} {length : Nat} {positive : 0 < length}
    (spread : 1 < length → element.Overaligned layout → 16 ∣ element.blockSize layout) :
    length * roundUp (element.blockSize layout)
        ((GlslType.array element length positive).getGlslAlignment layout) =
      roundUp ((GlslType.array element length positive).blockSize layout)
        ((GlslType.array element length positive).getGlslAlignment layout) := by
  have stride : (GlslType.array element length positive).blockSize layout =
      length * roundUp (element.blockSize layout)
        ((GlslType.array element length positive).baseAlignment layout) :=
    rfl
  rcases (GlslType.array element length positive).alignment_cases layout with
    ⟨-, equal⟩ | ⟨overaligned, eight, sixteen⟩
  · rw [stride, equal]
    symm
    exact roundUp_of_dvd (Nat.dvd_mul_left_of_dvd dvd_roundUp length)
  · rw [stride, eight, sixteen]
    rcases Nat.lt_or_ge 1 length with several | single
    · have multiple := spread several (overaligned_array.mp overaligned)
      rw [roundUp_of_dvd multiple, roundUp_of_dvd ((by decide : 8 ∣ 16).trans multiple)]
      symm
      exact roundUp_of_dvd (Nat.dvd_mul_left_of_dvd multiple length)
    · rw [Nat.le_antisymm single positive, Nat.one_mul, Nat.one_mul]
      symm
      exact roundUp_roundUp (by decide) (by decide)

mutual

/-- How a regular type ends. -/
theorem GlslType.ends : (type : GlslType) → type.Regular layout →
    Ends layout (some type) (type.extent layout) (type.blockSize layout)
  | .scalar kind, _ => ends_scalar kind
  | .vector kind rows, _ => ends_vector kind rows
  | .matrix columns rows, regular => ends_matrix columns rows regular
  | .array element length positive, regular => by
      apply ends_padded id Iff.rfl
      · exact Nat.dvd_mul_left_of_dvd dvd_roundUp length
      · rw [GlslType.extent, (element.ends regular.1).roundUp_eq (GlslType.isAlignment layout _)
          (element.element_dvd layout length positive)]
        exact padded_array layout regular.2
  | .struct members, regular => by
      apply ends_padded id Iff.rfl
      · exact dvd_roundUp
      · rw [GlslType.extent, GlslType.blockSize]
        rw [members.ends regular Ends.start (GlslType.isAlignment layout _)
          (members.greatest_dvd layout)]
        symm
        exact roundUp_roundUp (GlslType.isAlignment layout _).pos
          (GlslType.baseAlignment_dvd layout (.struct members))

/-- How regular members end, up to the alignment of the structure. -/
theorem GlslMembers.ends : (members : GlslMembers) → {previous : Option GlslType} →
    {written specified alignment : Nat} → members.Regular layout previous specified →
    Ends layout previous written specified → IsAlignment alignment →
    members.greatest layout ∣ alignment →
    roundUp (members.extent layout written) alignment =
      roundUp (members.blockEnd layout specified) alignment
  | .last member, _, _, _, _, regular, ends, isAlignment, divides => by
      rw [GlslMembers.extent, GlslMembers.blockEnd, ← (ends.starts_iff member).mpr regular.2]
      exact ((member.ends regular.1).shift dvd_roundUp).roundUp_eq isAlignment divides
  | .cons member others, _, _, _, _, regular, ends, isAlignment, divides => by
      rcases regular with ⟨memberRegular, follows, othersRegular⟩
      have start := (ends.starts_iff member).mpr follows
      rw [GlslMembers.extent, GlslMembers.blockEnd]
      apply others.ends othersRegular _ isAlignment
      · exact (GlslMembers.others_dvd layout member others).trans divides
      · rw [← start]
        exact (member.ends memberRegular).shift dvd_roundUp

end

/-! ## Offsets -/

mutual

@[simp]
theorem GlslType.length_written : (type : GlslType) →
    (type.written layout).length = (type.leafOffsets layout).length
  | .scalar _ => rfl
  | .vector _ _ => by rw [GlslType.written, GlslType.leafOffsets, List.length_map, List.length_map]
  | .matrix _ _ => by simp [GlslType.written, GlslType.leafOffsets]
  | .array element _ _ => by
      simp [GlslType.written, GlslType.leafOffsets, element.length_written]
  | .struct members => members.length_written 0 0

@[simp]
theorem GlslMembers.length_written : (members : GlslMembers) → (written specified : Nat) →
    (members.written layout written).length = (members.leafOffsets layout specified).length
  | .last member, _, _ => by
      rw [GlslMembers.written, GlslMembers.leafOffsets, List.length_map, List.length_map,
        member.length_written]
  | .cons member others, _, _ => by
      rw [GlslMembers.written, GlslMembers.leafOffsets, List.length_append, List.length_append,
        List.length_map, List.length_map, member.length_written, others.length_written]

end

/-- The offset of the first scalar is zero. -/
def StartsAtZero (offsets : List Nat) : Prop :=
  ∃ others, offsets = 0 :: others

theorem startsAtZero_range {count : Nat} {place : Nat → Nat} (positive : 0 < count)
    (zero : place 0 = 0) : StartsAtZero ((List.range count).map place) := by
  rcases Nat.exists_eq_succ_of_ne_zero positive.ne' with ⟨before, rfl⟩
  rw [List.range_succ_eq_map, List.map_cons, zero]
  exact ⟨_, rfl⟩

namespace StartsAtZero

variable {offsets others : List Nat}

theorem append {place : Nat → Nat} (starts : StartsAtZero offsets) (zero : place 0 = 0) :
    StartsAtZero (offsets.map place ++ others) := by
  rcases starts with ⟨rest, rfl⟩
  rw [List.map_cons, zero]
  exact ⟨_, rfl⟩

theorem map {place : Nat → Nat} (starts : StartsAtZero offsets) (zero : place 0 = 0) :
    StartsAtZero (offsets.map place) := by
  rcases starts with ⟨rest, rfl⟩
  rw [List.map_cons, zero]
  exact ⟨_, rfl⟩

theorem flatMap {count : Nat} {place : Nat → Nat → Nat} (starts : StartsAtZero offsets)
    (positive : 0 < count) (zero : place 0 0 = 0) :
    StartsAtZero ((List.range count).flatMap fun index => offsets.map (place index)) := by
  rcases Nat.exists_eq_succ_of_ne_zero positive.ne' with ⟨before, rfl⟩
  rw [List.range_succ_eq_map, List.flatMap_cons]
  exact starts.append zero

/-- Shifted offsets agree if and only if they and the shifts do. -/
theorem shift_eq_iff (starts : StartsAtZero offsets) (othersStart : StartsAtZero others)
    {base otherBase : Nat} :
    (offsets.map fun offset => base + offset) = (others.map fun offset => otherBase + offset) ↔
      offsets = others ∧ base = otherBase := by
  constructor
  · intro equal
    have bases : base = otherBase := by
      rcases starts with ⟨rest, rfl⟩
      rcases othersStart with ⟨otherRest, rfl⟩
      exact (List.cons.inj equal).1
    subst bases
    exact ⟨List.map_injective_iff.mpr (fun _ _ => Nat.add_left_cancel) equal, rfl⟩
  · rintro ⟨rfl, rfl⟩
    rfl

/-- Repeated offsets agree if and only if they and, for several repetitions, the strides do. -/
theorem flatMap_eq_iff (starts : StartsAtZero offsets) (othersStart : StartsAtZero others)
    (sameLength : offsets.length = others.length) {count stride otherStride : Nat}
    (positive : 0 < count) :
    ((List.range count).flatMap fun index =>
        offsets.map fun offset => index * stride + offset) =
      ((List.range count).flatMap fun index =>
        others.map fun offset => index * otherStride + offset) ↔
      offsets = others ∧ (1 < count → stride = otherStride) := by
  constructor
  · intro equal
    rcases Nat.exists_eq_succ_of_ne_zero positive.ne' with ⟨before, rfl⟩
    rw [List.range_succ_eq_map, List.flatMap_cons, List.flatMap_cons] at equal
    have parts := List.append_inj equal (by rw [List.length_map, List.length_map, sameLength])
    have first := (starts.shift_eq_iff othersStart).mp parts.1
    refine ⟨first.1, fun several => ?_⟩
    rcases Nat.exists_eq_succ_of_ne_zero (Nat.lt_of_succ_lt_succ several).ne' with ⟨rest, rfl⟩
    have later := parts.2
    rw [List.range_succ_eq_map, List.map_cons, List.flatMap_cons, List.flatMap_cons] at later
    have second := (List.append_inj later
      (by rw [List.length_map, List.length_map, sameLength])).1
    have strides := ((starts.shift_eq_iff othersStart).mp second).2
    rwa [Nat.one_mul, Nat.one_mul] at strides
  · rintro ⟨rfl, strides⟩
    rcases Nat.lt_or_ge 1 count with several | single
    · rw [strides several]
    · rw [Nat.le_antisymm single positive]
      simp

end StartsAtZero

theorem Dimension.toNat_pos (dimension : Dimension) : 0 < dimension.toNat := by
  cases dimension <;> decide

@[simp]
theorem roundUp_zero (alignment : Nat) : roundUp 0 alignment = 0 :=
  roundUp_of_dvd (Nat.dvd_zero alignment)

mutual

theorem GlslType.written_starts : (type : GlslType) → StartsAtZero (type.written layout)
  | .scalar _ => ⟨[], rfl⟩
  | .vector _ rows => startsAtZero_range rows.toNat_pos (Nat.zero_mul _)
  | .matrix columns rows => by
      have row_starts : StartsAtZero ((List.range rows.toNat).map id) :=
        startsAtZero_range rows.toNat_pos rfl
      rw [List.map_id] at row_starts
      exact row_starts.flatMap columns.toNat_pos (by rw [Nat.zero_mul, Nat.zero_mul])
  | .array element _ positive => by
      exact element.written_starts.flatMap positive (by rw [Nat.zero_mul])
  | .struct members => members.written_starts

theorem GlslMembers.written_starts : (members : GlslMembers) →
    StartsAtZero (members.written layout 0)
  | .last member => member.written_starts.map (by rw [roundUp_zero])
  | .cons member _ => member.written_starts.append (by rw [roundUp_zero])

end

mutual

theorem GlslType.leafOffsets_start : (type : GlslType) → StartsAtZero (type.leafOffsets layout)
  | .scalar _ => ⟨[], rfl⟩
  | .vector _ rows => startsAtZero_range rows.toNat_pos (Nat.zero_mul _)
  | .matrix columns rows => by
      have row_starts : StartsAtZero ((List.range rows.toNat).map id) :=
        startsAtZero_range rows.toNat_pos rfl
      rw [List.map_id] at row_starts
      exact row_starts.flatMap columns.toNat_pos (by rw [Nat.zero_mul, Nat.zero_mul])
  | .array element _ positive => by
      exact element.leafOffsets_start.flatMap positive (by rw [Nat.zero_mul])
  | .struct members => members.leafOffsets_start

theorem GlslMembers.leafOffsets_start : (members : GlslMembers) →
    StartsAtZero (members.leafOffsets layout 0)
  | .last member => member.leafOffsets_start.map (by rw [roundUp_zero])
  | .cons member _ => member.leafOffsets_start.append (by rw [roundUp_zero])

end

/-- What contains a matrix with two rows has a size that its alignment divides. -/
theorem GlslType.Overaligned.dvd_blockSize {type : GlslType}
    (overaligned : type.Overaligned layout) :
    type.baseAlignment layout ∣ type.blockSize layout := by
  cases type with
  | scalar => cases overaligned.2.1
  | vector => cases overaligned.2.1
  | matrix columns => exact Nat.dvd_mul_left_of_dvd dvd_roundUp columns.toNat
  | array element length => exact Nat.dvd_mul_left_of_dvd dvd_roundUp length
  | struct members => exact dvd_roundUp

/-- When the elements of an array are as far apart as the rules have it. -/
theorem stride_iff {element : GlslType} {length : Nat} {positive : 0 < length}
    (ends : Ends layout (some element) (element.extent layout) (element.blockSize layout)) :
    roundUp (element.extent layout)
          ((GlslType.array element length positive).getGlslAlignment layout) =
        roundUp (element.blockSize layout)
          ((GlslType.array element length positive).baseAlignment layout) ↔
      (element.Overaligned layout → 16 ∣ element.blockSize layout) := by
  rw [ends.roundUp_eq (GlslType.isAlignment layout _) (element.element_dvd layout length positive)]
  rcases (GlslType.array element length positive).alignment_cases layout with
    ⟨notOver, equal⟩ | ⟨overaligned, eight, sixteen⟩
  · rw [equal]
    exact iff_of_true rfl fun elementOver => (notOver (overaligned_array.mpr elementOver)).elim
  · have elementOver := overaligned_array.mp overaligned
    have divides := elementOver.dvd_blockSize
    rw [elementOver.2.2] at divides
    rw [eight, sixteen, roundUp_eq_roundUp_iff (by decide) (by decide), roundUp_of_dvd divides]
    exact ⟨fun multiple _ => multiple, fun multiple => multiple elementOver⟩

@[simp]
theorem matrix_written_iff (columns rows : Dimension) :
    (GlslType.matrix columns rows).written layout =
        (GlslType.matrix columns rows).leafOffsets layout ↔
      (GlslType.matrix columns rows).Regular layout := by
  show _ ↔ (layout = .std140 → rows ≠ .two)
  cases layout <;> cases rows <;> cases columns <;> decide

mutual

/-- The regular types are those that are written as the rules have it. -/
@[simp]
theorem GlslType.written_iff : (type : GlslType) →
    (type.written layout = type.leafOffsets layout ↔ type.Regular layout)
  | .scalar _ => iff_of_true rfl trivial
  | .vector kind _ => by
      apply iff_of_true _ trivial
      cases kind <;> rfl
  | .matrix columns rows => matrix_written_iff layout columns rows
  | .array element length positive => by
      rw [GlslType.written, GlslType.leafOffsets]
      rw [(element.written_starts layout).flatMap_eq_iff (element.leafOffsets_start layout)
        (element.length_written layout) positive, element.written_iff]
      apply and_congr_right
      intro regular
      exact imp_congr_right fun _ => stride_iff layout (element.ends layout regular)
  | .struct members => members.written_iff Ends.start

theorem GlslMembers.written_iff : (members : GlslMembers) → {previous : Option GlslType} →
    {written specified : Nat} → Ends layout previous written specified →
    (members.written layout written = members.leafOffsets layout specified ↔
      members.Regular layout previous specified)
  | .last member, _, _, _, ends => by
      rw [GlslMembers.written, GlslMembers.leafOffsets, GlslMembers.Regular,
        (member.written_starts layout).shift_eq_iff (member.leafOffsets_start layout),
        member.written_iff, ends.starts_iff member]
  | .cons member others, _, _, _, ends => by
      have sameLength := member.length_written layout
      rw [GlslMembers.written, GlslMembers.leafOffsets, GlslMembers.Regular,
        List.append_eq_append_iff_of_size_eq_left (by rw [List.length_map, List.length_map, sameLength]),
        (member.written_starts layout).shift_eq_iff (member.leafOffsets_start layout),
        member.written_iff, ← ends.starts_iff member, and_assoc]
      apply and_congr_right
      intro regular
      apply and_congr_right
      intro start
      apply others.written_iff
      rw [← start]
      exact (member.ends layout regular).shift dvd_roundUp

end

end VoxelEngine.Graphics
