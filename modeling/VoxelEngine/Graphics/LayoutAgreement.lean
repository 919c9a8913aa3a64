import VoxelEngine.Graphics.LayoutPlacement
import Mathlib.Tactic.IntervalCases

/-!
# Agreement with the specification

What is written agrees with the layout rules except around matrices.  The columns of a
matrix with two rows are neither spread nor aligned as the rules have it, and a matrix with
three rows lacks the padding at its end.
-/

namespace VoxelEngine.Graphics

open VoxelEngine.Data

variable (layout : GlslLayout)

/-! ## The regular types -/

mutual

/-- The type contains a matrix with two rows. -/
def GlslType.hasTwoRows : GlslType → Bool
  | .scalar _ | .vector _ _ => false
  | .matrix _ rows => decide (rows = .two)
  | .array element _ _ => element.hasTwoRows
  | .struct members => members.hasTwoRows

def GlslMembers.hasTwoRows : GlslMembers → Bool
  | .last member => member.hasTwoRows
  | .cons member others => member.hasTwoRows || others.hasTwoRows

end

/-- In `std430` a matrix with two rows gives an alignment of 8 to what it is in, unless
something else gives a larger one. -/
def GlslType.Overaligned (type : GlslType) : Prop :=
  layout = .std430 ∧ type.hasTwoRows = true ∧ type.baseAlignment layout = 8

/-- A matrix with three rows is padded at its end. -/
def GlslType.EndsEarly : GlslType → Prop
  | .matrix _ rows => rows = .three
  | _ => False

/-- An array or structure whose end has an alignment of no more than 8. -/
def GlslType.EndsLate : GlslType → Prop
  | .matrix _ _ => False
  | type => type.Overaligned layout ∧ ¬16 ∣ type.blockSize layout

/-- How a member of a structure has to lie behind the previous one. -/
def Follows (previous : Option GlslType) (cursor : Nat) (member : GlslType) : Prop :=
  (member.Overaligned layout → 16 ∣ roundUp cursor (member.baseAlignment layout)) ∧
    ∀ before, previous = some before →
      (before.EndsEarly → member.baseAlignment layout ≠ 4) ∧
        (before.EndsLate layout → 16 ∣ roundUp cursor (member.baseAlignment layout))

mutual

/-- The types that are written as the rules have it. -/
def GlslType.Regular : GlslType → Prop
  | .scalar _ | .vector _ _ => True
  | .matrix _ rows => layout = .std140 → rows ≠ .two
  | .array element length _ =>
      element.Regular ∧
        (1 < length → element.Overaligned layout → 16 ∣ element.blockSize layout)
  | .struct members => members.Regular none 0

def GlslMembers.Regular (previous : Option GlslType) (cursor : Nat) : GlslMembers → Prop
  | .last member => member.Regular ∧ Follows layout previous cursor member
  | .cons member others =>
      member.Regular ∧ Follows layout previous cursor member ∧
        others.Regular (some member)
          (roundUp cursor (member.baseAlignment layout) + member.blockSize layout)

end

/-! ## Alignments -/

theorem vectorAlignment_eq (kind : Scalar) (rows : Dimension) :
    GlslLayout.vectorAlignment kind rows = glslVectorAlignment kind rows := by
  cases kind <;> cases rows <;> rfl

theorem composite_std140 {alignment : Nat} (isAlignment : IsAlignment alignment) :
    GlslLayout.std140.composite alignment = max alignment 16 := by
  rcases isAlignment with ⟨exponent, lower, upper, rfl⟩
  interval_cases exponent <;> rfl

theorem IsAlignment.composite {alignment : Nat} (isAlignment : IsAlignment alignment) :
    IsAlignment (layout.composite alignment) := by
  cases layout with
  | std140 =>
      rw [composite_std140 isAlignment]
      exact isAlignment.max isAlignment_sixteen
  | std430 => exact isAlignment

mutual

theorem GlslType.isAlignment_base : (type : GlslType) →
    IsAlignment (type.baseAlignment layout)
  | .scalar kind => by
      cases kind
      case f64 => exact isAlignment_scalar .f64
      all_goals exact isAlignment_scalar .f32
  | .vector kind rows => by
      rw [GlslType.baseAlignment, vectorAlignment_eq]
      exact isAlignment_vector kind rows
  | .matrix _ rows => by
      rw [GlslType.baseAlignment, vectorAlignment_eq]
      exact (isAlignment_vector .f32 rows).composite layout
  | .array element _ _ => element.isAlignment_base.composite layout
  | .struct members => members.isAlignment_base.composite layout

theorem GlslMembers.isAlignment_base : (members : GlslMembers) →
    IsAlignment (members.largestAlignment layout)
  | .last member => member.isAlignment_base
  | .cons member others => member.isAlignment_base.max others.isAlignment_base

end

mutual

/-- The rules of `std140` give the alignment that the code has. -/
theorem GlslType.alignment_std140 : (type : GlslType) →
    type.getGlslAlignment .std140 = type.baseAlignment .std140
  | .scalar kind => by cases kind <;> rfl
  | .vector kind rows => (vectorAlignment_eq kind rows).symm
  | .matrix _ rows => by cases rows <;> rfl
  | .array element _ _ => by
      rw [GlslType.getGlslAlignment, if_pos rfl, GlslType.baseAlignment,
        composite_std140 (element.isAlignment_base .std140), element.alignment_std140]
  | .struct members => by
      rw [GlslType.getGlslAlignment, if_pos rfl, GlslType.baseAlignment,
        composite_std140 (members.isAlignment_base .std140), GlslMembers.getGlslAlignment_eq,
        members.alignment_std140, Nat.max_comm]

theorem GlslMembers.alignment_std140 : (members : GlslMembers) →
    members.greatest .std140 = members.largestAlignment .std140
  | .last member => member.alignment_std140
  | .cons member others => by
      rw [GlslMembers.greatest, GlslMembers.largestAlignment, member.alignment_std140,
        others.alignment_std140]

end

mutual

/-- In `std430` a matrix with two rows raises the alignment that the code has to 16. -/
theorem GlslType.alignment_std430 : (type : GlslType) →
    (type.hasTwoRows = true → 8 ≤ type.baseAlignment .std430) ∧
      type.getGlslAlignment .std430 =
        if type.hasTwoRows then max (type.baseAlignment .std430) 16
        else type.baseAlignment .std430
  | .scalar kind => by cases kind <;> exact ⟨fun absurd => (by cases absurd), rfl⟩
  | .vector kind rows =>
      ⟨fun absurd => (by cases absurd), (vectorAlignment_eq kind rows).symm⟩
  | .matrix _ rows => by
      cases rows
      case two => exact ⟨fun _ => Nat.le_refl 8, rfl⟩
      all_goals exact ⟨fun absurd => (by cases absurd), rfl⟩
  | .array element _ _ => element.alignment_std430
  | .struct members => by
      rw [GlslType.getGlslAlignment, GlslMembers.getGlslAlignment_eq,
        if_neg (by decide : ¬GlslLayout.std430 = .std140), Nat.zero_max]
      exact members.alignment_std430

theorem GlslMembers.alignment_std430 : (members : GlslMembers) →
    (members.hasTwoRows = true → 8 ≤ members.largestAlignment .std430) ∧
      members.greatest .std430 =
        if members.hasTwoRows then max (members.largestAlignment .std430) 16
        else members.largestAlignment .std430
  | .last member => member.alignment_std430
  | .cons member others => by
      rcases member.alignment_std430 with ⟨member_le, member_eq⟩
      rcases others.alignment_std430 with ⟨others_le, others_eq⟩
      rw [GlslMembers.greatest, member_eq, others_eq, GlslMembers.hasTwoRows,
        GlslMembers.largestAlignment]
      generalize member.hasTwoRows = memberTwo at member_le ⊢
      generalize others.hasTwoRows = othersTwo at others_le ⊢
      cases memberTwo <;> cases othersTwo <;> simp at member_le others_le ⊢ <;> omega

end

/-- The alignment that the code has is the one of the rules, or 16 instead of 8. -/
theorem GlslType.alignment_cases (type : GlslType) :
    (¬type.Overaligned layout ∧ type.getGlslAlignment layout = type.baseAlignment layout) ∨
      type.Overaligned layout ∧ type.baseAlignment layout = 8 ∧
        type.getGlslAlignment layout = 16 := by
  cases layout with
  | std140 =>
      apply Or.inl
      exact ⟨fun overaligned => (by cases overaligned.1), type.alignment_std140⟩
  | std430 =>
      rcases type.alignment_std430 with ⟨eight_le, alignment_eq⟩
      by_cases twoRows : type.hasTwoRows = true
      · rw [if_pos twoRows] at alignment_eq
        by_cases eight : type.baseAlignment .std430 = 8
        · apply Or.inr
          rw [eight] at alignment_eq
          exact ⟨⟨rfl, twoRows, eight⟩, eight, alignment_eq⟩
        · apply Or.inl
          refine ⟨fun overaligned => eight overaligned.2.2, ?_⟩
          rw [alignment_eq]
          apply Nat.max_eq_left
          -- The only power of two between 8 and 16 is 8 itself.
          have le := eight_le twoRows
          rcases type.isAlignment_base .std430 with ⟨exponent, lower, upper, base_eq⟩
          rw [base_eq] at eight le ⊢
          interval_cases exponent <;> omega
      · rw [if_neg twoRows] at alignment_eq
        exact Or.inl ⟨fun overaligned => twoRows overaligned.2.1, alignment_eq⟩

/-- What the code has is never smaller, and the rules' alignment divides it. -/
theorem GlslType.baseAlignment_dvd (type : GlslType) :
    type.baseAlignment layout ∣ type.getGlslAlignment layout := by
  rcases type.alignment_cases layout with ⟨-, equal⟩ | ⟨-, eight, sixteen⟩
  · rw [equal]
  · rw [eight, sixteen]
    exact ⟨2, rfl⟩

/-! ## Where the next member starts -/

/-- How the end of what was written relates to the end that the rules have. -/
inductive Ends : Option GlslType → Nat → Nat → Prop where
  | start : Ends none 0 0
  | alike {type written specified} (notEarly : ¬type.EndsEarly)
      (notLate : ¬type.EndsLate layout) (le : written ≤ specified)
      (bounded : specified ≤ roundUp written 4) : Ends (some type) written specified
  | early {type written} (endsEarly : type.EndsEarly) (aligned : 16 ∣ written + 4) :
      Ends (some type) written (written + 4)
  | late {type specified} (endsLate : type.EndsLate layout) :
      Ends (some type) (roundUp specified 16) specified

variable {layout} {previous : Option GlslType} {written specified : Nat}

theorem GlslType.EndsEarly.alignment {type : GlslType} (endsEarly : type.EndsEarly) :
    type.getGlslAlignment layout = 16 := by
  cases type
  case matrix => rfl
  all_goals cases endsEarly

theorem GlslType.EndsLate.overaligned {type : GlslType} (endsLate : type.EndsLate layout) :
    type.Overaligned layout := by
  cases type
  case matrix => cases endsLate
  all_goals exact endsLate.1

theorem GlslType.EndsEarly.not_late {type : GlslType} (endsEarly : type.EndsEarly) :
    ¬type.EndsLate layout := by
  intro endsLate
  cases type
  case matrix => cases endsLate
  all_goals cases endsEarly

theorem GlslType.Overaligned.alignment {type : GlslType} (overaligned : type.Overaligned layout) :
    type.getGlslAlignment layout = 16 := by
  rcases type.alignment_cases layout with ⟨absurd, -⟩ | ⟨-, -, sixteen⟩
  · exact (absurd overaligned).elim
  · exact sixteen

/-- Numbers up to the next multiple of 4 are rounded alike. -/
theorem roundUp_alike {alignment : Nat} (isAlignment : IsAlignment alignment)
    (le : written ≤ specified) (bounded : specified ≤ roundUp written 4) :
    roundUp written alignment = roundUp specified alignment := by
  have four_dvd : 4 ∣ alignment := by
    rcases isAlignment with ⟨exponent, lower, -, rfl⟩
    exact Nat.pow_dvd_pow 2 lower
  symm
  apply roundUp_congr isAlignment.pos le
  apply Nat.le_trans bounded
  apply roundUp_le (four_dvd.trans dvd_roundUp)
  exact le_roundUp isAlignment.pos

/-- From an alignment of 8 on the padding at the end of a matrix makes no difference. -/
theorem roundUp_early {alignment : Nat} (isAlignment : IsAlignment alignment)
    (eight_le : 8 ≤ alignment) (aligned : 16 ∣ written + 4) :
    roundUp written alignment = roundUp (written + 4) alignment := by
  have eight_dvd : 8 ∣ alignment := by
    have eightAligned : IsAlignment 8 := ⟨3, by decide, by decide, rfl⟩
    exact eightAligned.dvd_of_le isAlignment eight_le
  symm
  apply roundUp_congr isAlignment.pos (Nat.le_add_right _ _)
  have eight : roundUp written 8 = written + 4 := by
    apply roundUp_eq ((by decide : 8 ∣ 16).trans aligned)
    · exact Nat.le_add_right _ _
    · omega
  rw [← eight]
  apply roundUp_le (eight_dvd.trans dvd_roundUp)
  exact le_roundUp isAlignment.pos

/-- Rounding to the alignment of what is around a type hides how it ends. -/
theorem Ends.roundUp_eq {type : GlslType} {alignment : Nat}
    (ends : Ends layout (some type) written specified) (isAlignment : IsAlignment alignment)
    (divides : type.getGlslAlignment layout ∣ alignment) :
    roundUp written alignment = roundUp specified alignment := by
  cases ends with
  | alike _ _ le bounded => exact roundUp_alike isAlignment le bounded
  | early endsEarly aligned =>
      rw [endsEarly.alignment] at divides
      apply roundUp_early isAlignment _ aligned
      exact Nat.le_trans (by decide) (Nat.le_of_dvd isAlignment.pos divides)
  | late endsLate =>
      rw [endsLate.overaligned.alignment] at divides
      exact roundUp_roundUp isAlignment.pos divides

/-- An alignment of 16 hides how the previous member ends. -/
theorem Ends.roundUp_sixteen (ends : Ends layout previous written specified) :
    roundUp written 16 = roundUp specified 16 := by
  cases ends with
  | start => rfl
  | alike _ _ le bounded => exact roundUp_alike isAlignment_sixteen le bounded
  | early _ aligned => exact roundUp_early isAlignment_sixteen (by decide) aligned
  | late _ => exact roundUp_roundUp (by decide) (Nat.dvd_refl 16)

/-- A member starts where the rules have it if and only if it may follow the previous one. -/
theorem Ends.starts_iff (ends : Ends layout previous written specified) (member : GlslType) :
    roundUp written (member.getGlslAlignment layout) =
        roundUp specified (member.baseAlignment layout) ↔
      Follows layout previous specified member := by
  have baseAligned := member.isAlignment_base layout
  rcases member.alignment_cases layout with ⟨notOver, equal⟩ | ⟨overaligned, eight, sixteen⟩
  · rw [equal, Follows]
    cases ends with
    | start => simp [notOver]
    | alike notEarly notLate le bounded =>
        simp [notOver, notEarly, notLate, roundUp_alike baseAligned le bounded]
    | early endsEarly aligned =>
        simp only [notOver, endsEarly, endsEarly.not_late, Option.some.injEq, forall_eq',
          false_implies, true_implies, and_true, true_and]
        constructor
        · intro roundEq four
          rw [four, roundUp_of_dvd (by omega), roundUp_of_dvd (by omega)] at roundEq
          omega
        · intro notFour
          apply roundUp_early baseAligned _ aligned
          rcases baseAligned with ⟨exponent, lower, upper, base_eq⟩
          rw [base_eq] at notFour ⊢
          interval_cases exponent <;> omega
    | @late type _ endsLate =>
        have notEarly : ¬type.EndsEarly := fun endsEarly => endsEarly.not_late endsLate
        simp only [notOver, notEarly, endsLate, Option.some.injEq, forall_eq', false_implies,
          true_implies, true_and]
        rcases Nat.le_total 16 (member.baseAlignment layout) with le | le
        · have divides := isAlignment_sixteen.dvd_of_le baseAligned le
          rw [roundUp_roundUp baseAligned.pos divides]
          exact iff_of_true rfl (divides.trans dvd_roundUp)
        · have divides := baseAligned.dvd_of_le isAlignment_sixteen le
          rw [roundUp_of_dvd (divides.trans dvd_roundUp)]
          exact roundUp_eq_roundUp_iff (by decide) divides
  · rw [sixteen, ends.roundUp_sixteen, Follows]
    have notFour : member.baseAlignment layout ≠ 4 := by
      rw [eight]
      decide
    rw [roundUp_eq_roundUp_iff (by decide) (eight ▸ (by decide : 8 ∣ 16))]
    constructor
    · intro aligned
      exact ⟨fun _ => aligned, fun _ _ => ⟨fun _ => notFour, fun _ => aligned⟩⟩
    · intro follows
      exact follows.1 overaligned

end VoxelEngine.Graphics
