import Mathlib.Data.List.Basic
import Mathlib.Tactic.SplitIfs

/-!
# Comparing field by field

The comparisons of a class are generated from a list of its fields.  Both of them return the
first result that is not zero, which is right for a three-way comparison, but not for equality:
there the results that are not zero are those of fields that are equal.
-/

namespace VoxelEngine.Core

universe u

/-- The results of `operator<=>`.  The last one is only found in partial orders. -/
inductive ThreeWay where
  | less
  | equivalent
  | greater
  | unordered
  deriving DecidableEq

/-- The result with its operands exchanged. -/
def ThreeWay.swap : ThreeWay → ThreeWay
  | less => greater
  | equivalent => equivalent
  | greater => less
  | unordered => unordered

/-- A field of a class, with the comparisons of its type. -/
structure Field (α : Type u) where
  Value : Type
  get : α → Value
  equal : Value → Value → Bool
  compare : Value → Value → ThreeWay

namespace Field

variable {α : Type u}

/-- `E == o.E` -/
def equalIn (field : Field α) (first second : α) : Bool :=
  field.equal (field.get first) (field.get second)

/-- `E <=> o.E` -/
def compareIn (field : Field α) (first second : α) : ThreeWay :=
  field.compare (field.get first) (field.get second)

/-- The comparisons of the type of the field agree with each other and are those of an order. -/
structure Lawful (field : Field α) : Prop where
  equal_iff : ∀ x y, field.compare x y = .equivalent ↔ field.equal x y = true
  refl : ∀ x, field.compare x x = .equivalent
  swap : ∀ x y, field.compare y x = (field.compare x y).swap
  congr : ∀ x y z, field.compare x y = .equivalent → field.compare x z = field.compare y z
  trans : ∀ x y z, field.compare x y = .less → field.compare y z = .less →
    field.compare x z = .less

end Field

/-- `ve_impl_compare_field` for one field after the other: each returns its result unless it
is zero. -/
def firstNonzero {ρ : Type u} [DecidableEq ρ] (zero final : ρ) : List ρ → ρ
  | [] => final
  | cmp :: rest => if cmp ≠ zero then cmp else firstNonzero zero final rest

variable {α : Type u} (fields : List (Field α)) (first second : α)

/-- `operator==` -/
def operatorEqual : Bool :=
  firstNonzero false true (fields.map fun field => field.equalIn first second)

/-- `operator!=` -/
def operatorNotEqual : Bool :=
  !operatorEqual fields first second

/-- `operator<=>` -/
def operatorThreeWay : ThreeWay :=
  firstNonzero .equivalent .equivalent (fields.map fun field => field.compareIn first second)

/-- The three-way comparison is that of an order. -/
structure Ordered : Prop where
  self : ∀ value, operatorThreeWay fields value value = .equivalent
  swap : ∀ first second,
    operatorThreeWay fields second first = (operatorThreeWay fields first second).swap
  congr : ∀ first second, operatorThreeWay fields first second = .equivalent →
    ∀ third, operatorThreeWay fields first third = operatorThreeWay fields second third
  trans : ∀ first second third, operatorThreeWay fields first second = .less →
    operatorThreeWay fields second third = .less → operatorThreeWay fields first third = .less

/-- All fields are pairwise equal. -/
def AllEqual : Prop :=
  ∀ field ∈ fields, field.equalIn first second = true

/-- The order is decided by a field for which all fields before it are equal. -/
def DecidedBy (result : ThreeWay) : Prop :=
  ∃ before field after, fields = before ++ field :: after ∧
    AllEqual before first second ∧ field.compareIn first second = result

/-- The comparisons of two values are those of the tuples of their fields. -/
structure ComparesFields : Prop where
  equal_iff : operatorEqual fields first second = true ↔ AllEqual fields first second
  notEqual_eq : operatorNotEqual fields first second = !operatorEqual fields first second
  threeWay_iff : operatorEqual fields first second = true ↔
    operatorThreeWay fields first second = .equivalent
  lexicographic : ∀ result, result ≠ .equivalent →
    (operatorThreeWay fields first second = result ↔ DecidedBy fields first second result)

variable {fields first second}

/-- The first field that is not equal decides the order. -/
theorem operatorThreeWay_cons (field : Field α) (rest : List (Field α)) :
    operatorThreeWay (field :: rest) first second =
      if field.compareIn first second ≠ .equivalent then field.compareIn first second
      else operatorThreeWay rest first second :=
  rfl

theorem operatorThreeWay_eq_equivalent_iff (lawful : ∀ field ∈ fields, field.Lawful) :
    operatorThreeWay fields first second = .equivalent ↔ AllEqual fields first second := by
  induction fields with
  | nil =>
      constructor
      · intro _ field mem
        cases mem
      · intro _
        rfl
  | cons field rest ih =>
      have later := ih fun other mem => lawful other (List.mem_cons_of_mem field mem)
      have here := (lawful field List.mem_cons_self).equal_iff (field.get first)
        (field.get second)
      change field.compareIn first second = .equivalent ↔ field.equalIn first second = true
        at here
      rw [operatorThreeWay_cons, AllEqual, List.forall_mem_cons, ← here]
      by_cases equivalent : field.compareIn first second = .equivalent
      · simp only [equivalent, ne_eq, not_true_eq_false, if_false, true_and]
        exact later
      · simp [equivalent]

/-- Equality always returns that the values are equal: at the first field that is, or behind the
last one. -/
@[simp]
theorem operatorEqual_eq_true (fields : List (Field α)) (first second : α) :
    operatorEqual fields first second = true := by
  induction fields with
  | nil => rfl
  | cons field rest ih =>
      change (if field.equalIn first second ≠ false then field.equalIn first second
        else operatorEqual rest first second) = true
      split
      · rename_i notFalse
        rw [ne_eq, Bool.not_eq_false] at notFalse
        exact notFalse
      · exact ih

/-- The three-way comparison is the lexicographic one. -/
theorem operatorThreeWay_eq_iff (lawful : ∀ field ∈ fields, field.Lawful) {result : ThreeWay}
    (decides : result ≠ .equivalent) :
    operatorThreeWay fields first second = result ↔ DecidedBy fields first second result := by
  induction fields with
  | nil =>
      constructor
      · intro equivalent
        exact absurd equivalent.symm decides
      · rintro ⟨before, field, after, split_eq, _⟩
        cases before <;> cases split_eq
  | cons field rest ih =>
      have later := ih fun other mem => lawful other (List.mem_cons_of_mem field mem)
      have here := (lawful field List.mem_cons_self).equal_iff (field.get first)
        (field.get second)
      change field.compareIn first second = .equivalent ↔ field.equalIn first second = true
        at here
      rw [operatorThreeWay_cons]
      constructor
      · intro result_eq
        split at result_eq
        · exact ⟨[], field, rest, rfl, List.forall_mem_nil _, result_eq⟩
        · rename_i equivalent
          rw [ne_eq, not_not] at equivalent
          rcases later.mp result_eq with ⟨before, decider, after, rfl, equal, decided⟩
          refine ⟨field :: before, decider, after, rfl, ?_, decided⟩
          exact List.forall_mem_cons.mpr ⟨here.mp equivalent, equal⟩
      · rintro ⟨before, decider, after, split_eq, equal, decided⟩
        cases before with
        | nil =>
            cases split_eq
            rw [if_pos (by rw [decided]; exact decides), decided]
        | cons other before =>
            cases split_eq
            have equalHere := List.forall_mem_cons.mp equal
            rw [if_neg (not_not.mpr (here.mpr equalHere.1))]
            exact later.mpr ⟨before, decider, after, rfl, equalHere.2, decided⟩

theorem operatorThreeWay_self (lawful : ∀ field ∈ fields, field.Lawful) (value : α) :
    operatorThreeWay fields value value = .equivalent := by
  apply (operatorThreeWay_eq_equivalent_iff lawful).mpr
  intro field mem
  exact ((lawful field mem).equal_iff _ _).mp ((lawful field mem).refl _)

/-- Exchanging the operands exchanges less and greater. -/
theorem operatorThreeWay_swap (lawful : ∀ field ∈ fields, field.Lawful) (first second : α) :
    operatorThreeWay fields second first = (operatorThreeWay fields first second).swap := by
  induction fields with
  | nil => rfl
  | cons field rest ih =>
      have later := ih fun other mem => lawful other (List.mem_cons_of_mem field mem)
      have here : field.compareIn second first = (field.compareIn first second).swap :=
        (lawful field List.mem_cons_self).swap _ _
      rw [operatorThreeWay_cons, operatorThreeWay_cons, here, later]
      cases field.compareIn first second <;> rfl

/-- The order of the class is transitive, as those of its fields are. -/
theorem operatorThreeWay_trans (lawful : ∀ field ∈ fields, field.Lawful)
    {first second third : α} (firstLess : operatorThreeWay fields first second = .less)
    (secondLess : operatorThreeWay fields second third = .less) :
    operatorThreeWay fields first third = .less := by
  induction fields with
  | nil => cases firstLess
  | cons field rest ih =>
      have later := ih fun other mem => lawful other (List.mem_cons_of_mem field mem)
      have laws := lawful field List.mem_cons_self
      rw [operatorThreeWay_cons] at firstLess secondLess ⊢
      by_cases firstEquivalent : field.compareIn first second = .equivalent
      · -- The first two agree in this field, so that it compares the third with either alike.
        have same : field.compareIn first third = field.compareIn second third :=
          laws.congr _ _ _ firstEquivalent
        rw [if_neg (not_not.mpr firstEquivalent)] at firstLess
        rw [same]
        split
        · rename_i decides
          rwa [if_pos decides] at secondLess
        · rename_i equivalent
          rw [if_neg equivalent] at secondLess
          exact later firstLess secondLess
      · rw [if_pos firstEquivalent] at firstLess
        have less : field.compareIn first third = .less := by
          split at secondLess
          · exact laws.trans _ _ _ firstLess secondLess
          · rename_i equivalent
            rw [ne_eq, not_not] at equivalent
            have swapped : field.compareIn third second = .equivalent := by
              rw [show field.compareIn third second = (field.compareIn second third).swap from
                laws.swap _ _, equivalent]
              rfl
            have same : field.compareIn third first = field.compareIn second first :=
              laws.congr _ _ _ swapped
            rw [show field.compareIn first third = (field.compareIn third first).swap from
              laws.swap _ _, same, show field.compareIn second first =
                (field.compareIn first second).swap from laws.swap _ _, firstLess]
            rfl
        rw [if_pos (by rw [less]; decide), less]

/-- What is equivalent cannot be told apart. -/
theorem operatorThreeWay_congr (lawful : ∀ field ∈ fields, field.Lawful) {first second : α}
    (equivalent : operatorThreeWay fields first second = .equivalent) (third : α) :
    operatorThreeWay fields first third = operatorThreeWay fields second third := by
  have equal := (operatorThreeWay_eq_equivalent_iff lawful).mp equivalent
  rw [operatorThreeWay, operatorThreeWay]
  apply congrArg (firstNonzero ThreeWay.equivalent ThreeWay.equivalent)
  apply List.map_congr_left
  intro field mem
  have laws := lawful field mem
  exact laws.congr _ _ _ ((laws.equal_iff _ _).mpr (equal field mem))

/-- The generated comparisons are right exactly for values of which all fields are equal. -/
theorem comparesFields_iff (lawful : ∀ field ∈ fields, field.Lawful) (first second : α) :
    ComparesFields fields first second ↔ AllEqual fields first second := by
  constructor
  · intro compares
    exact compares.equal_iff.mp (operatorEqual_eq_true fields first second)
  · intro equal
    constructor
    case equal_iff => exact iff_of_true (operatorEqual_eq_true fields first second) equal
    case notEqual_eq => rfl
    case threeWay_iff =>
      exact iff_of_true (operatorEqual_eq_true fields first second)
        ((operatorThreeWay_eq_equivalent_iff lawful).mpr equal)
    case lexicographic =>
      intro result decides
      exact operatorThreeWay_eq_iff lawful decides

/-- A class is ordered if its fields are, however its equality may be. -/
theorem ordered_of_lawful (lawful : ∀ field ∈ fields, field.Lawful) : Ordered fields where
  self := operatorThreeWay_self lawful
  swap := operatorThreeWay_swap lawful
  congr _ _ := operatorThreeWay_congr lawful
  trans _ _ _ := operatorThreeWay_trans lawful

/-- `version` -/
structure Version where
  major : UInt32
  minor : UInt32
  patch : UInt32
  details : String

/-- `operator<=>` of machine words. -/
def compareWord (x y : UInt32) : ThreeWay :=
  if x < y then .less else if x = y then .equivalent else .greater

theorem compareWord_eq (x y : UInt32) :
    compareWord x y =
      if x.toNat < y.toNat then .less else if x.toNat = y.toNat then .equivalent
      else .greater := by
  simp only [compareWord, UInt32.lt_iff_toNat_lt, UInt32.toNat_inj]

@[simp]
theorem compareWord_eq_equivalent_iff {x y : UInt32} : compareWord x y = .equivalent ↔ x = y := by
  rw [compareWord_eq, ← UInt32.toNat_inj]
  split_ifs <;> simp <;> omega

theorem compareWord_swap (x y : UInt32) : compareWord y x = (compareWord x y).swap := by
  rw [compareWord_eq, compareWord_eq]
  split_ifs <;> first | rfl | omega

@[simp]
theorem compareWord_eq_less_iff {x y : UInt32} : compareWord x y = .less ↔ x < y := by
  rw [compareWord_eq, UInt32.lt_iff_toNat_lt]
  split_ifs <;> simp <;> omega

/-- A field that is a machine word. -/
def Field.word (get : α → UInt32) : Field α where
  Value := UInt32
  get := get
  equal := fun x y => x = y
  compare := compareWord

theorem Field.lawful_word (get : α → UInt32) : (Field.word get).Lawful where
  equal_iff := fun (x y : UInt32) =>
    compareWord_eq_equivalent_iff.trans (@decide_eq_true_iff (x = y) _).symm
  refl _ := compareWord_eq_equivalent_iff.mpr rfl
  swap := compareWord_swap
  congr _ _ z equivalent :=
    congrArg (fun word => compareWord word z) (compareWord_eq_equivalent_iff.mp equivalent)
  trans _ _ _ firstLess secondLess := compareWord_eq_less_iff.mpr
    (UInt32.lt_trans (compareWord_eq_less_iff.mp firstLess)
      (compareWord_eq_less_iff.mp secondLess))

/-- The fields that `ve_field_comparable` lists for `version`. -/
def versionFields : List (Field Version) :=
  [.word Version.major, .word Version.minor, .word Version.patch]

theorem lawful_versionFields : ∀ field ∈ versionFields, field.Lawful := by
  intro field mem
  simp only [versionFields, List.mem_cons, List.not_mem_nil, or_false] at mem
  rcases mem with rfl | rfl | rfl <;> exact Field.lawful_word _

theorem ordered_version : Ordered versionFields :=
  ordered_of_lawful lawful_versionFields

theorem comparesFields_version :
    ComparesFields versionFields ⟨1, 2, 3, "alpha"⟩ ⟨1, 2, 3, "beta"⟩ :=
  (comparesFields_iff lawful_versionFields _ _).mpr (by
    intro field mem
    simp only [versionFields, List.mem_cons, List.not_mem_nil, or_false] at mem
    rcases mem with rfl | rfl | rfl <;> decide)

/-- Two versions that have nothing in common are equal. -/
theorem equal_versions :
    operatorEqual versionFields ⟨1, 0, 0, ""⟩ ⟨2, 3, 4, ""⟩ = true ∧
      operatorThreeWay versionFields ⟨1, 0, 0, ""⟩ ⟨2, 3, 4, ""⟩ = .less ∧
        ¬ComparesFields versionFields ⟨1, 0, 0, ""⟩ ⟨2, 3, 4, ""⟩ := by
  constructor
  · decide
  constructor
  · decide
  intro compares
  have less : operatorThreeWay versionFields ⟨1, 0, 0, ""⟩ ⟨2, 3, 4, ""⟩ = .less := by decide
  rw [compares.threeWay_iff.mp (by decide)] at less
  cases less

end VoxelEngine.Core
