import Mathlib.Data.List.Perm.Basic
import Mathlib.Data.List.Nodup
import Mathlib.Data.List.Pairwise

/-!
# Sets that are ordered by a key

A tree holds its elements in the order of their keys, here with the highest key first, and takes
elements with the same key to be equal.  An element whose key is in use is therefore not put in,
and what is erased is the element with the same key.
-/

namespace VoxelEngine.Data

universe u

/-- Elements in descending order of their keys, and no key twice. -/
structure KeyedSet {α : Type u} (key : α → Nat) where
  elements : List α
  sorted : elements.Pairwise fun first second => key second < key first

namespace KeyedSet

variable {α : Type u} {key : α → Nat}

/-- A set without elements. -/
def empty : KeyedSet key :=
  ⟨[], List.Pairwise.nil⟩

/-- Put an element in front of the first one with a lower key, unless its key is in use. -/
def emplaceInto (key : α → Nat) (value : α) : List α → List α
  | [] => [value]
  | first :: rest =>
      if key first < key value then value :: first :: rest
      else if key value < key first then first :: emplaceInto key value rest
      else first :: rest

/-- An element is put in exactly if its key is not in use. -/
theorem mem_emplaceInto {elements : List α} {value other : α}
    (sorted : elements.Pairwise fun first second => key second < key first) :
    other ∈ emplaceInto key value elements ↔
      other ∈ elements ∨ other = value ∧ ∀ present ∈ elements, key present ≠ key value := by
  induction elements with
  | nil => simp [emplaceInto]
  | cons first rest ih =>
      rw [List.pairwise_cons] at sorted
      unfold emplaceInto
      split
      · rename_i lower
        have unused : ∀ present ∈ first :: rest, key present ≠ key value := by
          intro present mem
          rcases List.mem_cons.mp mem with rfl | later
          · exact Nat.ne_of_lt lower
          · exact Nat.ne_of_lt (Nat.lt_trans (sorted.1 present later) lower)
        rw [List.mem_cons, or_comm]
        exact or_congr_right (and_iff_left unused).symm
      · split
        · rename_i higher
          rw [List.mem_cons, ih sorted.2, List.mem_cons, List.forall_mem_cons, or_assoc]
          simp only [Nat.ne_of_gt higher, ne_eq, not_false_eq_true, true_and]
        · rename_i notLower notHigher
          have same : key first = key value :=
            Nat.le_antisymm (Nat.le_of_not_lt notHigher) (Nat.le_of_not_lt notLower)
          constructor
          · exact Or.inl
          · rintro (mem | ⟨_, unused⟩)
            · exact mem
            · exact absurd same (unused first List.mem_cons_self)

theorem sorted_emplaceInto {elements : List α} {value : α}
    (sorted : elements.Pairwise fun first second => key second < key first) :
    (emplaceInto key value elements).Pairwise fun first second => key second < key first := by
  induction elements with
  | nil => exact List.pairwise_singleton _ _
  | cons first rest ih =>
      have whole := sorted
      rw [List.pairwise_cons] at sorted
      unfold emplaceInto
      split
      · rename_i lower
        rw [List.pairwise_cons]
        refine ⟨?_, whole⟩
        intro present mem
        rcases List.mem_cons.mp mem with rfl | later
        · exact lower
        · exact Nat.lt_trans (sorted.1 present later) lower
      · split
        · rename_i higher
          rw [List.pairwise_cons]
          refine ⟨?_, ih sorted.2⟩
          intro present mem
          rcases (mem_emplaceInto sorted.2).mp mem with later | ⟨rfl, _⟩
          · exact sorted.1 present later
          · exact higher
        · exact whole

/-- Put in an element, unless its key is in use. -/
def emplace (set : KeyedSet key) (value : α) : KeyedSet key :=
  ⟨emplaceInto key value set.elements, sorted_emplaceInto set.sorted⟩

/-- Put in elements one after the other. -/
def insertAll (set : KeyedSet key) (values : List α) : KeyedSet key :=
  values.foldl emplace set

/-- Take out the elements that meet a condition. -/
def eraseIf (set : KeyedSet key) (condition : α → Bool) : KeyedSet key :=
  ⟨set.elements.filter fun value => !condition value, set.sorted.filter _⟩

/-- Take out the element that is taken to be equal to the given one. -/
def erase (set : KeyedSet key) (value : α) : KeyedSet key :=
  set.eraseIf fun other => key other == key value

/-- Take out elements one after the other. -/
def eraseAll (set : KeyedSet key) (values : List α) : KeyedSet key :=
  values.foldl erase set

instance : Membership α (KeyedSet key) :=
  ⟨fun set value => value ∈ set.elements⟩

instance [DecidableEq α] (value : α) (set : KeyedSet key) : Decidable (value ∈ set) :=
  inferInstanceAs (Decidable (value ∈ set.elements))

variable {set other : KeyedSet key} {value : α} {values : List α}

theorem not_mem_empty : value ∉ (empty : KeyedSet key) :=
  List.not_mem_nil

/-- Elements with the same key are the same. -/
theorem eq_of_key_eq {first second : α} (firstMem : first ∈ set) (secondMem : second ∈ set)
    (same : key first = key second) : first = second := by
  by_contra different
  have apart : set.elements.Pairwise fun first second => key first ≠ key second :=
    set.sorted.imp fun less => Nat.ne_of_gt less
  have symmetric : Std.Symm fun first second : α => key first ≠ key second :=
    ⟨fun _ _ unequal equal => unequal equal.symm⟩
  exact apart.forall firstMem secondMem different same

theorem nodup_elements (set : KeyedSet key) : set.elements.Nodup := by
  apply set.sorted.imp
  rintro first _ less rfl
  exact Nat.lt_irrefl _ less

/-- A set is determined by its elements. -/
theorem ext (same : ∀ value, value ∈ set ↔ value ∈ other) : set = other := by
  have perm : set.elements.Perm other.elements :=
    (List.perm_ext_iff_of_nodup set.nodup_elements other.nodup_elements).mpr same
  have elements_eq : set.elements = other.elements :=
    perm.eq_of_pairwise (fun _ _ _ _ less greater => absurd less (Nat.lt_asymm greater)) set.sorted
      other.sorted
  cases set
  cases other
  congr

theorem mem_emplace {added : α} :
    value ∈ set.emplace added ↔
      value ∈ set ∨ value = added ∧ ∀ present ∈ set, key present ≠ key added :=
  mem_emplaceInto set.sorted

@[simp]
theorem mem_eraseIf {condition : α → Bool} :
    value ∈ set.eraseIf condition ↔ value ∈ set ∧ condition value = false := by
  change value ∈ set.elements.filter _ ↔ _
  rw [List.mem_filter, Bool.not_eq_true']
  exact Iff.rfl

@[simp]
theorem mem_erase {erased : α} :
    value ∈ set.erase erased ↔ value ∈ set ∧ key value ≠ key erased := by
  rw [erase, mem_eraseIf, beq_eq_false_iff_ne]

@[simp]
theorem insertAll_cons (set : KeyedSet key) (value : α) (values : List α) :
    set.insertAll (value :: values) = (set.emplace value).insertAll values :=
  rfl

@[simp]
theorem eraseAll_cons (set : KeyedSet key) (value : α) (values : List α) :
    set.eraseAll (value :: values) = (set.erase value).eraseAll values :=
  rfl

/-- What is there stays when others are put in. -/
theorem mem_insertAll_of_mem (mem : value ∈ set) : value ∈ set.insertAll values := by
  induction values generalizing set with
  | nil => exact mem
  | cons first rest ih => exact ih (mem_emplace.mpr (Or.inl mem))

/-- What is in a set to which others were put in was there, or is one of these. -/
theorem mem_or_mem_of_mem_insertAll (mem : value ∈ set.insertAll values) :
    value ∈ set ∨ value ∈ values := by
  induction values generalizing set with
  | nil => exact Or.inl mem
  | cons first rest ih =>
      rcases ih mem with before | later
      · rcases mem_emplace.mp before with there | ⟨rfl, _⟩
        · exact Or.inl there
        · exact Or.inr List.mem_cons_self
      · exact Or.inr (List.mem_cons_of_mem first later)

@[simp]
theorem mem_eraseAll :
    value ∈ set.eraseAll values ↔ value ∈ set ∧ ∀ erased ∈ values, key value ≠ key erased := by
  induction values generalizing set with
  | nil => simp [eraseAll]
  | cons first rest ih =>
      rw [eraseAll_cons, ih, mem_erase, List.forall_mem_cons, and_assoc]

/-- Taking out what was put in leaves the elements that share no key with it. -/
theorem mem_eraseAll_insertAll :
    value ∈ (set.insertAll values).eraseAll values ↔
      value ∈ set ∧ ∀ added ∈ values, key value ≠ key added := by
  rw [mem_eraseAll]
  constructor
  · rintro ⟨mem, apart⟩
    rcases mem_or_mem_of_mem_insertAll mem with there | added
    · exact ⟨there, apart⟩
    · exact absurd rfl (apart value added)
  · rintro ⟨mem, apart⟩
    exact ⟨mem_insertAll_of_mem mem, apart⟩

/-- A set is as it was after elements were put in and taken out if and only if none of them shares
a key with what was there. -/
theorem eraseAll_insertAll_eq_iff :
    (set.insertAll values).eraseAll values = set ↔
      ∀ present ∈ set, ∀ added ∈ values, key present ≠ key added := by
  constructor
  · intro restored present mem
    rw [← restored] at mem
    exact (mem_eraseAll_insertAll.mp mem).2
  · intro apart
    apply ext
    intro value
    rw [mem_eraseAll_insertAll]
    exact and_iff_left_of_imp (apart value)

/-- The second time, putting in and taking out the same elements changes nothing. -/
theorem eraseAll_insertAll_again :
    (((set.insertAll values).eraseAll values).insertAll values).eraseAll values =
      (set.insertAll values).eraseAll values := by
  rw [eraseAll_insertAll_eq_iff]
  intro present mem
  exact (mem_eraseAll_insertAll.mp mem).2

/-- Everything put in is there if and only if elements with the same key are the same. -/
theorem forall_mem_insertAll_iff :
    (∀ added ∈ values, added ∈ set.insertAll values) ↔
      ∀ added ∈ values, ∀ present, present ∈ set ∨ present ∈ values →
        key present = key added → present = added := by
  constructor
  · intro there added addedMem present presentMem same
    apply eq_of_key_eq _ (there added addedMem) same
    rcases presentMem with before | later
    · exact mem_insertAll_of_mem before
    · exact there present later
  · induction values generalizing set with
    | nil =>
        intro _ added mem
        cases mem
    | cons first rest ih =>
        intro apart
        have firstThere : first ∈ set.emplace first := by
          rw [mem_emplace]
          by_cases before : first ∈ set
          · exact Or.inl before
          · right
            refine ⟨rfl, ?_⟩
            intro present mem same
            have equal := apart first List.mem_cons_self present (Or.inl mem) same
            exact before (equal ▸ mem)
        rw [List.forall_mem_cons, insertAll_cons]
        constructor
        · exact mem_insertAll_of_mem firstThere
        · apply ih
          intro added mem present presentMem same
          apply apart added (List.mem_cons_of_mem first mem) present _ same
          rcases presentMem with before | later
          · rcases mem_emplace.mp before with there | ⟨rfl, _⟩
            · exact Or.inl there
            · exact Or.inr List.mem_cons_self
          · exact Or.inr (List.mem_cons_of_mem first later)

end KeyedSet

end VoxelEngine.Data
