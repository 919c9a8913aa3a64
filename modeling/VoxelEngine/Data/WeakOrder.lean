import Mathlib.Data.List.Forall2
import Mathlib.Data.List.Pairwise
import Mathlib.Data.List.Perm.Basic

/-!
# Sorted lists with equivalent elements

A strict weak order leaves some elements equivalent to each other.  Inserting an element
behind those it is equivalent to keeps a list sorted and keeps equivalent elements in the
order in which they were inserted.  A sorted list is determined by what it has of each class
of equivalent elements.
-/

namespace VoxelEngine.Data

universe u

/-- A strict weak order, as a comparison. -/
structure WeakOrder (α : Type u) where
  less : α → α → Bool
  asymm : ∀ {first second}, less first second = true → less second first = false
  split : ∀ {first second} (middle), less first second = true →
    less first middle = true ∨ less middle second = true

namespace WeakOrder

variable {α : Type u} (order : WeakOrder α)

/-- Neither of two elements is less than the other. -/
def equivalent (first second : α) : Bool :=
  !order.less first second && !order.less second first

/-- No element is less than one before it. -/
def Sorted (elements : List α) : Prop :=
  elements.Pairwise fun first second => order.less second first = false

instance (elements : List α) : Decidable (order.Sorted elements) :=
  inferInstanceAs (Decidable (List.Pairwise _ _))

/-- Insert an element at its upper bound. -/
def insertUpper (value : α) : List α → List α
  | [] => [value]
  | first :: rest =>
      if order.less value first then value :: first :: rest else first :: insertUpper value rest

/-- The elements that are equivalent to a key. -/
def equalRange (key : α) (elements : List α) : List α :=
  elements.filter (order.equivalent key)

variable {order}

@[simp]
theorem less_irrefl (value : α) : order.less value value = false := by
  rw [← Bool.not_eq_true]
  intro less
  rw [order.asymm less] at less
  cases less

theorem equivalent_iff {first second : α} :
    order.equivalent first second = true ↔
      order.less first second = false ∧ order.less second first = false := by
  simp [equivalent]

@[simp]
theorem equivalent_refl (value : α) : order.equivalent value value = true :=
  equivalent_iff.mpr ⟨less_irrefl value, less_irrefl value⟩

theorem equivalent_symm {first second : α} (same : order.equivalent first second = true) :
    order.equivalent second first = true :=
  equivalent_iff.mpr (equivalent_iff.mp same).symm

/-- What is less than an element is less than all that is not less than that element. -/
theorem less_of_less_of_not_less {first second third : α}
    (less : order.less first second = true) (above : order.less third second = false) :
    order.less first third = true := by
  rcases order.split third less with here | there
  · exact here
  · rw [above] at there
    cases there

theorem less_of_not_less_of_less {first second third : α}
    (below : order.less second first = false) (less : order.less second third = true) :
    order.less first third = true := by
  rcases order.split first less with here | there
  · rw [below] at here
    cases here
  · exact there

theorem not_less_trans {first second third : α} (below : order.less second first = false)
    (above : order.less third second = false) : order.less third first = false := by
  rw [← Bool.not_eq_true]
  intro less
  rcases order.split second less with here | there
  · rw [above] at here
    cases here
  · rw [below] at there
    cases there

theorem equivalent_trans {first second third : α}
    (same : order.equivalent first second = true) (next : order.equivalent second third = true) :
    order.equivalent first third = true := by
  rw [equivalent_iff] at same next ⊢
  exact ⟨not_less_trans next.1 same.1, not_less_trans same.2 next.2⟩

/-- Equivalent keys have the same equivalent elements. -/
theorem equivalent_congr {first second : α} (same : order.equivalent first second = true)
    (third : α) : order.equivalent first third = order.equivalent second third := by
  rw [Bool.eq_iff_iff]
  exact ⟨equivalent_trans (equivalent_symm same), equivalent_trans same⟩

/-! ## Insertion -/

theorem perm_insertUpper (value : α) (elements : List α) :
    (order.insertUpper value elements).Perm (value :: elements) := by
  induction elements with
  | nil => exact List.Perm.refl _
  | cons first rest ih =>
      unfold insertUpper
      split
      · exact List.Perm.refl _
      · exact (ih.cons first).trans (List.Perm.swap value first rest)

theorem sorted_insertUpper (value : α) {elements : List α} (sorted : order.Sorted elements) :
    order.Sorted (order.insertUpper value elements) := by
  induction elements with
  | nil => exact List.pairwise_singleton _ _
  | cons first rest ih =>
      rw [Sorted, List.pairwise_cons] at sorted
      unfold insertUpper
      split
      · rename_i less
        rw [Sorted, List.pairwise_cons, List.forall_mem_cons]
        refine ⟨⟨order.asymm less, ?_⟩, List.pairwise_cons.mpr sorted⟩
        intro other mem
        exact order.asymm (less_of_less_of_not_less less (sorted.1 other mem))
      · rename_i notLess
        rw [Bool.not_eq_true] at notLess
        rw [Sorted, List.pairwise_cons]
        refine ⟨?_, ih sorted.2⟩
        intro other mem
        rcases List.mem_cons.mp ((perm_insertUpper value rest).mem_iff.mp mem) with rfl | later
        · exact notLess
        · exact sorted.1 other later

/-- All elements of a sorted list are above what its first element is above. -/
theorem equalRange_of_less {key first : α} {rest : List α}
    (sorted : order.Sorted (first :: rest)) (less : order.less key first = true) :
    order.equalRange key (first :: rest) = [] := by
  apply List.filter_eq_nil_iff.mpr
  intro other mem same
  have above : order.less other first = false := by
    rcases List.mem_cons.mp mem with rfl | later
    · exact less_irrefl other
    · exact List.rel_of_pairwise_cons sorted later
  have below := less_of_less_of_not_less less above
  rw [(equivalent_iff.mp same).1] at below
  cases below

/-- An element is inserted behind those it is equivalent to. -/
theorem equalRange_insertUpper (key value : α) {elements : List α}
    (sorted : order.Sorted elements) :
    order.equalRange key (order.insertUpper value elements) =
      order.equalRange key (elements ++ [value]) := by
  induction elements with
  | nil => rfl
  | cons first rest ih =>
      unfold insertUpper
      split
      · rename_i less
        by_cases same : order.equivalent key value = true
        · have nothing : order.equalRange key (first :: rest) = [] :=
            equalRange_of_less sorted (less_of_not_less_of_less (equivalent_iff.mp same).2 less)
          rw [equalRange] at nothing
          rw [equalRange, equalRange, List.filter_append, nothing, List.filter_cons, if_pos same,
            nothing, List.filter_cons, if_pos same]
          rfl
        · rw [equalRange, equalRange, List.filter_append, List.filter_cons_of_neg same,
            List.filter_cons_of_neg same]
          exact (List.append_nil _).symm
      · have tail := ih (List.Pairwise.of_cons sorted)
        rw [equalRange, equalRange] at tail
        rw [equalRange, equalRange, List.cons_append, List.filter_cons, List.filter_cons, tail]

/-- Inserting one element after the other sorts them and keeps the order of equivalent
ones. -/
theorem foldl_insertUpper (elements : List α) {result : List α}
    (sorted : order.Sorted result) :
    order.Sorted (elements.foldl (fun result value => order.insertUpper value result) result) ∧
      (elements.foldl (fun result value => order.insertUpper value result) result).Perm
        (result ++ elements) ∧
      ∀ key, order.equalRange key
          (elements.foldl (fun result value => order.insertUpper value result) result) =
        order.equalRange key (result ++ elements) := by
  induction elements generalizing result with
  | nil => simp [sorted]
  | cons value elements ih =>
      rcases ih (sorted_insertUpper value sorted) with ⟨sortedNext, perm, ranges⟩
      rw [List.foldl_cons]
      refine ⟨sortedNext, ?_, ?_⟩
      · apply perm.trans
        apply ((perm_insertUpper value result).append_right elements).trans
        exact List.perm_middle.symm
      · intro key
        have inserted := equalRange_insertUpper key value sorted
        rw [equalRange, equalRange] at inserted
        rw [ranges, equalRange, equalRange, List.filter_append, inserted, ← List.filter_append,
          List.append_assoc]
        rfl

/-! ## Classes of equivalent elements -/

/-- Related elements compare alike. -/
def Respects (order : WeakOrder α) (related : α → α → Prop) : Prop :=
  ∀ {first second}, related first second → ∀ other,
    order.less first other = order.less second other ∧
      order.less other first = order.less other second

variable {related : α → α → Prop}

theorem Respects.equivalent_eq (respects : order.Respects related) {first second : α}
    (same : related first second) (key : α) :
    order.equivalent key first = order.equivalent key second := by
  have alike := respects same key
  rw [equivalent, equivalent, alike.1, alike.2]

theorem Respects.equalRange (respects : order.Respects related) {firsts seconds : List α}
    (same : List.Forall₂ related firsts seconds) (key : α) :
    List.Forall₂ related (order.equalRange key firsts) (order.equalRange key seconds) := by
  induction same with
  | nil => exact List.Forall₂.nil
  | @cons first second firsts seconds head _ ih =>
      rw [WeakOrder.equalRange, WeakOrder.equalRange, List.filter_cons, List.filter_cons,
        respects.equivalent_eq head key]
      split
      · exact List.Forall₂.cons head ih
      · exact ih

/-- Sorted lists are related if and only if their classes of equivalent elements are. -/
theorem forall₂_iff_equalRange (respects : order.Respects related) {firsts seconds : List α}
    (sortedFirsts : order.Sorted firsts) (sortedSeconds : order.Sorted seconds) :
    List.Forall₂ related firsts seconds ↔
      ∀ key, List.Forall₂ related (order.equalRange key firsts)
        (order.equalRange key seconds) := by
  constructor
  · exact fun same key => respects.equalRange same key
  · intro ranges
    induction firsts generalizing seconds with
    | nil =>
        cases seconds with
        | nil => exact List.Forall₂.nil
        | cons second seconds =>
            have range := ranges second
            rw [equalRange, equalRange, List.filter_cons_of_pos (equivalent_refl second)] at range
            cases range
    | cons first firsts ih =>
        have range := ranges first
        rw [equalRange, List.filter_cons_of_pos (equivalent_refl first)] at range
        cases seconds with
        | nil => cases range
        | cons second seconds =>
            -- the first elements are equivalent: none of them is below the whole other list
            have same : order.equivalent first second = true := by
              rw [equivalent_iff]
              constructor
              · rw [← Bool.not_eq_true]
                intro less
                rw [equalRange_of_less sortedSeconds less] at range
                cases range
              · rw [← Bool.not_eq_true]
                intro less
                have other := ranges second
                rw [equalRange_of_less sortedFirsts less, equalRange,
                  List.filter_cons_of_pos (equivalent_refl second)] at other
                cases other
            rw [equalRange, List.filter_cons_of_pos same] at range
            rcases List.forall₂_cons.mp range with ⟨head, _⟩
            apply List.Forall₂.cons head
            apply ih (List.Pairwise.of_cons sortedFirsts) (List.Pairwise.of_cons sortedSeconds)
            intro key
            have all := ranges key
            rw [equalRange, equalRange, List.filter_cons, List.filter_cons,
              respects.equivalent_eq head key] at all
            split at all
            · exact (List.forall₂_cons.mp all).2
            · exact all

end WeakOrder

end VoxelEngine.Data
