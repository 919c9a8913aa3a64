import Mathlib.Data.List.Perm.Basic
import VoxelEngine.Serialize.Codec

/-!
# Containers

Elements are inserted into a container as they are read.  A container with `push_back` is
written in reverse, one with `push_front` is not, so that both are rebuilt in order.  An
associative container is rebuilt by inserting its elements in any order; where it puts a
new element is left open.
-/

namespace VoxelEngine.Serialize

namespace Codec

variable {α : Type}

/-! ## Sequences -/

/-- The values of a container with less than `2 ^ 64` elements, in iteration order. -/
abbrev Sized (α : Type) :=
  { elements : List α // elements.length < 2 ^ 64 }

/-- Two sequences are equal when their elements are, one by one. -/
def sameSequence (element : Codec α) : List α → List α → Bool
  | [], [] => true
  | first :: firsts, second :: seconds =>
      element.same first second && sameSequence element firsts seconds
  | _, _ => false

@[simp]
theorem sameSequence_iff (element : Codec α) (firsts seconds : List α) :
    sameSequence element firsts seconds = true ↔
      List.Forall₂ (fun first second => element.same first second = true) firsts seconds := by
  induction firsts generalizing seconds with
  | nil => cases seconds <;> simp [sameSequence]
  | cons first firsts ih =>
      cases seconds with
      | nil => simp [sameSequence]
      | cons second seconds => simp [sameSequence, ih]

theorem sameSequence_equivalence (element : Codec α) :
    Equivalence fun firsts seconds => sameSequence element firsts seconds = true := by
  simp only [sameSequence_iff]
  constructor
  · exact fun firsts => List.forall₂_same.mpr fun value _ => element.equivalence.refl value
  · intro firsts seconds same
    exact same.flip.imp fun _ _ => element.equivalence.symm
  · intro firsts seconds thirds same
    induction same generalizing thirds with
    | nil => exact fun rest => rest
    | cons head _ ih =>
        intro rest
        cases rest with
        | cons nextHead nextTail =>
            exact List.Forall₂.cons (element.equivalence.trans head nextHead) (ih nextTail)

theorem foldl_push_back (result elements : List α) :
    elements.foldl (fun result value => result ++ [value]) result = result ++ elements := by
  induction elements generalizing result with
  | nil => simp
  | cons value elements ih => simp [ih]

/-- `push_back` as the elements are read; they were written in reverse. -/
def pushBack (element : Codec α) : Container element (Sized α) where
  stored value := value.val.reverse
  build elements short :=
    ⟨elements.foldl (fun result value => result ++ [value]) [], by
      rw [foldl_push_back]
      exact short⟩
  same first second := sameSequence element first.val second.val
  equivalence := by
    have equivalence := sameSequence_equivalence element
    exact ⟨fun value => equivalence.refl value.val, equivalence.symm, equivalence.trans⟩
  size_lt value := by
    rw [List.length_reverse]
    exact value.property
  rebuilds value elements short same := by
    simp only [sameSequence_iff, foldl_push_back]
    rw [List.reverse_reverse] at same
    exact same

/-- `push_front` as the elements are read; they were written in order. -/
def pushFront (element : Codec α) : Container element (Sized α) where
  stored value := value.val
  build elements short :=
    ⟨elements.foldl (fun result value => value :: result) [], by
      rw [List.foldl_flip_cons_eq_append', List.append_nil, List.length_reverse]
      exact short⟩
  same first second := sameSequence element first.val second.val
  equivalence := by
    have equivalence := sameSequence_equivalence element
    exact ⟨fun value => equivalence.refl value.val, equivalence.symm, equivalence.trans⟩
  size_lt value := value.property
  rebuilds value elements short same := by
    simp only [sameSequence_iff, List.foldl_flip_cons_eq_append', List.append_nil]
    have reversed := List.rel_reverse same
    rw [List.reverse_reverse] at reversed
    exact reversed

/-! ## Associative containers -/

/-- The elements of an associative container, which has unique keys. -/
structure Keyed (element : Codec α) where
  sameKey : α → α → Bool
  equivalence : Equivalence fun first second => sameKey first second = true
  sameKey_of_same : ∀ {first second}, element.same first second = true →
    sameKey first second = true

/-- Where an associative container puts a new element: anywhere among the others. -/
structure Placement (α : Type) where
  place : List α → α → List α
  perm : ∀ elements value, (place elements value).Perm (value :: elements)

/-- New elements go behind the others, as in an insertion ordered container. -/
def Placement.atEnd : Placement α where
  place elements value := elements ++ [value]
  perm elements value := List.perm_append_singleton value elements

section Associative

variable {element : Codec α} (keyed : Keyed element) (placement : Placement α)

/-- No key occurs twice. -/
def Keyed.Distinct (elements : List α) : Prop :=
  elements.Pairwise fun first second => keyed.sameKey first second = false

/-- An associative container with less than `2 ^ 64` elements. -/
abbrev Keyed.Entries :=
  { elements : List α // elements.length < 2 ^ 64 ∧ keyed.Distinct elements }

/-- `insert`: an element whose key is present is not inserted. -/
def insertUnique (elements : List α) (value : α) : List α :=
  if elements.any (keyed.sameKey value) then elements else placement.place elements value

/-- Two associative containers are equal when each has an equal of the other's elements. -/
def sameEntries (element : Codec α) (firsts seconds : List α) : Bool :=
  firsts.all (fun first => seconds.any (element.same first)) &&
    seconds.all (fun second => firsts.any fun first => element.same first second)

theorem sameEntries_iff (firsts seconds : List α) :
    sameEntries element firsts seconds = true ↔
      (∀ first ∈ firsts, ∃ second ∈ seconds, element.same first second = true) ∧
        ∀ second ∈ seconds, ∃ first ∈ firsts, element.same first second = true := by
  simp [sameEntries]

theorem sameEntries_equivalence (element : Codec α) :
    Equivalence fun firsts seconds => sameEntries element firsts seconds = true := by
  simp only [sameEntries_iff]
  constructor
  · intro values
    exact ⟨fun value mem => ⟨value, mem, element.equivalence.refl value⟩,
      fun value mem => ⟨value, mem, element.equivalence.refl value⟩⟩
  · rintro firsts seconds ⟨there, back⟩
    constructor
    · intro second mem
      rcases back second mem with ⟨first, firstMem, same⟩
      exact ⟨first, firstMem, element.equivalence.symm same⟩
    · intro first mem
      rcases there first mem with ⟨second, secondMem, same⟩
      exact ⟨second, secondMem, element.equivalence.symm same⟩
  · rintro firsts seconds thirds ⟨there, back⟩ ⟨thereNext, backNext⟩
    constructor
    · intro first mem
      rcases there first mem with ⟨second, secondMem, same⟩
      rcases thereNext second secondMem with ⟨third, thirdMem, sameNext⟩
      exact ⟨third, thirdMem, element.equivalence.trans same sameNext⟩
    · intro third mem
      rcases backNext third mem with ⟨second, secondMem, sameNext⟩
      rcases back second secondMem with ⟨first, firstMem, same⟩
      exact ⟨first, firstMem, element.equivalence.trans same sameNext⟩

variable {keyed}

theorem Keyed.sameKey_comm (first second : α) :
    keyed.sameKey first second = keyed.sameKey second first := by
  rw [Bool.eq_iff_iff]
  exact ⟨keyed.equivalence.symm, keyed.equivalence.symm⟩

theorem Keyed.distinct_perm {firsts seconds : List α} (perm : firsts.Perm seconds) :
    keyed.Distinct firsts ↔ keyed.Distinct seconds := by
  apply perm.pairwise_iff
  intro first second different
  rw [keyed.sameKey_comm]
  exact different

theorem exists_left_of_forall₂ {related : α → α → Prop} {firsts seconds : List α}
    (same : List.Forall₂ related firsts seconds) {second : α} (mem : second ∈ seconds) :
    ∃ first ∈ firsts, related first second := by
  induction same with
  | nil => cases mem
  | cons head _ ih =>
      rcases List.mem_cons.mp mem with rfl | later
      · exact ⟨_, List.mem_cons_self, head⟩
      · rcases ih later with ⟨first, firstMem, tail⟩
        exact ⟨first, List.mem_cons_of_mem _ firstMem, tail⟩

/-- Keys that equal each other do so on both sides. -/
theorem Keyed.distinct_of_same {firsts seconds : List α}
    (same : List.Forall₂ (fun first second => element.same first second = true) firsts seconds)
    (distinct : keyed.Distinct firsts) : keyed.Distinct seconds := by
  induction same with
  | nil => exact List.Pairwise.nil
  | @cons first second firsts seconds headSame tailSame ih =>
      rw [Keyed.Distinct, List.pairwise_cons] at distinct
      apply List.Pairwise.cons
      · intro other mem
        rcases exists_left_of_forall₂ tailSame mem with ⟨origin, originMem, otherSame⟩
        rw [← Bool.not_eq_true]
        intro keyEq
        have first_eq : keyed.sameKey first origin = true :=
          keyed.equivalence.trans (keyed.sameKey_of_same headSame)
            (keyed.equivalence.trans keyEq
              (keyed.equivalence.symm (keyed.sameKey_of_same otherSame)))
        rw [distinct.1 origin originMem] at first_eq
        cases first_eq
      · exact ih distinct.2

/-- Inserting elements whose keys are new adds all of them. -/
theorem foldl_insertUnique_perm {result elements : List α}
    (distinct : keyed.Distinct (result ++ elements)) :
    (elements.foldl (insertUnique keyed placement) result).Perm (result ++ elements) := by
  induction elements generalizing result with
  | nil => simp
  | cons value elements ih =>
      have moved : (result ++ value :: elements).Perm (value :: result ++ elements) :=
        List.perm_middle
      have fresh : result.any (keyed.sameKey value) = false := by
        rw [List.any_eq_false]
        intro other mem
        have apart := (List.pairwise_cons.mp ((keyed.distinct_perm moved).mp distinct)).1 other
          (List.mem_append_left _ mem)
        simp [apart]
      have placed := (placement.perm result value).append_right elements
      rw [List.foldl_cons, insertUnique, fresh]
      exact (ih ((keyed.distinct_perm (moved.trans placed.symm)).mp distinct)).trans
        (placed.trans moved.symm)

theorem length_insertUnique_le (elements : List α) (value : α) :
    (insertUnique keyed placement elements value).length ≤ elements.length + 1 := by
  unfold insertUnique
  split
  · exact Nat.le_succ _
  · rw [(placement.perm elements value).length_eq, List.length_cons]

theorem distinct_insertUnique {elements : List α} (distinct : keyed.Distinct elements)
    (value : α) : keyed.Distinct (insertUnique keyed placement elements value) := by
  unfold insertUnique
  split
  · exact distinct
  · rename_i fresh
    rw [keyed.distinct_perm (placement.perm elements value)]
    apply List.Pairwise.cons
    · intro other mem
      rw [← Bool.not_eq_true]
      exact fun same => fresh (List.any_eq_true.mpr ⟨other, mem, same⟩)
    · exact distinct

/-- Inserting never makes a container larger than the number of insertions, nor does it
repeat a key. -/
theorem foldl_insertUnique_spec (elements : List α) {result : List α}
    (distinct : keyed.Distinct result) :
    (elements.foldl (insertUnique keyed placement) result).length ≤
        result.length + elements.length ∧
      keyed.Distinct (elements.foldl (insertUnique keyed placement) result) := by
  induction elements generalizing result with
  | nil => exact ⟨Nat.le_refl _, distinct⟩
  | cons value elements ih =>
      have step := ih (distinct_insertUnique placement distinct value)
      constructor
      · have grown : (insertUnique keyed placement result value).length ≤ result.length + 1 :=
          length_insertUnique_le placement result value
        rw [List.foldl_cons, List.length_cons]
        omega
      · exact step.2

end Associative

/-- A set or a map: elements are written in iteration order and inserted as they are read. -/
def associative {element : Codec α} (keyed : Keyed element) (placement : Placement α) :
    Container element keyed.Entries where
  stored value := value.val
  build elements short :=
    ⟨elements.foldl (insertUnique keyed placement) [], by
      have spec := foldl_insertUnique_spec placement elements (List.Pairwise.nil (R := fun first second =>
        keyed.sameKey first second = false))
      rw [List.length_nil, Nat.zero_add] at spec
      exact ⟨Nat.lt_of_le_of_lt spec.1 short, spec.2⟩⟩
  same first second := sameEntries element first.val second.val
  equivalence := by
    have equivalence := sameEntries_equivalence element
    exact ⟨fun value => equivalence.refl value.val, equivalence.symm, equivalence.trans⟩
  size_lt value := value.property.1
  rebuilds value elements short same := by
    have reversed : keyed.Distinct value.val.reverse :=
      (keyed.distinct_perm (List.reverse_perm value.val)).mpr value.property.2
    have perm : (elements.foldl (insertUnique keyed placement) []).Perm elements :=
      foldl_insertUnique_perm placement (keyed.distinct_of_same same reversed)
    rw [sameEntries_iff]
    constructor
    · intro first mem
      rcases exists_left_of_forall₂ same.flip (List.mem_reverse.mpr mem) with
        ⟨second, secondMem, equal⟩
      exact ⟨second, perm.mem_iff.mpr secondMem, equal⟩
    · intro second mem
      rcases exists_left_of_forall₂ same (perm.mem_iff.mp mem) with ⟨first, firstMem, equal⟩
      exact ⟨first, List.mem_reverse.mp firstMem, equal⟩

end Codec

end VoxelEngine.Serialize
