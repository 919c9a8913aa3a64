import VoxelEngine.Data.WeakOrder
import VoxelEngine.Serialize.Integer
import VoxelEngine.Serialize.Shape

/-!
# Containers with equivalent keys

A multiset or multimap is written in iteration order, and read from the back.  As every
element is inserted behind those it is equivalent to, equivalent elements come out in
reverse.  The container is restored if and only if this makes no difference.
-/

namespace VoxelEngine.Serialize

open VoxelEngine.Data

namespace Codec

variable {α γ : Type}

/-- How the elements of a multiset or multimap are ordered.  Equal elements compare alike. -/
structure KeyOrder (element : Codec α) where
  order : WeakOrder α
  respects : order.Respects fun first second => element.same first second = true

/-- A multiset or multimap with less than `2 ^ 64` elements, in iteration order. -/
abbrev KeyOrder.Entries {element : Codec α} (keys : KeyOrder element) :=
  { elements : List α // elements.length < 2 ^ 64 ∧ keys.order.Sorted elements }

section Multi

variable {element : Codec α} (keys : KeyOrder element)

/-- `insert` of the elements in the order in which they are read. -/
def insertAll (elements : List α) : List α :=
  elements.foldl (fun result value => keys.order.insertUpper value result) []

theorem insertAll_perm (elements : List α) : (insertAll keys elements).Perm elements :=
  (WeakOrder.foldl_insertUpper elements List.Pairwise.nil).2.1

theorem sorted_insertAll (elements : List α) : keys.order.Sorted (insertAll keys elements) :=
  (WeakOrder.foldl_insertUpper elements List.Pairwise.nil).1

theorem equalRange_insertAll (key : α) (elements : List α) :
    keys.order.equalRange key (insertAll keys elements) = keys.order.equalRange key elements :=
  (WeakOrder.foldl_insertUpper elements List.Pairwise.nil).2.2 key

theorem insertAll_entries {elements : List α} (short : elements.length < 2 ^ 64) :
    (insertAll keys elements).length < 2 ^ 64 ∧ keys.order.Sorted (insertAll keys elements) := by
  rw [(insertAll_perm keys elements).length_eq]
  exact ⟨short, sorted_insertAll keys elements⟩

/-- The container that is built from the elements in the order in which they are read. -/
def buildMulti {count : UInt64} (elements : Many α count.toNat) : keys.Entries :=
  ⟨insertAll keys elements.val,
    insertAll_entries keys (Nat.lt_of_le_of_lt (Nat.le_of_eq elements.property) count.toNat_lt)⟩

/-- `container_to_bytes` of a container with `insert`. -/
def multiToBytes (value : keys.Entries) : ByteString :=
  value.val.flatMap element.toBytes ++ encodeVariableLength (UInt64.ofNat value.val.length)

/-- `container_from_bytes` -/
def multiFromBytes : Reader UInt8 keys.Entries := fun source =>
  (decodeVariableLength source).bind fun count =>
    (readMany element.fromBytes count.1.toNat count.2).map fun elements =>
      (buildMulti keys elements.1, elements.2)

/-- `operator==` compares the elements one by one. -/
def sameMulti (first second : keys.Entries) : Bool :=
  sameSequence element first.val second.val

/-- The equivalent elements of every key are the same read backwards. -/
def Palindromic (value : keys.Entries) : Prop :=
  ∀ key ∈ value.val,
    sameSequence element (keys.order.equalRange key value.val)
      (keys.order.equalRange key value.val).reverse = true

instance (value : keys.Entries) : Decidable (Palindromic keys value) :=
  inferInstanceAs (Decidable (∀ _ ∈ _, _))

/-- What is read is what was written, inserted in reverse. -/
theorem exists_multiFromBytes (value : keys.Entries) (front : ByteString) :
    ∃ elements, List.Forall₂ (fun first second => element.same first second = true)
        value.val.reverse elements ∧
      ∃ decoded : keys.Entries, decoded.val = insertAll keys elements ∧
        multiFromBytes keys (front ++ multiToBytes keys value) = some (decoded, front) := by
  rcases exists_manyLayout_flatMap element value.val with ⟨elements, same, laid⟩
  have length_eq : elements.length = value.val.length := by
    rw [← same.length_eq, List.length_reverse]
  have count_eq : elements.length = (UInt64.ofNat value.val.length).toNat := by
    rw [UInt64.toNat_ofNat', Nat.mod_eq_of_lt value.property.1, length_eq]
  have reading := recognizes_decodeVariableLength.bind
    (fun count : UInt64 => (element.recognizes.readMany count.toNat).map (buildMulti keys))
  refine ⟨elements, same, buildMulti keys ⟨elements, count_eq⟩, rfl, ?_⟩
  exact reading.read_append
    ⟨_, _, _, lengthField_encodeVariableLength _, ⟨⟨elements, count_eq⟩, laid, rfl⟩, rfl⟩ front

/-- Keys that no element is equivalent to make no difference. -/
theorem palindromic_iff (value : keys.Entries) :
    Palindromic keys value ↔ ∀ key, sameSequence element (keys.order.equalRange key value.val)
      (keys.order.equalRange key value.val).reverse = true := by
  constructor
  · intro palindromic key
    cases rangeEq : keys.order.equalRange key value.val with
    | nil => rfl
    | cons member members =>
        have found : member ∈ keys.order.equalRange key value.val := by
          rw [rangeEq]
          exact List.mem_cons_self
        rw [WeakOrder.equalRange, List.mem_filter] at found
        have ranges : keys.order.equalRange member value.val =
            keys.order.equalRange key value.val :=
          congrArg (fun chosen => value.val.filter chosen)
            (funext fun other => (WeakOrder.equivalent_congr found.2 other).symm)
        rw [← rangeEq, ← ranges]
        exact palindromic member found.1
  · exact fun all key _ => all key

/-- A multiset or multimap can always be read back, and what is read equals it if and only if
equivalent elements are the same read backwards. -/
theorem multi_restored_iff_palindromic (value : keys.Entries) (front : ByteString) :
    ∃ decoded, multiFromBytes keys (front ++ multiToBytes keys value) = some (decoded, front) ∧
      (sameMulti keys value decoded = true ↔ Palindromic keys value) := by
  rcases exists_multiFromBytes keys value front with ⟨elements, read, decoded, decodedEq, readEq⟩
  refine ⟨decoded, readEq, ?_⟩
  have sequences := sameSequence_equivalence element
  rw [sameMulti, sameSequence_iff, decodedEq,
    WeakOrder.forall₂_iff_equalRange keys.respects value.property.2 (sorted_insertAll keys _),
    palindromic_iff]
  apply forall_congr'
  intro key
  -- the elements with the key were read backwards
  have backwards : sameSequence element (keys.order.equalRange key value.val).reverse
      (keys.order.equalRange key elements) = true := by
    have range := WeakOrder.Respects.equalRange keys.respects read key
    rw [WeakOrder.equalRange, List.filter_reverse] at range
    exact (sameSequence_iff element _ _).mpr range
  rw [equalRange_insertAll, ← sameSequence_iff]
  constructor
  · exact fun same => sequences.trans same (sequences.symm backwards)
  · exact fun same => sequences.trans same backwards

end Multi

/-- A `multimap` is ordered by the keys of its elements. -/
def KeyOrder.onKeys {key : Codec α} (keys : KeyOrder key) (mapped : Codec γ) :
    KeyOrder (entry key mapped) where
  order :=
    { less first second := keys.order.less first.1 second.1
      asymm := keys.order.asymm
      split middle := keys.order.split middle.1 }
  respects same other := by
    rw [entry, member, Bool.and_eq_true] at same
    exact keys.respects same.1 other.1

/-- `std::less` on unsigned integers. -/
def integerOrder (size : Nat) : KeyOrder (scalar size) where
  order :=
    { less first second := decide (ofLittleEndian first.val < ofLittleEndian second.val)
      asymm less := by
        rw [decide_eq_true_iff] at less
        exact decide_eq_false (Nat.lt_asymm less)
      split middle less := by
        rw [decide_eq_true_iff] at less
        rw [decide_eq_true_iff, decide_eq_true_iff]
        rcases Nat.lt_or_ge (ofLittleEndian _) (ofLittleEndian middle.val) with below | above
        · exact Or.inl below
        · exact Or.inr (Nat.lt_of_le_of_lt above less) }
  respects same other := by
    rw [Subtype.ext (beq_iff_eq.mp same)]
    exact ⟨rfl, rfl⟩

/-- A `multimap` from bytes to bytes. -/
abbrev byteMultimap : KeyOrder (entry (scalar 1) (scalar 1)) :=
  (integerOrder 1).onKeys (scalar 1)

/-- Two elements under the same key. -/
def twoEntries : byteMultimap.Entries :=
  ⟨[(⟨[1], rfl⟩, ⟨[10], rfl⟩, ()), (⟨[1], rfl⟩, ⟨[20], rfl⟩, ())], by decide⟩

/-- They are read back in reverse. -/
theorem twoEntries_reversed :
    ∃ decoded, multiFromBytes byteMultimap (multiToBytes byteMultimap twoEntries) =
        some (decoded, []) ∧
      decoded.val = twoEntries.val.reverse ∧ sameMulti byteMultimap twoEntries decoded = false := by
  have read : (multiFromBytes byteMultimap (multiToBytes byteMultimap twoEntries)).map
      (fun read => read.1.val) = some twoEntries.val.reverse := by
    decide +kernel
  have left : (multiFromBytes byteMultimap (multiToBytes byteMultimap twoEntries)).map Prod.snd =
      some [] := by
    decide +kernel
  rcases Option.map_eq_some_iff.mp read with ⟨⟨decoded, rest⟩, readEq, decodedEq⟩
  rw [readEq] at left
  cases left
  refine ⟨decoded, readEq, decodedEq, ?_⟩
  rw [sameMulti, decodedEq]
  decide +kernel

end Codec

end VoxelEngine.Serialize
