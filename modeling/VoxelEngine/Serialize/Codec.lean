import VoxelEngine.Serialize.VariableLength

/-!
# Codecs

A codec writes the values of a type at the end of a byte string and reads them from its
back.  It carries the layout that its reader recognizes, the equality of its values, and
the fact that what it writes is a layout of an equal value.  Codecs are built from
trivially copyable data, members of a product and elements of a container.
-/

namespace VoxelEngine.Serialize

/-- How the values of a type are serialized, and when two of them are equal. -/
structure Codec (α : Type) where
  toBytes : α → ByteString
  fromBytes : Reader UInt8 α
  same : α → α → Bool
  layout : Layout UInt8 α
  equivalence : Equivalence fun first second => same first second = true
  recognizes : Recognizes fromBytes layout
  restores : ∀ value, ∃ decoded, layout decoded (toBytes value) ∧ same value decoded = true

namespace Codec

variable {α γ : Type}

/-- Decoding what was encoded gives an equal value and leaves what stood before it. -/
theorem fromBytes_append_toBytes (codec : Codec α) (value : α) (front : ByteString) :
    ∃ decoded, codec.fromBytes (front ++ codec.toBytes value) = some (decoded, front) ∧
      codec.same value decoded = true := by
  rcases codec.restores value with ⟨decoded, represented, same⟩
  exact ⟨decoded, codec.recognizes.read_append represented front, same⟩

/-! ## Trivially copyable data -/

/-- The object representation of a trivially copyable object. -/
abbrev ObjectBytes (size : Nat) :=
  { bytes : ByteString // bytes.length = size }

/-- `pop_deserializer::pop`: the bytes are copied. -/
def popObject (size : Nat) : Reader UInt8 (ObjectBytes size) := fun source =>
  if enough : size ≤ source.length then
    some (⟨source.drop (source.length - size), by rw [List.length_drop]; omega⟩,
      source.take (source.length - size))
  else none

theorem recognizes_popObject (size : Nat) :
    Recognizes (popObject size) (fun value used => used = value.val) := by
  intro source value rest
  constructor
  · intro read
    unfold popObject at read
    split at read
    · cases read
      exact ⟨_, rfl, (List.take_append_drop _ source).symm⟩
    · cases read
  · rintro ⟨used, rfl, rfl⟩
    rcases value with ⟨bytes, rfl⟩
    simp [popObject]

/-- The codec of a trivially copyable type. -/
def scalar (size : Nat) : Codec (ObjectBytes size) where
  toBytes value := value.val
  fromBytes := popObject size
  same first second := first.val == second.val
  layout value used := used = value.val
  equivalence := by
    constructor
    · exact fun value => beq_self_eq_true value.val
    · exact fun same => beq_iff_eq.mpr (beq_iff_eq.mp same).symm
    · exact fun first second => beq_iff_eq.mpr ((beq_iff_eq.mp first).trans (beq_iff_eq.mp second))
  recognizes := recognizes_popObject size
  restores value := ⟨value, rfl, beq_self_eq_true value.val⟩

/-! ## Products -/

/-- No members. -/
def noMembers : Codec Unit where
  toBytes _ := []
  fromBytes source := some ((), source)
  same _ _ := true
  layout _ used := used = []
  equivalence := ⟨fun _ => rfl, fun same => same, fun first _ => first⟩
  recognizes := by
    intro source value rest
    constructor
    · intro read
      cases read
      exact ⟨[], rfl, (List.append_nil source).symm⟩
    · rintro ⟨used, rfl, rfl⟩
      rw [List.append_nil]
  restores value := ⟨value, rfl, rfl⟩

/-- `decomposable_to_bytes` and `decomposable_from_bytes`, one member at a time: the last
member is written first and the first one is read first. -/
def member (first : Codec α) (others : Codec γ) : Codec (α × γ) where
  toBytes value := others.toBytes value.2 ++ first.toBytes value.1
  fromBytes source :=
    (first.fromBytes source).bind fun result =>
      (others.fromBytes result.2).map fun rest => ((result.1, rest.1), rest.2)
  same left right := first.same left.1 right.1 && others.same left.2 right.2
  layout value used := ∃ firstUsed othersUsed,
    first.layout value.1 firstUsed ∧ others.layout value.2 othersUsed ∧
      used = othersUsed ++ firstUsed
  equivalence := by
    constructor
    · intro value
      simp [first.equivalence.refl value.1, others.equivalence.refl value.2]
    · intro left right same
      rw [Bool.and_eq_true] at same ⊢
      exact ⟨first.equivalence.symm same.1, others.equivalence.symm same.2⟩
    · intro left middle right leftSame rightSame
      rw [Bool.and_eq_true] at leftSame rightSame ⊢
      exact ⟨first.equivalence.trans leftSame.1 rightSame.1,
        others.equivalence.trans leftSame.2 rightSame.2⟩
  recognizes := by
    have step := first.recognizes.bind
      (fun value => others.recognizes.map (fun rest => (value, rest)))
    intro source value rest
    apply (step source value rest).trans
    constructor
    · rintro ⟨used, ⟨_, firstUsed, othersUsed, firstLaid, ⟨inner, othersLaid, rfl⟩, rfl⟩, rfl⟩
      exact ⟨_, ⟨firstUsed, othersUsed, firstLaid, othersLaid, rfl⟩, rfl⟩
    · rintro ⟨used, ⟨firstUsed, othersUsed, firstLaid, othersLaid, rfl⟩, rfl⟩
      exact ⟨_, ⟨value.1, firstUsed, othersUsed, firstLaid, ⟨value.2, othersLaid, rfl⟩, rfl⟩, rfl⟩
  restores value := by
    rcases first.restores value.1 with ⟨decoded, represented, same⟩
    rcases others.restores value.2 with ⟨rest, restRepresented, restSame⟩
    refine ⟨(decoded, rest), ⟨_, _, represented, restRepresented, rfl⟩, ?_⟩
    rw [Bool.and_eq_true]
    exact ⟨same, restSame⟩

/-! ## Containers -/

/-- A kind of container: in which order its elements are written, and how a container is
built from elements in the order in which they are read. -/
structure Container (element : Codec α) (γ : Type) where
  stored : γ → List α
  build : (elements : List α) → elements.length < 2 ^ 64 → γ
  same : γ → γ → Bool
  equivalence : Equivalence fun first second => same first second = true
  size_lt : ∀ value, (stored value).length < 2 ^ 64
  rebuilds : ∀ value elements (short : elements.length < 2 ^ 64),
    List.Forall₂ (fun first second => element.same first second = true)
      (stored value).reverse elements → same value (build elements short) = true

/-- `container_to_bytes`: the elements, then how many of them there are. -/
def containerToBytes {element : Codec α} (container : Container element γ) (value : γ) :
    ByteString :=
  (container.stored value).flatMap element.toBytes ++
    encodeVariableLength (UInt64.ofNat (container.stored value).length)

/-- `container_from_bytes` -/
def containerFromBytes {element : Codec α} (container : Container element γ) :
    Reader UInt8 γ := fun source =>
  (decodeVariableLength source).bind fun count =>
    (readMany element.fromBytes count.1.toNat count.2).map fun elements =>
      (container.build elements.1.val (by rw [elements.1.property]; exact count.1.toNat_lt),
        elements.2)

/-- Elements one after the other, the last one read first, and their number. -/
def containerLayout {element : Codec α} (container : Container element γ) :
    Layout UInt8 γ := fun value used =>
  ∃ (elements : List α) (short : elements.length < 2 ^ 64) (size body : ByteString),
    LengthField (UInt64.ofNat elements.length) size ∧
      manyLayout element.layout elements body ∧ used = body ++ size ∧
        container.build elements short = value

theorem recognizes_containerFromBytes {element : Codec α} (container : Container element γ) :
    Recognizes (containerFromBytes container) (containerLayout container) := by
  have step := recognizes_decodeVariableLength.bind
    (fun count : UInt64 => (element.recognizes.readMany count.toNat).map fun elements =>
      container.build elements.val (by rw [elements.property]; exact count.toNat_lt))
  intro source value rest
  apply (step source value rest).trans
  constructor
  · rintro ⟨used, ⟨count, size, body, sized, ⟨⟨elements, lengthEq⟩, laid, rfl⟩, rfl⟩, rfl⟩
    refine ⟨_, ⟨elements, by rw [lengthEq]; exact count.toNat_lt, size, body, ?_, laid, rfl, rfl⟩,
      rfl⟩
    rw [lengthEq, UInt64.ofNat_toNat]
    exact sized
  · rintro ⟨used, ⟨elements, short, size, body, sized, laid, rfl, rfl⟩, rfl⟩
    have count_eq : elements.length = (UInt64.ofNat elements.length).toNat := by
      rw [UInt64.toNat_ofNat', Nat.mod_eq_of_lt short]
    exact ⟨_, ⟨_, size, body, sized, ⟨⟨elements, count_eq⟩, laid, rfl⟩, rfl⟩, rfl⟩

/-- Written elements represent elements that equal them. -/
theorem exists_manyLayout_flatMap (element : Codec α) (values : List α) :
    ∃ decoded, List.Forall₂ (fun first second => element.same first second = true)
        values.reverse decoded ∧
      manyLayout element.layout decoded (values.flatMap element.toBytes) := by
  induction values using List.reverseRecOn with
  | nil => exact ⟨[], List.Forall₂.nil, [], List.Forall₂.nil, rfl⟩
  | append_singleton values value ih =>
      rcases ih with ⟨decoded, same, pieces, laid, eq⟩
      rcases element.restores value with ⟨last, lastLaid, lastSame⟩
      refine ⟨last :: decoded, ?_, element.toBytes value :: pieces,
        List.Forall₂.cons lastLaid laid, ?_⟩
      · rw [List.reverse_append]
        exact List.Forall₂.cons lastSame same
      · simp [eq]

/-- The codec of a container. -/
def container {element : Codec α} (container : Container element γ) : Codec γ where
  toBytes := containerToBytes container
  fromBytes := containerFromBytes container
  same := container.same
  layout := containerLayout container
  equivalence := container.equivalence
  recognizes := recognizes_containerFromBytes container
  restores value := by
    rcases exists_manyLayout_flatMap element (container.stored value) with ⟨decoded, same, laid⟩
    have length_eq : decoded.length = (container.stored value).length := by
      rw [← same.length_eq, List.length_reverse]
    have short : decoded.length < 2 ^ 64 := by
      rw [length_eq]
      exact container.size_lt value
    refine ⟨container.build decoded short, ⟨decoded, short, _, _, ?_, laid, rfl, rfl⟩,
      container.rebuilds value decoded short same⟩
    rw [length_eq]
    exact lengthField_encodeVariableLength _

end Codec

end VoxelEngine.Serialize
