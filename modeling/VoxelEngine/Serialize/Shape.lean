import VoxelEngine.Serialize.Containers

/-!
# Serializable types

The types that can be serialized without a serializer of their own: trivially copyable
types, containers with `push_back` or `push_front`, sets and maps, and products, nested to
any depth.  A trivial product is copied as a whole and therefore is a scalar here.
-/

namespace VoxelEngine.Serialize

/-- A serializable type.  Sets and maps are tagged with the kind of container that holds
their elements (ordered, hashed or a sorted vector). -/
inductive Shape where
  /-- `std::is_trivial_v<T>`: `sizeof(T)` bytes. -/
  | scalar (size : Nat)
  /-- `std::vector`, `std::string`, `small_vector` -/
  | pushBack (element : Shape)
  /-- `std::list`, `std::deque`, `std::forward_list` -/
  | pushFront (element : Shape)
  /-- `tree_set`, `hash_set`, `vec_set` -/
  | set (kind : Nat) (key : Shape)
  /-- `tree_map`, `hash_map`, `vec_map` -/
  | map (kind : Nat) (key mapped : Shape)
  /-- `is_decomposable_v<T>`: the members in the order in which they are declared. -/
  | product (members : List Shape)

/-- Where each kind of associative container puts new elements. -/
abbrev Placements :=
  Nat → (α : Type) → Codec.Placement α

/-- The values of a serializable type and their codec. -/
structure Interpretation where
  Value : Type
  codec : Codec Value

namespace Codec

variable {α γ : Type}

/-- The elements of a set are their own keys. -/
def setKeys (key : Codec α) : Keyed key where
  sameKey := key.same
  equivalence := key.equivalence
  sameKey_of_same same := same

/-- The elements of a map, `std::pair<const K, V>`. -/
abbrev entry (key : Codec α) (mapped : Codec γ) : Codec (α × γ × Unit) :=
  member key (member mapped noMembers)

/-- The keys of a map are the first members of its elements. -/
def mapKeys (key : Codec α) (mapped : Codec γ) : Keyed (entry key mapped) where
  sameKey first second := key.same first.1 second.1
  equivalence := ⟨fun value => key.equivalence.refl value.1, key.equivalence.symm,
    key.equivalence.trans⟩
  sameKey_of_same same := by
    rw [entry, member, Bool.and_eq_true] at same
    exact same.1

end Codec

namespace Shape

variable (placements : Placements)

mutual

/-- The values and the codec of a serializable type. -/
def interpret : Shape → Interpretation
  | scalar size => ⟨_, Codec.scalar size⟩
  | pushBack element => ⟨_, Codec.container (Codec.pushBack (interpret element).codec)⟩
  | pushFront element => ⟨_, Codec.container (Codec.pushFront (interpret element).codec)⟩
  | set kind key =>
      ⟨_, Codec.container (Codec.associative (Codec.setKeys (interpret key).codec)
        (placements kind _))⟩
  | map kind key mapped =>
      ⟨_, Codec.container (Codec.associative
        (Codec.mapKeys (interpret key).codec (interpret mapped).codec) (placements kind _))⟩
  | product members => interpretMembers members

/-- The members of a product. -/
def interpretMembers : List Shape → Interpretation
  | [] => ⟨_, Codec.noMembers⟩
  | first :: others => ⟨_, Codec.member (interpret first).codec (interpretMembers others).codec⟩

end

/-- The values of a serializable type. -/
abbrev Value (shape : Shape) : Type :=
  (shape.interpret placements).Value

/-- `to_bytes<T>` -/
def toBytes (shape : Shape) (value : shape.Value placements) : ByteString :=
  (shape.interpret placements).codec.toBytes value

/-- `from_bytes<T>` -/
def fromBytes (shape : Shape) : Reader UInt8 (shape.Value placements) :=
  (shape.interpret placements).codec.fromBytes

/-- `operator==`: sequences are compared in order, sets and maps by what they contain. -/
def same (shape : Shape) (first second : shape.Value placements) : Bool :=
  (shape.interpret placements).codec.same first second

/-- The byte strings that represent a value of the type. -/
def layout (shape : Shape) : Layout UInt8 (shape.Value placements) :=
  (shape.interpret placements).codec.layout

/-- Decoding a span that ends in an encoded value yields an equal value and leaves exactly
what stands before it. -/
theorem roundTrip_of_shape (shape : Shape) (value : shape.Value placements)
    (front : ByteString) :
    ∃ decoded, shape.fromBytes placements (front ++ shape.toBytes placements value) =
        some (decoded, front) ∧ shape.same placements value decoded = true :=
  (shape.interpret placements).codec.fromBytes_append_toBytes value front

/-- Decoding succeeds exactly on spans that end in the layout of some value. -/
theorem recognizes_fromBytes (shape : Shape) :
    Recognizes (shape.fromBytes placements) (shape.layout placements) :=
  (shape.interpret placements).codec.recognizes

end Shape

end VoxelEngine.Serialize
