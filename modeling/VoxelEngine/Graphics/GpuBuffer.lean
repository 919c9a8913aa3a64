import VoxelEngine.Data.Overwrite
import VoxelEngine.Data.Rounding
import VoxelEngine.Transition.Simulation

/-!
# Buffers in the memory of the graphics card

A buffer grows like a vector, but what it holds are the bytes in an object of the graphics library,
which is replaced by a larger one when it is too small.  How many elements the new object is to have
room for is computed in single precision, how many bytes that are in 64 bits, and the driver may
not have the memory.  Commands that reach beyond the end of an object have no effect, and nothing
tells the program about it.
-/

namespace VoxelEngine.Graphics

open VoxelEngine.Data VoxelEngine.Transition

universe u

/-! ## What a buffer rests on -/

/-- The commands of the graphics library for buffer objects, with what is documented of them.  `D`
is the state of the driver, on which depends for how much memory `glBufferData` finds room, and `M`
are the objects. -/
structure BufferCommands (D M : Type) where
  contents : M → List UInt8
  /-- `glGenBuffers` -/
  genBuffers : M
  /-- `glBufferData` without data. -/
  bufferData : D → M → Nat → M
  /-- `glCopyNamedBufferSubData` between the beginnings of two objects. -/
  copyNamedBufferSubData : M → M → Nat → M
  /-- `glBufferSubData` -/
  bufferSubData : M → Nat → List UInt8 → M
  /-- Sizes are signed numbers of 64 bits. -/
  length_contents_lt : ∀ object, (contents object).length < 2 ^ 63
  contents_copyNamedBufferSubData : ∀ source target count,
    contents (copyNamedBufferSubData source target count) =
      if count ≤ (contents source).length ∧ count ≤ (contents target).length then
        overwrite (contents target) 0 ((contents source).take count)
      else contents target
  contents_bufferSubData : ∀ object position data,
    contents (bufferSubData object position data) =
      if position + data.length ≤ (contents object).length then
        overwrite (contents object) position data
      else contents object

/-- The bytes of the objects of a type, and how many they are. -/
class TriviallyCopyable (α : Type u) where
  size : Nat
  bytes : α → List UInt8
  size_pos : 0 < size
  length_bytes : ∀ object, (bytes object).length = size

instance : TriviallyCopyable UInt8 where
  size := 1
  bytes byte := [byte]
  size_pos := Nat.one_pos
  length_bytes := @List.length_singleton UInt8

/-- A result of type `std::size_t`. -/
def toSizeT (value : Nat) : Nat :=
  value % 2 ^ 64

theorem toSizeT_of_lt {value : Nat} (small : value < 2 ^ 64) : toSizeT value = value :=
  Nat.mod_eq_of_lt small

section Allocation

variable {D M : Type} (commands : BufferCommands D M)

/-- The object that is made for some number of elements. -/
def BufferCommands.allocate (elementSize : Nat) (driver : D) (count : Nat) : M :=
  commands.bufferData driver commands.genBuffers (toSizeT (count * elementSize))

/-- The driver has the memory for all of these elements. -/
def BufferCommands.Grants (elementSize : Nat) (driver : D) (count : Nat) : Prop :=
  (commands.contents (commands.allocate elementSize driver count)).length = count * elementSize

/-- There are elements of which so many make up no bytes. -/
example : toSizeT (2 ^ 60 * 16) = 0 := by
  decide

instance (elementSize : Nat) (driver : D) (count : Nat) :
    Decidable (commands.Grants elementSize driver count) :=
  inferInstanceAs (Decidable (_ = _))

variable {commands} {elementSize count : Nat} {driver : D}

theorem BufferCommands.Grants.lt (granted : commands.Grants elementSize driver count) :
    count * elementSize < 2 ^ 63 := by
  rw [← granted]
  exact commands.length_contents_lt _

end Allocation

/-- `GLenum gl_type`, where it is not `GL_INVALID_ENUM`. -/
inductive BufferTarget where
  | arrayBuffer
  | elementArrayBuffer
  | uniformBuffer
  deriving DecidableEq

/-- `Overallocate`, a factor of `num / 2 ^ scale`, such as 1 with `num` 1 and `scale` 0, and 1.5
with `num` 3 and `scale` 1.  Others are rounded to single precision themselves. -/
structure Overallocate where
  num : Nat
  scale : Nat
  num_lt : num < 2 ^ 24
  den_le : 2 ^ scale ≤ num

/-- `std::size_t(count * f)` -/
def Overallocate.grow (overallocate : Overallocate) (count : Nat) : Nat :=
  toSingle (overallocate.num * toSingle count) / 2 ^ overallocate.scale

/-- The factor of buffers that do not ask for another. -/
def noOverallocation : Overallocate :=
  ⟨1, 0, by decide, by decide⟩

/-- A buffer that asks for one element more than 24 bits can count gets one less. -/
example : noOverallocation.grow (2 ^ 24 + 1) = 2 ^ 24 := by
  rfl

/-- `vbo_overallocate_factor` -/
def vboOverallocateFactor : Overallocate :=
  ⟨3, 1, by decide, by decide⟩

/-- The factor of vertex buffers makes up for what is lost by rounding twice. -/
theorem le_grow_vboOverallocateFactor (count : Nat) : count ≤ vboOverallocateFactor.grow count := by
  have inner := le_toSingle count
  have outer := le_toSingle (3 * toSingle count)
  have doubled : count * 2 ≤ toSingle (3 * toSingle count) := by omega
  exact (Nat.le_div_iff_mul_le Nat.two_pos).mpr doubled

/-! ## The buffer -/

/-- `buffer`, with the object that it owns. -/
structure Buffer (M : Type) where
  glType : Option BufferTarget
  object : Option M
  size : Nat
  capacity : Nat

namespace Buffer

variable {D M : Type} {α : Type u} [TriviallyCopyable α] (commands : BufferCommands D M)
  (overallocate : Overallocate)

/-- `buffer(GLenum type)` -/
def new (M : Type) (type : BufferTarget) : Buffer M :=
  ⟨some type, none, 0, 0⟩

/-- The bytes in the object of the buffer. -/
def stored (buffer : Buffer M) : List UInt8 :=
  buffer.object.elim [] commands.contents

/-- `new_capacity` -/
def newCapacity (buffer : Buffer M) (count : Nat) : Nat :=
  if 0 < buffer.capacity then overallocate.grow count else count

/-- A new object, with what the buffer holds copied to it. -/
def moveTo (elementSize : Nat) (buffer : Buffer M) (fresh : M) : M :=
  match buffer.object with
  | some old =>
      if buffer.size ≠ 0 then
        commands.copyNamedBufferSubData old fresh (toSizeT (buffer.size * elementSize))
      else fresh
  | none => fresh

/-- `reserve`.  A capacity beyond 64 bits cannot be converted. -/
def reserve (elementSize : Nat) (driver : D) (buffer : Buffer M) (count : Nat) :
    Option (Buffer M) :=
  if buffer.glType = none then none
  else if count ≤ buffer.capacity then some buffer
  else if 2 ^ 64 ≤ buffer.newCapacity overallocate count then none
  else
    some
      { buffer with
        object := some (buffer.moveTo commands elementSize
          (commands.allocate elementSize driver (buffer.newCapacity overallocate count)))
        capacity := buffer.newCapacity overallocate count }

/-- What `write` does after there is room. -/
def put (buffer : Buffer M) (data : List α) (position : Nat) : Buffer M :=
  { buffer with
    object := buffer.object.map fun object =>
      commands.bufferSubData object (toSizeT (position * TriviallyCopyable.size α))
        ((data.flatMap TriviallyCopyable.bytes).take
          (toSizeT (data.length * TriviallyCopyable.size α)))
    size := max buffer.size (toSizeT (position + data.length)) }

/-- `write` -/
def write (driver : D) (buffer : Buffer M) (data : List α) (position : Nat) : Option (Buffer M) :=
  if buffer.glType = none then none
  else if buffer.size < position then none
  else if data.length = 0 then some buffer
  else
    (buffer.reserve commands overallocate (TriviallyCopyable.size α) driver
      (toSizeT (position + data.length))).map fun reserved => reserved.put commands data position

/-- `shrink` -/
def shrink (buffer : Buffer M) (size : Nat) : Option (Buffer M) :=
  if size ≤ buffer.size then some { buffer with size := size } else none

end Buffer

/-- What is done to a buffer, in some state of the driver. -/
inductive BufferAction (D : Type) (α : Type u) where
  | write (driver : D) (data : List α) (position : Nat)
  | reserve (driver : D) (count : Nat)
  | shrink (size : Nat)

namespace Buffer

variable {D M : Type} {α : Type u} [TriviallyCopyable α] (commands : BufferCommands D M)
  (overallocate : Overallocate)

/-- A failed assertion ends the program. -/
def step : Step (Buffer M) (BufferAction D α)
  | buffer, .write driver data position => buffer.write commands overallocate driver data position
  | buffer, .reserve driver count =>
      buffer.reserve commands overallocate (TriviallyCopyable.size α) driver count
  | buffer, .shrink size => buffer.shrink size

end Buffer

/-! ## What a buffer is for -/

/-- The same on a list. -/
def contentsStep {D : Type} {α : Type u} : Step (List α) (BufferAction D α)
  | contents, .write _ data position =>
      if position ≤ contents.length then some (overwrite contents position data) else none
  | contents, .reserve _ _ => some contents
  | contents, .shrink size => if size ≤ contents.length then some (contents.take size) else none

namespace Buffer

variable {D M : Type} {α : Type u} [TriviallyCopyable α] (commands : BufferCommands D M)
  (overallocate : Overallocate)

/-- What a draw call reads from the buffer are the bytes of the list. -/
structure Holds (buffer : Buffer M) (contents : List α) : Prop where
  typed : buffer.glType ≠ none
  size_eq : buffer.size = contents.length
  take_stored : (buffer.stored commands).take (buffer.size * TriviallyCopyable.size α) =
    contents.flatMap TriviallyCopyable.bytes

/-- After reserving `count` elements there is room for so many bytes: the object is kept and has
them, or the driver finds them for the new one. -/
def Ample (elementSize : Nat) (driver : D) (buffer : Buffer M) (count needed : Nat) : Prop :=
  if count ≤ buffer.capacity then needed ≤ (buffer.stored commands).length
  else
    buffer.newCapacity overallocate count < 2 ^ 64 ∧
      needed ≤ (commands.contents
        (commands.allocate elementSize driver (buffer.newCapacity overallocate count))).length

/-- There is room for what the buffer holds and for what is written. -/
def Roomy (buffer : Buffer M) : BufferAction D α → Prop
  | .write driver data position =>
      position ≤ buffer.size → data ≠ [] →
        buffer.Ample commands overallocate (TriviallyCopyable.size α) driver
          (toSizeT (position + data.length))
          (max buffer.size (position + data.length) * TriviallyCopyable.size α)
  | .reserve driver count =>
      buffer.Ample commands overallocate (TriviallyCopyable.size α) driver count
        (buffer.size * TriviallyCopyable.size α)
  | .shrink _ => True

/-! ## Each operation -/

variable {commands} {overallocate} {buffer next : Buffer M} {contents data : List α}
  {driver : D} {position count needed size elementSize : Nat}

theorem holds_new (type : BufferTarget) : (new M type).Holds commands ([] : List α) := by
  constructor
  · exact Option.some_ne_none type
  · rfl
  · exact List.take_nil

/-- The buffer has room for what it holds. -/
theorem Holds.size_le (holds : buffer.Holds commands contents) :
    contents.length * TriviallyCopyable.size α ≤ (buffer.stored commands).length := by
  have lengths := congrArg List.length holds.take_stored
  rw [List.length_take, length_flatMap_eq TriviallyCopyable.length_bytes, holds.size_eq] at lengths
  omega

theorem length_stored_lt (commands : BufferCommands D M) (buffer : Buffer M) :
    (buffer.stored commands).length < 2 ^ 63 := by
  rw [stored]
  cases buffer.object with
  | none => exact Nat.two_pow_pos 63
  | some object => exact commands.length_contents_lt object

@[simp]
theorem length_copyNamedBufferSubData (source target : M) (count : Nat) :
    (commands.contents (commands.copyNamedBufferSubData source target count)).length =
      (commands.contents target).length := by
  rw [commands.contents_copyNamedBufferSubData]
  split
  · rename_i inside
    rw [length_overwrite (Nat.zero_le _), List.length_take]
    omega
  · rfl

@[simp]
theorem length_bufferSubData (object : M) (position : Nat) (data : List UInt8) :
    (commands.contents (commands.bufferSubData object position data)).length =
      (commands.contents object).length := by
  rw [commands.contents_bufferSubData]
  split
  · rename_i inside
    rw [length_overwrite (Nat.le_trans (Nat.le_add_right _ _) inside), Nat.max_eq_left inside]
  · rfl

@[simp]
theorem length_moveTo (buffer : Buffer M) (fresh : M) :
    (commands.contents (buffer.moveTo commands elementSize fresh)).length =
      (commands.contents fresh).length := by
  rw [moveTo]
  split
  · split
    · exact length_copyNamedBufferSubData _ _ _
    · rfl
  · rfl

/-- What reserving leaves: the type and the size, and an object of which the length is known. -/
theorem reserve_spec (typed : buffer.glType ≠ none)
    (reserveEq : buffer.reserve commands overallocate elementSize driver count = some next) :
    next.glType = buffer.glType ∧ next.size = buffer.size ∧
      (needed ≤ (next.stored commands).length ↔
        buffer.Ample commands overallocate elementSize driver count needed) := by
  rw [reserve, if_neg typed] at reserveEq
  rw [Ample]
  split at reserveEq
  · rename_i kept
    cases reserveEq
    rw [if_pos kept]
    exact ⟨rfl, rfl, Iff.rfl⟩
  · rename_i replaced
    rw [if_neg replaced]
    split at reserveEq
    · cases reserveEq
    · rename_i small
      cases reserveEq
      rw [and_iff_right (Nat.lt_of_not_le small), stored, Option.elim_some, length_moveTo]
      exact ⟨rfl, rfl, Iff.rfl⟩

/-- Reserving fails only for buffers without a type, and if the new capacity is too large. -/
theorem exists_reserve (typed : buffer.glType ≠ none)
    (ample : buffer.Ample commands overallocate elementSize driver count needed) :
    ∃ next, buffer.reserve commands overallocate elementSize driver count = some next := by
  rw [Ample] at ample
  rw [reserve, if_neg typed]
  split
  · exact ⟨buffer, rfl⟩
  · rename_i replaced
    rw [if_neg replaced] at ample
    rw [if_neg (Nat.not_le.mpr ample.1)]
    exact ⟨_, rfl⟩

/-- What the buffer holds is copied to an object with room for it. -/
theorem Holds.take_moveTo (holds : buffer.Holds commands contents) {fresh : M}
    (room : buffer.size * TriviallyCopyable.size α ≤ (commands.contents fresh).length) :
    (commands.contents (buffer.moveTo commands (TriviallyCopyable.size α) fresh)).take
        (buffer.size * TriviallyCopyable.size α) =
      contents.flatMap TriviallyCopyable.bytes := by
  have within := holds.size_le
  have bounded := length_stored_lt commands buffer
  rw [← holds.take_stored]
  rw [← holds.size_eq] at within
  by_cases nothing : buffer.size = 0
  · rw [nothing, Nat.zero_mul, List.take_zero, List.take_zero]
  · rw [moveTo]
    cases objectEq : buffer.object with
    | none =>
        have positive : 0 < buffer.size * TriviallyCopyable.size α :=
          Nat.mul_pos (Nat.pos_of_ne_zero nothing) TriviallyCopyable.size_pos
        rw [stored, objectEq] at within
        exact absurd within (Nat.not_le.mpr positive)
    | some old =>
        have small : buffer.size * TriviallyCopyable.size α < 2 ^ 64 := by omega
        rw [stored, objectEq, Option.elim_some] at within
        simp only [if_pos nothing, stored, objectEq, Option.elim_some]
        rw [toSizeT_of_lt small, commands.contents_copyNamedBufferSubData, if_pos ⟨within, room⟩,
          overwrite, List.take_zero, List.nil_append]
        exact List.take_left' (List.length_take_of_le within)

/-- A buffer keeps what it holds when it is moved to an object with room for it. -/
theorem Holds.reserve (holds : buffer.Holds commands contents)
    (reserveEq : buffer.reserve commands overallocate (TriviallyCopyable.size α) driver count =
      some next)
    (room : buffer.size * TriviallyCopyable.size α ≤ (next.stored commands).length) :
    next.Holds commands contents := by
  rw [Buffer.reserve, if_neg holds.typed] at reserveEq
  split at reserveEq
  · cases reserveEq
    exact holds
  · split at reserveEq
    · cases reserveEq
    · cases reserveEq
      rw [stored, Option.elim_some, length_moveTo] at room
      exact ⟨holds.typed, holds.size_eq, holds.take_moveTo room⟩

/-- Writing shows in what the buffer holds if the object has room for it. -/
theorem Holds.put (holds : buffer.Holds commands contents) (nonempty : data ≠ [])
    (within : position ≤ contents.length)
    (room : max buffer.size (position + data.length) * TriviallyCopyable.size α ≤
      (buffer.stored commands).length) :
    (buffer.put commands data position).Holds commands (overwrite contents position data) := by
  have bounded := length_stored_lt commands buffer
  have lengths := length_flatMap_eq (TriviallyCopyable.length_bytes (α := α)) data
  have element_pos := TriviallyCopyable.size_pos (α := α)
  have inside : (position + data.length) * TriviallyCopyable.size α ≤
      (buffer.stored commands).length :=
    Nat.le_trans (Nat.mul_le_mul_right _ (Nat.le_max_right _ _)) room
  have count_le : position + data.length ≤ (position + data.length) * TriviallyCopyable.size α :=
    Nat.le_mul_of_pos_right _ element_pos
  rw [Nat.add_mul] at inside count_le
  have size_eq : max buffer.size (toSizeT (position + data.length)) =
      max contents.length (position + data.length) := by
    rw [toSizeT_of_lt (by omega), holds.size_eq]
  constructor
  · exact holds.typed
  · rw [length_overwrite within]
    exact size_eq
  · rw [flatMap_overwrite TriviallyCopyable.length_bytes, ← holds.take_stored]
    simp only [Buffer.put, stored] at room bounded inside ⊢
    cases objectEq : buffer.object with
    | none =>
        rw [objectEq, Option.elim_none, List.length_nil] at inside
        have positive : 0 < data.length * TriviallyCopyable.size α :=
          Nat.mul_pos (List.length_pos_iff.mpr nonempty) element_pos
        omega
    | some object =>
        simp only [objectEq, Option.elim_some, Option.map_some] at room bounded inside ⊢
        rw [toSizeT_of_lt (by omega : position * TriviallyCopyable.size α < 2 ^ 64),
          toSizeT_of_lt (by omega : data.length * TriviallyCopyable.size α < 2 ^ 64),
          ← lengths, List.take_length, commands.contents_bufferSubData,
          if_pos (by rw [lengths]; exact inside), size_eq, ← holds.size_eq]
        have part := @take_overwrite _ (commands.contents object)
          (data.flatMap TriviallyCopyable.bytes) (position * TriviallyCopyable.size α)
          (buffer.size * TriviallyCopyable.size α)
          (Nat.mul_le_mul_right _ (holds.size_eq ▸ within))
          (Nat.le_trans (Nat.mul_le_mul_right _ (Nat.le_max_left _ _)) room)
        rw [lengths, ← Nat.add_mul, Nat.mul_max_mul_right] at part
        exact part

@[simp]
theorem length_stored_put (buffer : Buffer M) (data : List α) (position : Nat) :
    ((buffer.put commands data position).stored commands).length =
      (buffer.stored commands).length := by
  rw [stored, stored, Buffer.put]
  cases buffer.object with
  | none => rfl
  | some object => exact length_bufferSubData _ _ _

section Steps

variable (holds : buffer.Holds commands contents)

include holds

/-- A write does what it does to the list exactly if there is room for it. -/
theorem stepsTogether_write (overallocate : Overallocate) (driver : D) (data : List α)
    (position : Nat) :
    StepsTogether (Buffer.step commands overallocate) contentsStep (Holds commands) buffer contents
        (.write driver data position) ↔
      buffer.Roomy commands overallocate (.write driver data position) := by
  rw [StepsTogether, Buffer.step, contentsStep, write, Roomy, if_neg holds.typed, holds.size_eq]
  by_cases within : position ≤ contents.length
  · rw [if_neg (Nat.not_lt.mpr within), if_pos within]
    by_cases empty : data = []
    · rw [empty, if_pos List.length_nil, overwrite_nil]
      exact iff_of_true (Option.Rel.some holds) fun _ nonempty => absurd rfl nonempty
    · rw [if_neg (mt List.length_eq_zero_iff.mp empty)]
      constructor
      · intro together _ _
        cases reserveEq : buffer.reserve commands overallocate (TriviallyCopyable.size α) driver
            (toSizeT (position + data.length)) with
        | none =>
            rw [reserveEq] at together
            cases together
        | some reserved =>
            rw [reserveEq, Option.map_some] at together
            rcases together with ⟨written⟩
            have room := Holds.size_le written
            rw [length_overwrite within, length_stored_put] at room
            exact (reserve_spec holds.typed reserveEq).2.2.mp room
      · intro ample
        have ample := ample within empty
        rcases exists_reserve holds.typed ample with ⟨reserved, reserveEq⟩
        rcases reserve_spec holds.typed reserveEq with ⟨_, size_eq, ample_iff⟩
        have room := ample_iff.mpr ample
        have kept : buffer.size * TriviallyCopyable.size α ≤ (reserved.stored commands).length := by
          rw [holds.size_eq]
          exact Nat.le_trans (Nat.mul_le_mul_right _ (Nat.le_max_left _ _)) room
        rw [reserveEq, Option.map_some]
        rw [← holds.size_eq, ← size_eq] at room
        exact Option.Rel.some ((holds.reserve reserveEq kept).put empty within room)
  · rw [if_pos (Nat.not_le.mp within), if_neg within]
    exact iff_of_true Option.Rel.none fun inside => absurd inside within

theorem stepsTogether_reserve (overallocate : Overallocate) (driver : D) (count : Nat) :
    StepsTogether (Buffer.step commands overallocate) contentsStep (Holds commands) buffer contents
        (.reserve driver count) ↔
      buffer.Roomy commands overallocate (.reserve driver count : BufferAction D α) := by
  rw [StepsTogether, Buffer.step, contentsStep, Roomy]
  constructor
  · intro together
    cases reserveEq : buffer.reserve commands overallocate (TriviallyCopyable.size α) driver
        count with
    | none =>
        rw [reserveEq] at together
        cases together
    | some next =>
        rw [reserveEq] at together
        rcases together with ⟨held⟩
        have room := Holds.size_le held
        rw [← holds.size_eq] at room
        exact (reserve_spec holds.typed reserveEq).2.2.mp room
  · intro ample
    rcases exists_reserve holds.typed ample with ⟨next, reserveEq⟩
    rw [reserveEq]
    exact Option.Rel.some
      (holds.reserve reserveEq ((reserve_spec holds.typed reserveEq).2.2.mpr ample))

theorem stepsTogether_shrink (overallocate : Overallocate) (size : Nat) :
    StepsTogether (Buffer.step commands overallocate) contentsStep (Holds commands) buffer contents
      (.shrink size) := by
  rw [StepsTogether, Buffer.step, contentsStep, shrink, holds.size_eq]
  by_cases within : size ≤ contents.length
  · rw [if_pos within, if_pos within]
    apply Option.Rel.some
    constructor
    · exact holds.typed
    · exact (List.length_take_of_le within).symm
    · have fewer : size * TriviallyCopyable.size α ≤ buffer.size * TriviallyCopyable.size α :=
        Nat.mul_le_mul_right _ (holds.size_eq ▸ within)
      calc
        (buffer.stored commands).take (size * TriviallyCopyable.size α) =
            ((buffer.stored commands).take (buffer.size * TriviallyCopyable.size α)).take
              (size * TriviallyCopyable.size α) := by rw [List.take_take, Nat.min_eq_left fewer]
        _ = (contents.take size).flatMap TriviallyCopyable.bytes := by
            rw [holds.take_stored, flatMap_take TriviallyCopyable.length_bytes]
  · rw [if_neg within, if_neg within]
    exact Option.Rel.none

end Steps

theorem stepsTogether_iff_roomy (overallocate : Overallocate) (buffer : Buffer M)
    (contents : List α) (action : BufferAction D α) (holds : buffer.Holds commands contents) :
    StepsTogether (Buffer.step commands overallocate) contentsStep (Holds commands) buffer contents
        action ↔
      buffer.Roomy commands overallocate action := by
  cases action with
  | write driver data position => exact stepsTogether_write holds overallocate driver data position
  | reserve driver count => exact stepsTogether_reserve holds overallocate driver count
  | shrink size => exact iff_of_true (stepsTogether_shrink holds overallocate size) trivial

/-! ## Runs -/

/-- Whatever the driver does, a buffer holds the bytes of what a list would hold, and fails where
the list would, throughout every run in which there is room for what is written and for what is
moved, and in no other. -/
theorem holds_throughout_iff (commands : BufferCommands D M) (overallocate : Overallocate)
    (type : BufferTarget) (actions : List (BufferAction D α)) :
    (∀ before after, actions = before ++ after →
        Option.Rel (Holds commands)
          (run (Buffer.step commands overallocate) (new M type) before)
          (run contentsStep [] before)) ↔
      Guarded (Buffer.step commands overallocate) (Roomy commands overallocate) (new M type)
        actions :=
  together_throughout_iff_guarded (stepsTogether_iff_roomy overallocate) (holds_new type)

/-! ## Buffers that get their memory -/

variable (commands) (overallocate)

/-- If a new object has to be made, there is memory for it. -/
def Granted (elementSize : Nat) (driver : D) (buffer : Buffer M) (count : Nat) : Prop :=
  buffer.capacity < count →
    commands.Grants elementSize driver (buffer.newCapacity overallocate count)

instance (elementSize : Nat) (driver : D) (buffer : Buffer M) (count : Nat) :
    Decidable (buffer.Granted commands overallocate elementSize driver count) :=
  inferInstanceAs (Decidable (_ → _))

/-- The object has the capacity that the buffer believes it to have. -/
structure Backed (elementSize : Nat) (buffer : Buffer M) : Prop where
  size_le : buffer.size ≤ buffer.capacity
  length_stored : (buffer.stored commands).length = buffer.capacity * elementSize

variable {commands} {overallocate}

theorem backed_new (commands : BufferCommands D M) (elementSize : Nat) (type : BufferTarget) :
    (new M type).Backed commands elementSize := by
  constructor
  · exact Nat.le_refl 0
  · exact (Nat.zero_mul elementSize).symm

/-- If the memory is granted, there is room for as much as was reserved. -/
theorem Granted.ample (granted : buffer.Granted commands overallocate elementSize driver count)
    (backed : buffer.Backed commands elementSize) (positive : 0 < elementSize)
    (enough : buffer.capacity < count → count ≤ buffer.newCapacity overallocate count)
    (within : needed ≤ max buffer.size count) :
    buffer.Ample commands overallocate elementSize driver count (needed * elementSize) := by
  have size_le := backed.size_le
  rw [Ample]
  split
  · rw [backed.length_stored]
    exact Nat.mul_le_mul_right _ (by omega)
  · rename_i replaced
    have grants := granted (Nat.not_le.mp replaced)
    have count_le := enough (Nat.not_le.mp replaced)
    have capacity_le := Nat.le_mul_of_pos_right (buffer.newCapacity overallocate count) positive
    have bytes_lt := grants.lt
    constructor
    · omega
    · rw [grants]
      exact Nat.mul_le_mul_right _ (by omega)

theorem Backed.reserve (backed : buffer.Backed commands elementSize)
    (typed : buffer.glType ≠ none)
    (granted : buffer.Granted commands overallocate elementSize driver count)
    (enough : buffer.capacity < count → count ≤ buffer.newCapacity overallocate count)
    (reserveEq : buffer.reserve commands overallocate elementSize driver count = some next) :
    next.Backed commands elementSize ∧ count ≤ next.capacity := by
  have size_le := backed.size_le
  rw [Buffer.reserve, if_neg typed] at reserveEq
  split at reserveEq
  · rename_i kept
    cases reserveEq
    exact ⟨backed, kept⟩
  · rename_i replaced
    have count_le := enough (Nat.not_le.mp replaced)
    split at reserveEq
    · cases reserveEq
    · cases reserveEq
      constructor
      · constructor
        · exact Nat.le_trans size_le (Nat.le_trans (Nat.le_of_not_le replaced) count_le)
        · rw [stored, Option.elim_some, length_moveTo]
          exact granted (Nat.not_le.mp replaced)
      · exact count_le

theorem Backed.put (backed : buffer.Backed commands elementSize)
    (fits : toSizeT (position + data.length) ≤ buffer.capacity) :
    (buffer.put commands data position).Backed commands elementSize := by
  constructor
  · exact Nat.max_le.mpr ⟨backed.size_le, fits⟩
  · rw [length_stored_put]
    exact backed.length_stored

/-! ## Vertex buffers -/

/-- What is written lies in the memory of the program, and there is memory for the objects that have
to be made. -/
def Provided (commands : BufferCommands D M) (buffer : Buffer M) : BufferAction D α → Prop
  | .write driver data position =>
      data.length * TriviallyCopyable.size α < 2 ^ 63 ∧
        buffer.Granted commands vboOverallocateFactor (TriviallyCopyable.size α) driver
          (position + data.length)
  | .reserve driver count =>
      buffer.Granted commands vboOverallocateFactor (TriviallyCopyable.size α) driver count
  | .shrink _ => True

instance (buffer : Buffer M) :
    (action : BufferAction D α) → Decidable (buffer.Provided commands action)
  | .write _ _ _ => inferInstanceAs (Decidable (_ ∧ _))
  | .reserve _ _ => inferInstanceAs (Decidable (Granted _ _ _ _ _ _))
  | .shrink _ => inferInstanceAs (Decidable True)

theorem le_newCapacity (buffer : Buffer M) (count : Nat) :
    count ≤ buffer.newCapacity vboOverallocateFactor count := by
  rw [newCapacity]
  split
  · exact le_grow_vboOverallocateFactor count
  · exact Nat.le_refl count

section Provided

variable (holds : buffer.Holds commands contents)

include holds

/-- Positions and numbers of elements do not wrap around. -/
theorem toSizeT_add_length (within : position ≤ buffer.size)
    (addressable : data.length * TriviallyCopyable.size α < 2 ^ 63) :
    toSizeT (position + data.length) = position + data.length := by
  have size_pos := TriviallyCopyable.size_pos (α := α)
  have stored_lt := length_stored_lt commands buffer
  have held_le := holds.size_le
  have size_le : contents.length ≤ contents.length * TriviallyCopyable.size α :=
    Nat.le_mul_of_pos_right _ size_pos
  have length_le : data.length ≤ data.length * TriviallyCopyable.size α :=
    Nat.le_mul_of_pos_right _ size_pos
  rw [holds.size_eq] at within
  exact toSizeT_of_lt (by omega)

/-- If there is memory, there is room. -/
theorem Provided.roomy {action : BufferAction D α} (provided : buffer.Provided commands action)
    (backed : buffer.Backed commands (TriviallyCopyable.size α)) :
    buffer.Roomy commands vboOverallocateFactor action := by
  cases action with
  | write driver data position =>
      intro within _
      rw [toSizeT_add_length holds within provided.1]
      exact provided.2.ample backed TriviallyCopyable.size_pos (fun _ => le_newCapacity buffer _)
        (Nat.le_refl _)
  | reserve driver count =>
      exact Granted.ample provided backed TriviallyCopyable.size_pos
        (fun _ => le_newCapacity buffer _) (Nat.le_max_left _ _)
  | shrink size => trivial

/-- As long as there is memory, the object has the capacity that the buffer believes it to have. -/
theorem Provided.backed {action : BufferAction D α} (provided : buffer.Provided commands action)
    (backed : buffer.Backed commands (TriviallyCopyable.size α))
    (stepEq : Buffer.step commands vboOverallocateFactor buffer action = some next) :
    next.Backed commands (TriviallyCopyable.size α) := by
  cases action with
  | write driver data position =>
      rw [Buffer.step, write, if_neg holds.typed] at stepEq
      split at stepEq
      · cases stepEq
      · rename_i inside
        split at stepEq
        · cases stepEq
          exact backed
        · rw [toSizeT_add_length holds (Nat.not_lt.mp inside) provided.1] at stepEq
          rcases Option.map_eq_some_iff.mp stepEq with ⟨reserved, reserveEq, rfl⟩
          rcases backed.reserve holds.typed provided.2 (fun _ => le_newCapacity buffer _)
            reserveEq with ⟨reservedBacked, fits⟩
          apply reservedBacked.put
          rw [toSizeT_add_length holds (Nat.not_lt.mp inside) provided.1]
          exact fits
  | reserve driver count =>
      exact (backed.reserve holds.typed provided (fun _ => le_newCapacity buffer _) stepEq).1
  | shrink size =>
      rw [Buffer.step, shrink] at stepEq
      split at stepEq
      · rename_i smaller
        cases stepEq
        exact ⟨Nat.le_trans smaller backed.size_le, backed.length_stored⟩
      · cases stepEq

end Provided

/-- So the buffers of vertices hold the bytes of what a list would hold in every run in which they
are provided with memory. -/
theorem holds_throughout_vbo (commands : BufferCommands D M) (type : BufferTarget)
    (actions : List (BufferAction D α))
    (provided : Guarded (Buffer.step commands vboOverallocateFactor) (Provided commands)
      (new M type) actions) :
    Option.Rel (Holds commands)
      (run (Buffer.step commands vboOverallocateFactor) (new M type) actions)
      (run contentsStep [] actions) := by
  have steps (buffer : Buffer M) (contents : List α) (action : BufferAction D α)
      (related : buffer.Holds commands contents ∧
        buffer.Backed commands (TriviallyCopyable.size α))
      (provided : buffer.Provided commands action) :=
    ((stepsTogether_iff_roomy vboOverallocateFactor buffer contents action related.1).mpr
      (provided.roomy related.1 related.2)).and_of_step
        fun next stepEq => provided.backed related.1 related.2 stepEq
  exact rel_mono (fun _ _ related => related.1)
    (runs_together_of_guarded steps ⟨holds_new type, backed_new commands _ type⟩ provided)

end Buffer

/-- Objects in a memory that has room for every one of them. -/
def ampleMemory (D : Type) : BufferCommands D { bytes : List UInt8 // bytes.length < 2 ^ 63 } where
  contents := Subtype.val
  genBuffers := ⟨[], by decide⟩
  bufferData _ object count :=
    if small : count < 2 ^ 63 then
      ⟨List.replicate count 0, by rw [List.length_replicate]; exact small⟩
    else object
  copyNamedBufferSubData source target count :=
    if inside : count ≤ source.val.length ∧ count ≤ target.val.length then
      ⟨overwrite target.val 0 (source.val.take count), by
        rw [length_overwrite (Nat.zero_le _), List.length_take, Nat.zero_add,
          Nat.min_eq_left inside.1, Nat.max_eq_left inside.2]
        exact target.property⟩
    else target
  bufferSubData object position data :=
    if inside : position + data.length ≤ object.val.length then
      ⟨overwrite object.val position data, by
        rw [length_overwrite (Nat.le_trans (Nat.le_add_right _ _) inside), Nat.max_eq_left inside]
        exact object.property⟩
    else object
  length_contents_lt := Subtype.property
  contents_copyNamedBufferSubData source target count := by split <;> rfl
  contents_bufferSubData object position data := by split <;> rfl

/-- A buffer that grows when it is written to for the second time. -/
def growingActions : List (BufferAction Unit UInt8) :=
  [.write () [1, 2, 3] 0, .write () [4, 5] 3, .shrink 4]

theorem Buffer.holds_throughout_vbo_growing :
    ∃ buffer, run (Buffer.step (ampleMemory Unit) vboOverallocateFactor)
        (Buffer.new _ .arrayBuffer) growingActions = some buffer ∧
      buffer.Holds (ampleMemory Unit) ([1, 2, 3, 4] : List UInt8) := by
  have together := holds_throughout_vbo (ampleMemory Unit) .arrayBuffer growingActions (by decide)
  cases runEq : run (Buffer.step (ampleMemory Unit) vboOverallocateFactor)
      (Buffer.new _ .arrayBuffer) growingActions with
  | none =>
      rw [runEq] at together
      cases together
  | some buffer =>
      rw [runEq] at together
      cases together with
      | some holds => exact ⟨buffer, rfl, holds⟩

end VoxelEngine.Graphics
