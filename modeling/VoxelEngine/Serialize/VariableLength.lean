import Mathlib.Data.Nat.Digits.Defs
import VoxelEngine.Serialize.Reader

/-!
# Variable length integers

A length is written seven bits at a time, lowest bits first.  The first byte has its most
significant bit set and the others have it clear, so that a reader that takes bytes from
the back knows where the length ends.  Reading wraps around at 64 bits.
-/

namespace VoxelEngine.Serialize

/-- Serialized data. -/
abbrev ByteString := List UInt8

/-- The loop of `encode_variable_length`: the bytes still to be written. -/
def encodeFrom (length remaining : Nat) : ByteString :=
  let byte := UInt8.ofNat (remaining % 128 + if remaining = length then 128 else 0)
  if remaining / 128 = 0 then [byte] else byte :: encodeFrom length (remaining / 128)
termination_by remaining
decreasing_by omega

/-- `encode_variable_length` -/
def encodeVariableLength (length : UInt64) : ByteString :=
  encodeFrom length.toNat length.toNat

/-- The loop of `decode_variable_length` over the bytes from the back. -/
def decodeFrom (result : Nat) : ByteString → Option (Nat × ByteString)
  | [] => none
  | current :: source =>
      let next := (result * 128 + current.toNat % 128) % 2 ^ 64
      if 128 ≤ current.toNat then some (next, source) else decodeFrom next source

/-- `decode_variable_length` -/
def decodeVariableLength : Reader UInt8 UInt64 := fun source =>
  (decodeFrom 0 source.reverse).map fun result => (UInt64.ofNat result.1, result.2.reverse)

/-- The number that a sequence of bytes spells, seven bits a byte, lowest first. -/
def sevenBitValue (bytes : ByteString) : Nat :=
  Nat.ofDigits 128 (bytes.map fun byte => byte.toNat % 128)

/-- The form of a length: only the first byte has its most significant bit set. -/
def LengthField : Layout UInt8 UInt64 := fun value used =>
  ∃ first more, used = first :: more ∧ 128 ≤ first.toNat ∧
    (∀ byte ∈ more, byte.toNat < 128) ∧ value = UInt64.ofNat (sevenBitValue used)

theorem LengthField.length_pos {value : UInt64} {used : ByteString}
    (field : LengthField value used) : 0 < used.length := by
  rcases field with ⟨first, more, rfl, _⟩
  simp

@[simp]
theorem sevenBitValue_nil : sevenBitValue [] = 0 :=
  rfl

theorem sevenBitValue_cons (byte : UInt8) (bytes : ByteString) :
    sevenBitValue (byte :: bytes) = byte.toNat % 128 + 128 * sevenBitValue bytes := by
  simp [sevenBitValue, Nat.ofDigits_cons]

/-- Bytes that do not end a length, read from the back. -/
theorem decodeFrom_append {more : ByteString} (plain : ∀ byte ∈ more, byte.toNat < 128)
    (result : Nat) (source : ByteString) :
    ∃ next, decodeFrom result (more.reverse ++ source) = decodeFrom next source ∧
      next % 2 ^ 64 = (result * 128 ^ more.length + sevenBitValue more) % 2 ^ 64 := by
  induction more generalizing source with
  | nil => exact ⟨result, rfl, by simp⟩
  | cons byte more ih =>
      rw [List.forall_mem_cons] at plain
      rcases ih plain.2 (byte :: source) with ⟨next, decoded, value⟩
      refine ⟨(next * 128 + byte.toNat % 128) % 2 ^ 64, ?_, ?_⟩
      · rw [List.reverse_cons, List.append_assoc, List.singleton_append, decoded, decodeFrom,
          if_neg (Nat.not_le.mpr plain.1)]
      · calc
          (next * 128 + byte.toNat % 128) % 2 ^ 64 % 2 ^ 64 =
              ((result * 128 ^ more.length + sevenBitValue more) * 128 + byte.toNat % 128) %
                2 ^ 64 := by
            rw [Nat.mod_mod, Nat.add_mod, Nat.mul_mod, value, ← Nat.mul_mod, ← Nat.add_mod]
          _ = _ := by
            rw [sevenBitValue_cons, List.length_cons, pow_succ]
            ring_nf

/-- Without a byte that ends a length there is nothing to read. -/
theorem decodeFrom_of_plain {source : ByteString} (plain : ∀ byte ∈ source, byte.toNat < 128)
    (result : Nat) : decodeFrom result source = none := by
  induction source generalizing result with
  | nil => rfl
  | cons byte source ih =>
      rw [List.forall_mem_cons] at plain
      rw [decodeFrom, if_neg (Nat.not_le.mpr plain.1)]
      exact ih plain.2 _

/-- The first byte from the back that ends a length, if there is one. -/
theorem plain_or_split (source : ByteString) :
    (∀ byte ∈ source, byte.toNat < 128) ∨
      ∃ (more : ByteString) (first : UInt8) (left : ByteString),
        source = more.reverse ++ first :: left ∧
        (∀ byte ∈ more, byte.toNat < 128) ∧ 128 ≤ first.toNat := by
  induction source with
  | nil => exact Or.inl (by simp)
  | cons byte source ih =>
      by_cases ends : 128 ≤ byte.toNat
      · exact Or.inr ⟨[], byte, source, rfl, by simp, ends⟩
      · rw [Nat.not_le] at ends
        rcases ih with plain | ⟨more, first, left, rfl, plain, firstEnds⟩
        · exact Or.inl (List.forall_mem_cons.mpr ⟨ends, plain⟩)
        · refine Or.inr ⟨more ++ [byte], first, left, by simp, ?_, firstEnds⟩
          intro other mem
          rcases List.mem_append.mp mem with old | new
          · exact plain other old
          · rw [List.mem_singleton.mp new]
            exact ends

theorem decodeVariableLength_append {first : UInt8} {more : ByteString}
    (plain : ∀ byte ∈ more, byte.toNat < 128) (ends : 128 ≤ first.toNat) (rest : ByteString) :
    decodeVariableLength (rest ++ first :: more) =
      some (UInt64.ofNat (sevenBitValue (first :: more)), rest) := by
  have reversed : (rest ++ first :: more).reverse = more.reverse ++ first :: rest.reverse := by
    simp
  rcases decodeFrom_append plain 0 (first :: rest.reverse) with ⟨next, decoded, value⟩
  rw [decodeVariableLength, reversed, decoded, decodeFrom, if_pos ends]
  have total : (next * 128 + first.toNat % 128) % 2 ^ 64 =
      sevenBitValue (first :: more) % 2 ^ 64 := by
    rw [Nat.add_mod, Nat.mul_mod, value, ← Nat.mul_mod, ← Nat.add_mod, sevenBitValue_cons]
    ring_nf
  rw [total]
  simp only [Option.map_some, List.reverse_reverse, Option.some.injEq, Prod.mk.injEq, and_true]
  apply UInt64.toNat_inj.mp
  rw [UInt64.toNat_ofNat', UInt64.toNat_ofNat', Nat.mod_mod]

/-- Reading a length succeeds exactly on its form. -/
theorem recognizes_decodeVariableLength : Recognizes decodeVariableLength LengthField := by
  intro source value rest
  constructor
  · intro decoded
    rcases plain_or_split source.reverse with plain | ⟨more, first, left, split, plain, ends⟩
    · rw [decodeVariableLength, decodeFrom_of_plain plain] at decoded
      cases decoded
    · have source_eq : source = left.reverse ++ first :: more := by
        rw [← List.reverse_reverse source, split]
        simp
      rw [source_eq, decodeVariableLength_append plain ends] at decoded
      cases decoded
      exact ⟨first :: more, ⟨first, more, rfl, ends, plain, rfl⟩, source_eq⟩
  · rintro ⟨used, ⟨first, more, rfl, ends, plain, rfl⟩, rfl⟩
    exact decodeVariableLength_append plain ends rest

/-- After the first byte no byte ends the length, and all of them spell the rest. -/
theorem encodeFrom_of_lt {length remaining : Nat} (lt : remaining < length) :
    (∀ byte ∈ encodeFrom length remaining, byte.toNat < 128) ∧
      sevenBitValue (encodeFrom length remaining) = remaining := by
  induction remaining using Nat.strongRecOn with
  | ind remaining ih =>
      have byte_eq : (UInt8.ofNat (remaining % 128)).toNat = remaining % 128 :=
        UInt8.toNat_ofNat_of_lt' (by rw [UInt8.size]; omega)
      rw [encodeFrom]
      simp only [if_neg (Nat.ne_of_lt lt), Nat.add_zero]
      by_cases last : remaining / 128 = 0
      · rw [if_pos last]
        constructor
        · simp only [List.mem_singleton, forall_eq, byte_eq]
          omega
        · rw [sevenBitValue_cons, byte_eq, sevenBitValue_nil]
          omega
      · rw [if_neg last]
        rcases ih (remaining / 128) (by omega) (by omega) with ⟨plain, value⟩
        constructor
        · rw [List.forall_mem_cons, byte_eq]
          exact ⟨by omega, plain⟩
        · rw [sevenBitValue_cons, byte_eq, value]
          omega

/-- What is written for a length has the form of that length. -/
theorem lengthField_encodeVariableLength (length : UInt64) :
    LengthField length (encodeVariableLength length) := by
  have byte_eq : (UInt8.ofNat (length.toNat % 128 + 128)).toNat = length.toNat % 128 + 128 :=
    UInt8.toNat_ofNat_of_lt' (by rw [UInt8.size]; omega)
  rw [encodeVariableLength, encodeFrom]
  simp only [if_true]
  by_cases last : length.toNat / 128 = 0
  · rw [if_pos last]
    refine ⟨_, [], rfl, by omega, by simp, ?_⟩
    rw [sevenBitValue_cons, byte_eq, sevenBitValue_nil]
    have value : (length.toNat % 128 + 128) % 128 + 128 * 0 = length.toNat := by omega
    rw [value, UInt64.ofNat_toNat]
  · rw [if_neg last]
    rcases encodeFrom_of_lt (show length.toNat / 128 < length.toNat by omega) with ⟨plain, spelled⟩
    refine ⟨_, _, rfl, by omega, plain, ?_⟩
    rw [sevenBitValue_cons, byte_eq, spelled]
    have value : (length.toNat % 128 + 128) % 128 + 128 * (length.toNat / 128) =
        length.toNat := by omega
    rw [value, UInt64.ofNat_toNat]

/-- Reading back what was written. -/
@[simp]
theorem decodeVariableLength_encode (length : UInt64) (rest : ByteString) :
    decodeVariableLength (rest ++ encodeVariableLength length) = some (length, rest) :=
  recognizes_decodeVariableLength.read_append (lengthField_encodeVariableLength length) rest

end VoxelEngine.Serialize
