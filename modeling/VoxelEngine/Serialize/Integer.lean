import VoxelEngine.Serialize.Reader
import VoxelEngine.Serialize.VariableLength

/-!
# Fixed width integers

The object representation of an unsigned integer, lowest byte first, and reading it from
the back of a span.
-/

namespace VoxelEngine.Serialize

/-- The object representation of an integer that occupies a number of bytes. -/
def toLittleEndian : (size : Nat) → Nat → ByteString
  | 0, _ => []
  | size + 1, value => UInt8.ofNat (value % 256) :: toLittleEndian size (value / 256)

/-- The integer that a sequence of bytes represents. -/
def ofLittleEndian : ByteString → Nat
  | [] => 0
  | byte :: bytes => byte.toNat + 256 * ofLittleEndian bytes

/-- `from_bytes` of an unsigned integer. -/
def popInteger (size : Nat) : Reader UInt8 Nat := fun source =>
  (takeBackN size source).map fun result => (ofLittleEndian result.1, result.2)

@[simp]
theorem length_toLittleEndian (size value : Nat) : (toLittleEndian size value).length = size := by
  induction size generalizing value with
  | zero => rfl
  | succ size ih => rw [toLittleEndian, List.length_cons, ih]

theorem ofLittleEndian_toLittleEndian (size value : Nat) :
    ofLittleEndian (toLittleEndian size value) = value % 256 ^ size := by
  induction size generalizing value with
  | zero => simp [toLittleEndian, ofLittleEndian, Nat.mod_one]
  | succ size ih =>
      have byte_eq : (UInt8.ofNat (value % 256)).toNat = value % 256 :=
        UInt8.toNat_ofNat_of_lt' (Nat.mod_lt _ (by decide))
      rw [toLittleEndian, ofLittleEndian]
      calc
        (UInt8.ofNat (value % 256)).toNat + 256 * ofLittleEndian (toLittleEndian size (value / 256)) =
            value % 256 + 256 * (value / 256 % 256 ^ size) := by rw [byte_eq, ih]
        _ = value % (256 * 256 ^ size) := Nat.mod_mul.symm
        _ = value % 256 ^ (size + 1) := by rw [pow_succ, Nat.mul_comm]

@[simp]
theorem toLittleEndian_ofLittleEndian (bytes : ByteString) :
    toLittleEndian bytes.length (ofLittleEndian bytes) = bytes := by
  induction bytes with
  | nil => rfl
  | cons byte bytes ih =>
      have byte_lt := byte.toNat_lt
      have low : (byte.toNat + 256 * ofLittleEndian bytes) % 256 = byte.toNat := by omega
      have high : (byte.toNat + 256 * ofLittleEndian bytes) / 256 = ofLittleEndian bytes := by
        omega
      rw [List.length_cons, ofLittleEndian, toLittleEndian, low, high, ih, UInt8.ofNat_toNat]

theorem ofLittleEndian_lt (bytes : ByteString) : ofLittleEndian bytes < 256 ^ bytes.length := by
  induction bytes with
  | nil => decide
  | cons byte bytes ih =>
      have byte_lt := byte.toNat_lt
      rw [ofLittleEndian, List.length_cons, pow_succ]
      omega

/-- Reading back an integer that fits. -/
theorem popInteger_append {size value : Nat} (fits : value < 256 ^ size) (rest : ByteString) :
    popInteger size (rest ++ toLittleEndian size value) = some (value, rest) := by
  have taken := takeBackN_append rest (toLittleEndian size value)
  rw [length_toLittleEndian] at taken
  rw [popInteger, taken, Option.map_some, ofLittleEndian_toLittleEndian, Nat.mod_eq_of_lt fits]

theorem recognizes_popInteger (size : Nat) :
    Recognizes (popInteger size)
      (fun value used => value < 256 ^ size ∧ used = toLittleEndian size value) := by
  have step := (recognizes_takeBackN (β := UInt8) size).map ofLittleEndian
  intro source value rest
  apply (step source value rest).trans
  constructor
  · rintro ⟨used, ⟨inner, ⟨rfl, rfl⟩, rfl⟩, rfl⟩
    exact ⟨inner, ⟨ofLittleEndian_lt inner, (toLittleEndian_ofLittleEndian inner).symm⟩, rfl⟩
  · rintro ⟨used, ⟨fits, rfl⟩, rfl⟩
    refine ⟨_, ⟨_, ⟨rfl, length_toLittleEndian size value⟩, ?_⟩, rfl⟩
    rw [ofLittleEndian_toLittleEndian, Nat.mod_eq_of_lt fits]

end VoxelEngine.Serialize
