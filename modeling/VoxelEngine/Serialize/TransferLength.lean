import VoxelEngine.Serialize.VariableLength
import VoxelEngine.Transition.Run

/-!
# Receiving a length

A length is transmitted in reverse, so that its last byte is the one with the most significant
bit set.  Whoever reads it asks after each read how many more bytes may be read, and stops when
there are none.
-/

namespace VoxelEngine.Serialize

open VoxelEngine.Transition

/-- `transfer_variable_length_t::operator()`: how many more bytes may be read. -/
def transferVariableLength (error : Bool) (destination : ByteString) : Nat :=
  if error || destination.getLast?.any fun last => decide (128 ≤ last.toNat) then 0 else 1

/-- A transfer: the bytes that were read, and those that were not read yet. -/
structure LengthTransfer where
  destination : ByteString
  unread : ByteString

namespace LengthTransfer

/-- A read takes some bytes, and not more than may be read. -/
def step : Step LengthTransfer ByteString := fun transfer chunk =>
  if chunk ≠ [] ∧ chunk.length ≤ transferVariableLength false transfer.destination ∧
      chunk <+: transfer.unread then
    some ⟨transfer.destination ++ chunk, transfer.unread.drop chunk.length⟩
  else none

/-- Some of the bytes that were sent first have been read, and no others. -/
def Received (sent rest : ByteString) (transfer : LengthTransfer) : Prop :=
  ∃ remaining, sent = transfer.destination ++ remaining ∧ transfer.unread = remaining ++ rest

variable {transfer next : LengthTransfer} {chunk sent rest : ByteString}

theorem step_eq_some_iff :
    step transfer chunk = some next ↔
      (chunk ≠ [] ∧ chunk.length ≤ transferVariableLength false transfer.destination ∧
        chunk <+: transfer.unread) ∧
      next = ⟨transfer.destination ++ chunk, transfer.unread.drop chunk.length⟩ := by
  rw [step]
  split
  · rename_i possible
    rw [Option.some.injEq]
    exact ⟨fun equal => ⟨possible, equal.symm⟩, fun both => both.2.symm⟩
  · rename_i impossible
    apply iff_of_false
    · rintro ⟨⟩
    · exact fun both => impossible both.1

theorem transferVariableLength_le_one (error : Bool) (destination : ByteString) :
    transferVariableLength error destination ≤ 1 := by
  rw [transferVariableLength]
  split
  · exact Nat.zero_le 1
  · exact Nat.le_refl 1

/-- Bytes without the most significant bit do not end the transfer. -/
theorem transferVariableLength_of_plain {destination : ByteString}
    (plain : ∀ byte ∈ destination, byte.toNat < 128) :
    transferVariableLength false destination = 1 := by
  cases lastEq : destination.getLast? with
  | none => rw [transferVariableLength, lastEq]; rfl
  | some last =>
      have low := plain last (List.mem_of_getLast? lastEq)
      rw [transferVariableLength, lastEq, Bool.false_or, Option.any_some,
        decide_eq_false (Nat.not_le.mpr low), if_neg Bool.false_ne_true]

theorem transferVariableLength_append {last : UInt8} (ends : 128 ≤ last.toNat)
    (before : ByteString) : transferVariableLength false (before ++ [last]) = 0 := by
  rw [transferVariableLength, List.getLast?_concat, Bool.false_or, Option.any_some,
    decide_eq_true ends, if_pos rfl]

/-- Of all beginnings of a length only the whole length ends the transfer. -/
theorem transferVariableLength_eq_zero_iff {length : UInt64} {destination remaining : ByteString}
    (split : (encodeVariableLength length).reverse = destination ++ remaining) :
    transferVariableLength false destination = 0 ↔ remaining = [] := by
  rcases lengthField_encodeVariableLength length with ⟨first, more, encoded, ends, plain, _⟩
  rw [encoded, List.reverse_cons] at split
  cases remaining using List.reverseRecOn with
  | nil =>
      rw [List.append_nil] at split
      rw [← split]
      exact iff_of_true (transferVariableLength_append ends more.reverse) rfl
  | append_singleton remaining last =>
      rw [← List.append_assoc] at split
      have before := (List.append_inj' split rfl).1
      have low : ∀ byte ∈ destination, byte.toNat < 128 := by
        intro byte mem
        apply plain byte
        rw [← List.mem_reverse, before]
        exact List.mem_append_left remaining mem
      rw [transferVariableLength_of_plain low]
      apply iff_of_false
      · exact Nat.one_ne_zero
      · exact List.append_ne_nil_of_right_ne_nil remaining (List.cons_ne_nil last [])

/-- A read does not go beyond the bytes that were sent first. -/
theorem Received.step {length : UInt64}
    (received : transfer.Received (encodeVariableLength length).reverse rest)
    (stepEq : step transfer chunk = some next) :
    next.Received (encodeVariableLength length).reverse rest := by
  rcases received with ⟨remaining, split, unread⟩
  rcases step_eq_some_iff.mp stepEq with ⟨⟨nonempty, few, isPrefix⟩, rfl⟩
  have single := Nat.le_trans few (transferVariableLength_le_one false transfer.destination)
  cases chunk with
  | nil => exact absurd rfl nonempty
  | cons byte chunk =>
      have chunk_eq : chunk = [] :=
        List.length_eq_zero_iff.mp (Nat.le_zero.mp (Nat.le_of_succ_le_succ single))
      subst chunk_eq
      cases remaining with
      | nil =>
          rw [(transferVariableLength_eq_zero_iff split).mpr rfl] at few
          exact absurd few (Nat.not_succ_le_zero 0)
      | cons first remaining =>
          rw [unread, List.cons_append] at isPrefix
          have byte_eq : byte = first := (List.cons_prefix_cons.mp isPrefix).1
          refine ⟨remaining, ?_, ?_⟩
          · rw [split, byte_eq, List.append_assoc, List.singleton_append]
          · rw [unread]
            rfl

theorem Received.run {length : UInt64} {chunks : List ByteString}
    (received : transfer.Received (encodeVariableLength length).reverse rest)
    (runEq : run LengthTransfer.step transfer chunks = some next) :
    next.Received (encodeVariableLength length).reverse rest := by
  apply run_invariant _ received (guarded_true LengthTransfer.step transfer chunks) runEq
  intro before chunk after stillReceived _ stepEq
  exact stillReceived.step stepEq

/-- Each read adds at least one byte. -/
theorem length_le_of_run {chunks : List ByteString}
    (runEq : Transition.run step transfer chunks = some next) :
    transfer.destination.length + chunks.length ≤ next.destination.length := by
  induction chunks generalizing transfer with
  | nil =>
      rw [← Option.some.inj runEq]
      exact Nat.le_refl _
  | cons chunk chunks ih =>
      rcases (run_cons_eq_some_iff _ _ _ _ _).mp runEq with ⟨middle, stepEq, restRun⟩
      rcases step_eq_some_iff.mp stepEq with ⟨⟨nonempty, _, _⟩, rfl⟩
      have more := ih restRun
      have pos := List.length_pos_iff.mpr nonempty
      rw [List.length_append] at more
      rw [List.length_cons]
      omega

end LengthTransfer

/-- However a length and what follows it are split, the transfer stops when just the length was
read, and goes on before.  It needs no more reads than the length has bytes. -/
def StopsAtEnd (sent : ByteString) : Prop :=
  ∀ rest chunks transfer, run LengthTransfer.step ⟨[], sent ++ rest⟩ chunks = some transfer →
    (transferVariableLength false transfer.destination = 0 ↔
      transfer.destination = sent ∧ transfer.unread = rest) ∧
    (transferVariableLength false transfer.destination ≠ 0 →
      ∃ chunk, (LengthTransfer.step transfer chunk).isSome = true) ∧
    chunks.length ≤ sent.length

theorem stopsAtEnd_encodeVariableLength (length : UInt64) :
    StopsAtEnd (encodeVariableLength length).reverse := by
  intro rest chunks transfer runEq
  have start : LengthTransfer.Received (encodeVariableLength length).reverse rest
      ⟨[], (encodeVariableLength length).reverse ++ rest⟩ :=
    ⟨(encodeVariableLength length).reverse, rfl, rfl⟩
  rcases start.run runEq with ⟨remaining, split, unread⟩
  have ends := LengthTransfer.transferVariableLength_eq_zero_iff split
  constructor
  · rw [ends]
    constructor
    · rintro rfl
      rw [List.append_nil] at split
      exact ⟨split.symm, unread⟩
    · rintro ⟨whole, _⟩
      rw [whole] at split
      exact List.self_eq_append_right.mp split
  · constructor
    · intro more
      rw [ne_eq, ends] at more
      rcases List.exists_cons_of_ne_nil more with ⟨byte, remaining, rfl⟩
      refine ⟨[byte], ?_⟩
      have one : transferVariableLength false transfer.destination = 1 := by
        have few := LengthTransfer.transferVariableLength_le_one false transfer.destination
        have nonzero : transferVariableLength false transfer.destination ≠ 0 := by
          rw [ne_eq, ends]
          exact List.cons_ne_nil byte remaining
        omega
      have possible : [byte] ≠ [] ∧
          [byte].length ≤ transferVariableLength false transfer.destination ∧
          [byte] <+: transfer.unread := by
        rw [one, unread]
        exact ⟨List.cons_ne_nil byte [], Nat.le_refl 1, ⟨remaining ++ rest, rfl⟩⟩
      rw [LengthTransfer.step, if_pos possible]
      rfl
    · have reads := LengthTransfer.length_le_of_run runEq
      have whole := congrArg List.length split
      rw [List.length_append] at whole
      rw [List.length_nil, Nat.zero_add] at reads
      omega

/-- A length is read back from behind whatever it was appended to, and its transfer stops exactly
at its end. -/
theorem variableLength_framing (length : UInt64) :
    (∀ before, decodeVariableLength (before ++ encodeVariableLength length) =
      some (length, before)) ∧
    StopsAtEnd (encodeVariableLength length).reverse := by
  constructor
  · exact decodeVariableLength_encode length
  · exact stopsAtEnd_encodeVariableLength length

end VoxelEngine.Serialize
