import Mathlib.Tactic.SplitIfs
import VoxelEngine.Transition.Loop

/-!
# Decompressing a message

The bytes of a message are handed to `inflate` until it has reached the end of the stream.  When
they are used up before that, `inflate` has nothing more to do and says so, which is answered with
more room for its output, time and again.
-/

namespace VoxelEngine.Serialize

open VoxelEngine.Transition

/-- The status codes of zlib that `decompress` tells apart. -/
inductive ZStatus where
  | ok
  | streamEnd
  | bufError
  | other (code : Int)
  deriving DecidableEq

/-- The outcome of one call of `inflate`: the input it used and the output it appended. -/
structure Inflated (Z : Type) where
  status : ZStatus
  used : Nat
  output : List UInt8
  stream : Z

/-- zlib, with the internal state of its streams. -/
structure Zlib (Z : Type) where
  /-- `inflateInit`, or the code that it fails with. -/
  inflateInit : Except Int Z
  /-- `inflate`, given the input that is left, the room for output and whether to finish. -/
  inflate : Z → List UInt8 → UInt32 → Bool → Inflated Z

variable {Z : Type}

/-- The variables of `decompress`: the stream with the input that is left and the room that it
knows of, and the vector `dest`, of which only a part is written. -/
structure Inflation (Z : Type) where
  stream : Z
  input : List UInt8
  availOut : UInt32
  written : List UInt8
  destSize : Nat
  finish : Bool

/-- The call of `inflate` in the next round. -/
def Inflation.inflated (zlib : Zlib Z) (state : Inflation Z) : Inflated Z :=
  zlib.inflate state.stream state.input state.availOut (state.finish || state.input.isEmpty)

/-- The variables after a call that leaves the stream open.  More room is made if there is none
left or if the call says so. -/
def Inflation.proceed (zlib : Zlib Z) (blockSize : UInt32) (state : Inflation Z) :
    Inflation Z :=
  let inflated := state.inflated zlib
  let availOut := state.availOut - UInt32.ofNat inflated.output.length
  let grows : Bool := availOut = 0 ∨ inflated.status = .bufError
  { stream := inflated.stream
    input := state.input.drop inflated.used
    availOut := if grows then availOut + blockSize else availOut
    written := state.written ++ inflated.output
    destSize := if grows then state.destSize + blockSize.toNat else state.destSize
    finish := state.finish || state.input.isEmpty }

/-- One round of the loop of `decompress`. -/
def Inflation.round (zlib : Zlib Z) (blockSize : UInt32) (state : Inflation Z) :
    Round (Inflation Z) (Except Int (List UInt8)) :=
  match (state.inflated zlib).status with
  | .ok => .again (state.proceed zlib blockSize)
  | .bufError => .again (state.proceed zlib blockSize)
  | .streamEnd => .done (.ok (state.written ++ (state.inflated zlib).output))
  | .other code => .done (.error code)

/-- The bytes that `inflate` is told of, whose number is converted to thirty-two bits. -/
def presented (src : List UInt8) : List UInt8 :=
  src.take (UInt32.ofNat src.length).toNat

/-- The variables of `decompress` before its loop. -/
def Inflation.initial (stream : Z) (blockSize : UInt32) (src : List UInt8) : Inflation Z :=
  let initialAlloc := min (UInt32.ofNat src.length * 4) blockSize
  ⟨stream, presented src, initialAlloc, [], initialAlloc.toNat, false⟩

/-- `decompress`, which returns a result or throws unless its loop does not end. -/
def decompress (zlib : Zlib Z) (blockSize : UInt32) (src : List UInt8) (rounds : Nat) :
    Option (Except Int (List UInt8)) :=
  if src.isEmpty then some (.ok [])
  else
    match zlib.inflateInit with
    | .error code => some (.error code)
    | .ok stream =>
        loop (Inflation.round zlib blockSize) rounds (Inflation.initial stream blockSize src)

/-- `64_kib`, with which `decompress` is called. -/
def defaultBlockSize : UInt32 :=
  65536

/-- What bytes are as compressed data: one or more of them may be missing at the end. -/
inductive Decoding where
  | complete
  | incomplete
  | rejected
  deriving DecidableEq

/-- The streams that calls for these bytes lead to, with the input that is left and the length of
the output so far. -/
inductive Zlib.Reaches (zlib : Zlib Z) (src : List UInt8) : Z → List UInt8 → Nat → Prop where
  | start {stream : Z} (initEq : zlib.inflateInit = .ok stream) : Reaches zlib src stream src 0
  | call {stream : Z} {rest : List UInt8} {produced : Nat}
      (reached : Reaches zlib src stream rest produced) (room : UInt32) (finish : Bool)
      (isOpen : (zlib.inflate stream rest room finish).status = .ok ∨
        (zlib.inflate stream rest room finish).status = .bufError) :
      Reaches zlib src (zlib.inflate stream rest room finish).stream
        (rest.drop (zlib.inflate stream rest room finish).used)
        (produced + (zlib.inflate stream rest room finish).output.length)

/-- What is documented of a call of `inflate` for bytes that decode to output of some length.  The
pointer to the output is not null, which it may be where four times the number of bytes wraps
around to zero and the vector is empty at first. -/
structure Inflated.Documented (inflated : Inflated Z) (decoding : Decoding) (size : Nat)
    (rest : List UInt8) (produced : Nat) (room : UInt32) : Prop where
  used_le : inflated.used ≤ rest.length
  output_le : inflated.output.length ≤ room.toNat
  output_bounded : produced + inflated.output.length ≤ size
  /-- `Z_OK` is returned if some progress has been made. -/
  progress : inflated.status = .ok → 0 < inflated.used ∨ 0 < inflated.output.length
  /-- No progress is possible only without room, or if the stream is incomplete. -/
  stuck : inflated.status = .bufError → inflated.used = 0 → inflated.output.length = 0 →
    room = 0 ∨ decoding = .incomplete
  /-- `Z_STREAM_END` is returned at the end of a stream. -/
  ends : inflated.status = .streamEnd → decoding = .complete
  /-- All other codes are returned for bytes that are not compressed data. -/
  fails : ∀ code, inflated.status = .other code → decoding = .rejected

/-- All calls of `inflate` for some bytes are as they are documented. -/
def Zlib.Documented (zlib : Zlib Z) (decode : List UInt8 → Decoding) (size : List UInt8 → Nat)
    (src : List UInt8) : Prop :=
  ∀ stream rest produced, zlib.Reaches src stream rest produced → ∀ room finish,
    (zlib.inflate stream rest room finish).Documented (decode src) (size src) rest produced room

/-- The call returns a result or throws after finitely many rounds. -/
def Terminates (zlib : Zlib Z) (blockSize : UInt32) (src : List UInt8) : Prop :=
  ∃ rounds, (decompress zlib blockSize src rounds).isSome = true

variable {zlib : Zlib Z} {blockSize : UInt32} {src : List UInt8}
  {decode : List UInt8 → Decoding} {size : List UInt8 → Nat} {state next : Inflation Z}

/-- The stream of the loop is one that calls for these bytes lead to. -/
def Inflation.Sound (zlib : Zlib Z) (src : List UInt8) (state : Inflation Z) : Prop :=
  zlib.Reaches src state.stream state.input state.written.length

/-- What is left to be done: input to be used and output to be made, and a round without
progress if there is no room for any. -/
def Inflation.measure (size : Nat) (state : Inflation Z) : Nat :=
  2 * (state.input.length + (size - state.written.length)) + if state.availOut = 0 then 1 else 0

/-- A round that goes on has made a call that leaves the stream open. -/
theorem Inflation.open_of_again (again : state.round zlib blockSize = .again next) :
    ((state.inflated zlib).status = .ok ∨ (state.inflated zlib).status = .bufError) ∧
      next = state.proceed zlib blockSize := by
  rw [round] at again
  cases status : (state.inflated zlib).status with
  | ok =>
      rw [status] at again
      cases again
      exact ⟨Or.inl rfl, rfl⟩
  | bufError =>
      rw [status] at again
      cases again
      exact ⟨Or.inr rfl, rfl⟩
  | streamEnd =>
      rw [status] at again
      cases again
  | other code =>
      rw [status] at again
      cases again

theorem Inflation.Sound.proceed (sound : state.Sound zlib src)
    (isOpen : (state.inflated zlib).status = .ok ∨ (state.inflated zlib).status = .bufError) :
    (state.proceed zlib blockSize).Sound zlib src := by
  have later := Zlib.Reaches.call sound state.availOut (state.finish || state.input.isEmpty) isOpen
  rw [← List.length_append] at later
  exact later

/-- The room after a round that had none. -/
theorem Inflation.availOut_proceed_of_none (none : state.availOut = 0)
    (nothing : (state.inflated zlib).output.length = 0) :
    (state.proceed zlib blockSize).availOut = blockSize := by
  rw [Inflation.proceed]
  simp only [none, nothing]
  simp

/-- Each round uses input, makes output or makes room. -/
theorem Inflation.measure_proceed_lt (documented : zlib.Documented decode size src)
    (whole : decode src ≠ .incomplete) (roomy : blockSize ≠ 0) (sound : state.Sound zlib src)
    (isOpen : (state.inflated zlib).status = .ok ∨ (state.inflated zlib).status = .bufError) :
    (state.proceed zlib blockSize).measure (size src) < state.measure (size src) := by
  have call : (state.inflated zlib).Documented (decode src) (size src) state.input
      state.written.length state.availOut := documented _ _ _ sound _ _
  have used_le := call.used_le
  have bounded := call.output_bounded
  have input_length : (state.proceed zlib blockSize).input.length =
      state.input.length - (state.inflated zlib).used := List.length_drop
  have written_length : (state.proceed zlib blockSize).written.length =
      state.written.length + (state.inflated zlib).output.length := List.length_append
  by_cases progress : 0 < (state.inflated zlib).used ∨ 0 < (state.inflated zlib).output.length
  · rw [measure, measure, input_length, written_length]
    split_ifs <;> omega
  · -- Without progress, there was no room, so that there is room for some afterwards.
    have unused : (state.inflated zlib).used = 0 := by omega
    have nothing : (state.inflated zlib).output.length = 0 := by omega
    have bufError : (state.inflated zlib).status = .bufError := by
      rcases isOpen with ok | bufError
      · exact absurd (call.progress ok) progress
      · exact bufError
    have noRoom : state.availOut = 0 := by
      rcases call.stuck bufError unused nothing with noRoom | incomplete
      · exact noRoom
      · exact absurd incomplete whole
    have room := @availOut_proceed_of_none Z zlib blockSize state noRoom nothing
    rw [measure, measure, input_length, written_length, room, if_neg roomy, if_pos noRoom]
    omega

/-- The loop ends if the bytes are a whole stream or none at all. -/
theorem Inflation.ends (documented : zlib.Documented decode size src)
    (whole : decode src ≠ .incomplete) (roomy : blockSize ≠ 0) (sound : state.Sound zlib src) :
    Ends (Inflation.round zlib blockSize) state := by
  apply ends_of_measure (Inflation.Sound zlib src) (Inflation.measure (size src))
  · intro current next currentSound again
    rcases open_of_again again with ⟨isOpen, rfl⟩
    exact ⟨currentSound.proceed isOpen,
      measure_proceed_lt documented whole roomy currentSound isOpen⟩
  · exact sound

/-- The loop does not end if bytes are missing. -/
theorem Inflation.not_ends (documented : zlib.Documented decode size src)
    (missing : decode src = .incomplete) (sound : state.Sound zlib src) :
    ¬Ends (Inflation.round zlib blockSize) state := by
  apply not_ends_of_invariant (Inflation.Sound zlib src)
  · intro current currentSound
    have call : (current.inflated zlib).Documented (decode src) (size src) current.input
        current.written.length current.availOut := documented _ _ _ currentSound _ _
    have isOpen : (current.inflated zlib).status = .ok ∨
        (current.inflated zlib).status = .bufError := by
      cases status : (current.inflated zlib).status with
      | ok => exact Or.inl rfl
      | bufError => exact Or.inr rfl
      | streamEnd =>
          have complete := call.ends status
          rw [missing] at complete
          cases complete
      | other code =>
          have rejected := call.fails code status
          rw [missing] at rejected
          cases rejected
    refine ⟨current.proceed zlib blockSize, ?_, currentSound.proceed isOpen⟩
    rw [round]
    rcases isOpen with status | status <;> rw [status]
  · exact sound

/-- With a stream, the call terminates if its loop ends. -/
theorem terminates_iff_ends {stream : Z} (initEq : zlib.inflateInit = .ok stream)
    (nonempty : src ≠ []) :
    Terminates zlib blockSize src ↔
      Ends (Inflation.round zlib blockSize) (Inflation.initial stream blockSize src) := by
  rw [Terminates, Ends]
  simp only [decompress, initEq, List.isEmpty_iff, nonempty, if_false]

/-- `decompress` comes to an end unless its bytes are an incomplete stream. -/
theorem terminates_iff (documented : zlib.Documented decode size (presented src)) :
    Terminates zlib defaultBlockSize src ↔
      src = [] ∨ (∃ code, zlib.inflateInit = .error code) ∨
        decode (presented src) ≠ .incomplete := by
  by_cases empty : src = []
  · subst empty
    exact iff_of_true ⟨0, rfl⟩ (Or.inl rfl)
  cases initEq : zlib.inflateInit with
  | error code =>
      apply iff_of_true
      · refine ⟨0, ?_⟩
        simp only [decompress, initEq, List.isEmpty_iff, empty, if_false]
        rfl
      · exact Or.inr (Or.inl ⟨code, rfl⟩)
  | ok stream =>
      have sound : (Inflation.initial stream defaultBlockSize src).Sound zlib (presented src) :=
        Zlib.Reaches.start initEq
      rw [terminates_iff_ends initEq empty]
      constructor
      · intro ends
        right
        right
        intro missing
        exact Inflation.not_ends documented missing sound ends
      · rintro (none | ⟨code, failed⟩ | whole)
        · exact absurd none empty
        · cases failed
        · exact Inflation.ends documented whole (by decide) sound

/-- The compressed form of no bytes at all. -/
def emptyStream : List UInt8 :=
  [0x78, 0x9c, 0x03, 0x00, 0x00, 0x00, 0x00, 0x01]

/-- A library that knows this stream only, of which it remembers the bytes that it was given. -/
def emptyZlib : Zlib (List UInt8) where
  inflateInit := .ok []
  inflate seen rest _ finish :=
    if emptyStream <+: seen ++ rest then
      ⟨.streamEnd, emptyStream.length - seen.length, [], emptyStream⟩
    else if seen ++ rest <+: emptyStream then
      ⟨if rest.isEmpty || finish then .bufError else .ok, rest.length, [], seen ++ rest⟩
    else ⟨.other (-3), 0, [], seen⟩

/-- What bytes are to this library. -/
def decodeEmpty (src : List UInt8) : Decoding :=
  if emptyStream <+: src then .complete
  else if src <+: emptyStream then .incomplete else .rejected

/-- The three outcomes of a call. -/
theorem inflate_emptyZlib (seen rest : List UInt8) (room : UInt32) (finish : Bool) :
    emptyZlib.inflate seen rest room finish =
      if emptyStream <+: seen ++ rest then
        ⟨.streamEnd, emptyStream.length - seen.length, [], emptyStream⟩
      else if seen ++ rest <+: emptyStream then
        ⟨if rest.isEmpty || finish then .bufError else .ok, rest.length, [], seen ++ rest⟩
      else ⟨.other (-3), 0, [], seen⟩ :=
  rfl

theorem reaches_emptyZlib {src stream rest : List UInt8} {produced : Nat}
    (reached : emptyZlib.Reaches src stream rest produced) :
    stream ++ rest = src ∧ produced = 0 := by
  induction reached with
  | start initEq =>
      cases initEq
      exact ⟨rfl, rfl⟩
  | @call stream rest produced reached room finish isOpen ih =>
      rw [inflate_emptyZlib] at isOpen ⊢
      by_cases ended : emptyStream <+: stream ++ rest
      · rw [if_pos ended] at isOpen
        rcases isOpen with wrong | wrong <;> cases wrong
      rw [if_neg ended] at isOpen ⊢
      by_cases begun : stream ++ rest <+: emptyStream
      · rw [if_pos begun]
        dsimp only
        rw [List.drop_length, List.append_nil]
        exact ih
      · rw [if_neg begun] at isOpen
        rcases isOpen with wrong | wrong <;> cases wrong

theorem documented_emptyZlib (src : List UInt8) :
    emptyZlib.Documented decodeEmpty (fun _ => 0) src := by
  intro stream rest produced reached room finish
  rcases reaches_emptyZlib reached with ⟨rfl, rfl⟩
  rw [inflate_emptyZlib, decodeEmpty]
  by_cases ended : emptyStream <+: stream ++ rest
  · rw [if_pos ended, if_pos ended]
    constructor
    case used_le =>
      have long := ended.length_le
      rw [List.length_append] at long
      dsimp only
      omega
    case output_le => exact Nat.zero_le _
    case output_bounded => exact Nat.le_refl 0
    case progress => simp
    case stuck => simp
    case ends => simp
    case fails => simp
  rw [if_neg ended, if_neg ended]
  by_cases begun : stream ++ rest <+: emptyStream
  · rw [if_pos begun, if_pos begun]
    constructor
    case used_le => exact Nat.le_refl _
    case output_le => exact Nat.zero_le _
    case output_bounded => exact Nat.le_refl 0
    case progress =>
      intro ok
      left
      cases rest with
      | nil => simp at ok
      | cons byte rest => exact Nat.succ_pos _
    case stuck => simp
    case ends =>
      intro streamEnd
      dsimp only at streamEnd
      split at streamEnd <;> cases streamEnd
    case fails =>
      intro code other
      dsimp only at other
      split at other <;> cases other
  · rw [if_neg begun, if_neg begun]
    constructor
    case used_le => exact Nat.zero_le _
    case output_le => exact Nat.zero_le _
    case output_bounded => exact Nat.le_refl 0
    case progress => simp
    case stuck => simp
    case ends => simp
    case fails => simp

theorem terminates_emptyStream : Terminates emptyZlib defaultBlockSize emptyStream :=
  (terminates_iff (documented_emptyZlib _)).mpr (Or.inr (Or.inr (by decide)))

/-- The first byte of a stream alone is never decompressed. -/
theorem not_terminates_first_byte : ¬Terminates emptyZlib defaultBlockSize [0x78] := by
  rw [@terminates_iff_ends _ emptyZlib _ _ [] rfl (by decide)]
  exact Inflation.not_ends (documented_emptyZlib [0x78]) (by decide) (Zlib.Reaches.start rfl)

end VoxelEngine.Serialize
