import Mathlib.Algebra.Group.Nat.Defs
import Mathlib.Data.List.Nodup
import Mathlib.Logic.Function.Basic
import VoxelEngine.Transition.Run

/-!
# The numbers of sessions

Sessions take their numbers from a counter that needs no synchronization: every thread has a
number of its own, which is the upper part of what the counter returns, and counts in the
lower part.  The numbers of threads come from an atomic counter, and are multiplied with 32
bits, so that only their lowest 8 bits are left.
-/

namespace VoxelEngine.ClientServer

open VoxelEngine.Transition

universe u

/-! ## Thread numbers and counters -/

/-- `thread_id_limit` -/
def threadIdLimit : UInt32 :=
  1 <<< (24 : UInt32)

/-- What `threadsafe_counter::next` returns on the thread with this number when its count has
this value. -/
def counterValue (threadId : UInt32) (count : UInt64) : UInt64 :=
  (threadId * threadIdLimit).toUInt64 + count

/-- The part of the number of a thread that is left in what the counter returns. -/
def threadPart (threadId : UInt32) : Nat :=
  threadId.toNat % 256

theorem toNat_counterValue (threadId : UInt32) {count : Nat} (small : count < 2 ^ 24) :
    (counterValue threadId (UInt64.ofNat count)).toNat =
      threadPart threadId * 2 ^ 24 + count := by
  have limit : threadIdLimit.toNat = 2 ^ 24 := rfl
  rw [counterValue, UInt64.toNat_add, UInt32.toNat_toUInt64, UInt32.toNat_mul, limit,
    UInt64.toNat_ofNat', threadPart]
  omega

/-- Small counts on two threads give the same value, also with 32 bits, exactly if the counts
and the low parts of the numbers of the threads are the same. -/
theorem counterValue_eq_iff {first second : UInt32} {firstCount secondCount : Nat}
    (firstSmall : firstCount < 2 ^ 24) (secondSmall : secondCount < 2 ^ 24) :
    (counterValue first (UInt64.ofNat firstCount)).toUInt32 =
        (counterValue second (UInt64.ofNat secondCount)).toUInt32 ↔
      threadPart first = threadPart second ∧ firstCount = secondCount := by
  rw [← UInt32.toNat_inj, UInt64.toNat_toUInt32, UInt64.toNat_toUInt32,
    toNat_counterValue first firstSmall, toNat_counterValue second secondSmall]
  have firstPart : threadPart first < 256 := Nat.mod_lt _ (by decide)
  have secondPart : threadPart second < 256 := Nat.mod_lt _ (by decide)
  omega

/-- The values of a list are distinct if those with the same key are, and those with different
keys differ. -/
theorem nodup_map_of_key {α κ β : Type*} [DecidableEq κ] {key : α → κ} {value : α → β}
    {entries : List α}
    (same : ∀ k, ((entries.filter fun entry => key entry = k).map value).Nodup)
    (different : ∀ first ∈ entries, ∀ second ∈ entries, key first ≠ key second →
      value first ≠ value second) : (entries.map value).Nodup := by
  induction entries with
  | nil => exact List.nodup_nil
  | cons entry rest ih =>
      rw [List.map_cons, List.nodup_cons]
      constructor
      · intro mem
        rcases List.mem_map.mp mem with ⟨other, otherMem, value_eq⟩
        by_cases key_eq : key other = key entry
        · have distinct := same (key entry)
          rw [List.filter_cons_of_pos (by simp), List.map_cons, List.nodup_cons] at distinct
          apply distinct.1
          rw [← value_eq]
          exact List.mem_map_of_mem (List.mem_filter.mpr ⟨otherMem, decide_eq_true key_eq⟩)
        · exact different other (List.mem_cons_of_mem _ otherMem) entry List.mem_cons_self key_eq
            value_eq
      · apply ih
        · intro k
          exact (same k).sublist (((List.sublist_cons_self entry rest).filter _).map value)
        · intro first firstMem second secondMem
          exact different first (List.mem_cons_of_mem _ firstMem) second
            (List.mem_cons_of_mem _ secondMem)

/-- The threads of a program with the counter of sessions, and the sessions of a server, which
are named by their place among all sessions that were made. -/
structure SessionNumbers (τ : Type u) where
  /-- `thread_id::counter` -/
  counter : UInt32
  /-- `thread_id::id` of the threads that have used it. -/
  threadId : τ → Option UInt32
  /-- `next_id` -/
  nextId : τ → UInt64
  sessions : UInt32 → Option Nat
  /-- The values that were returned, with the threads that called. -/
  returned : List (τ × UInt64)
  /-- The accepted sessions that were not stored. -/
  dropped : List Nat

/-- What threads do: ask for their own number, make a session, make one that a server has
accepted, or remove a session from the server. -/
inductive SessionNumberAction (τ : Type u) where
  | get (thread : τ)
  | next (thread : τ)
  | accept (thread : τ)
  | remove (session : UInt32)

namespace SessionNumbers

variable {τ : Type u} [DecidableEq τ]

/-- No thread has a number yet. -/
def start : SessionNumbers τ where
  counter := 0
  threadId _ := none
  nextId _ := 0
  sessions _ := none
  returned := []
  dropped := []

/-- The thread gets the next number. -/
def withId (state : SessionNumbers τ) (thread : τ) : SessionNumbers τ :=
  { state with
    counter := state.counter + 1
    threadId := Function.update state.threadId thread (some state.counter) }

/-- `thread_id::get`, which assigns a number first when the thread has none; the program ends
when there are none left. -/
def get (state : SessionNumbers τ) (thread : τ) : Option (UInt32 × SessionNumbers τ) :=
  match state.threadId thread with
  | some id => some (id, state)
  | none =>
      if state.counter < threadIdLimit then some (state.counter, state.withId thread) else none

/-- The value is returned to the thread, which counts on. -/
def withValue (state : SessionNumbers τ) (thread : τ) (value : UInt64) : SessionNumbers τ :=
  { state with
    nextId := Function.update state.nextId thread (state.nextId thread + 1)
    returned := state.returned ++ [(thread, value)] }

/-- `threadsafe_counter::next` -/
def next (state : SessionNumbers τ) (thread : τ) : Option (UInt64 × SessionNumbers τ) :=
  (state.get thread).map fun (id, after) =>
    (counterValue id (after.nextId thread),
      after.withValue thread (counterValue id (after.nextId thread)))

/-- `sessions.emplace` of the session that was just made: a number that is taken keeps its
session. -/
def emplace (state : SessionNumbers τ) (session : UInt32) : SessionNumbers τ :=
  match state.sessions session with
  | none =>
      { state with
        sessions := Function.update state.sessions session (some state.returned.length) }
  | some _ => { state with dropped := state.dropped ++ [state.returned.length] }

/-- One step of a thread. -/
def step (state : SessionNumbers τ) :
    SessionNumberAction τ → Option (SessionNumbers τ)
  | .get thread => (state.get thread).map Prod.snd
  | .next thread => (state.next thread).map Prod.snd
  | .accept thread =>
      (state.next thread).map fun (value, after) => after.emplace value.toUInt32
  | .remove session =>
      some { state with sessions := Function.update state.sessions session none }

/-- The values that were returned to a thread. -/
def valuesOf (state : SessionNumbers τ) (thread : τ) : List UInt64 :=
  (state.returned.filter fun entry => entry.1 = thread).map Prod.snd

/-- The numbers of all sessions. -/
def sessionIds (state : SessionNumbers τ) : List UInt32 :=
  state.returned.map fun entry => entry.2.toUInt32

/-- No value was returned twice, not even with 32 bits, and every session that a server has
accepted was stored under its own number. -/
structure Unique (state : SessionNumbers τ) : Prop where
  values : (state.returned.map Prod.snd).Nodup
  ids : state.sessionIds.Nodup
  stored : state.dropped = []

/-- What a thread was given, and where its count stands. -/
structure Counted (state : SessionNumbers τ) : Prop where
  limit : state.counter ≤ threadIdLimit
  assigned : ∀ thread id, state.threadId thread = some id → id < state.counter
  distinct : ∀ first second id, state.threadId first = some id →
    state.threadId second = some id → first = second
  values : ∀ thread id, state.threadId thread = some id →
    state.valuesOf thread = (List.range (state.valuesOf thread).length).map fun count =>
      counterValue id (UInt64.ofNat count)
  unassigned : ∀ thread, state.threadId thread = none → state.valuesOf thread = []
  count : ∀ thread, state.nextId thread = UInt64.ofNat (state.valuesOf thread).length

variable {state : SessionNumbers τ}

theorem threadId_withId (state : SessionNumbers τ) (thread other : τ) :
    (state.withId thread).threadId other =
      if other = thread then some state.counter else state.threadId other := by
  exact Function.update_apply state.threadId thread (some state.counter) other

theorem valuesOf_withValue (state : SessionNumbers τ) (thread other : τ) (value : UInt64) :
    (state.withValue thread value).valuesOf other =
      if other = thread then state.valuesOf other ++ [value] else state.valuesOf other := by
  rw [valuesOf, withValue, List.filter_append, List.map_append]
  by_cases same : other = thread
  · simp [valuesOf, same]
  · simp [valuesOf, same, Ne.symm same]

theorem nextId_withValue (state : SessionNumbers τ) (thread other : τ) (value : UInt64) :
    (state.withValue thread value).nextId other =
      if other = thread then state.nextId thread + 1 else state.nextId other := by
  exact Function.update_apply state.nextId thread (state.nextId thread + 1) other

theorem counted_start : Counted (start : SessionNumbers τ) where
  limit := by
    change (0 : UInt32) ≤ threadIdLimit
    decide
  assigned := by
    intro thread id known
    cases known
  distinct := by
    intro first second id known
    cases known
  values := by
    intro thread id known
    cases known
  unassigned _ _ := rfl
  count _ := rfl

/-- What asking for the number of a thread does. -/
theorem get_eq_some {thread : τ} {id : UInt32} {after : SessionNumbers τ}
    (got : state.get thread = some (id, after)) :
    (state.threadId thread = some id ∧ after = state) ∨
      (state.threadId thread = none ∧ state.counter < threadIdLimit ∧ id = state.counter ∧
        after = state.withId thread) := by
  unfold get at got
  split at got
  · rename_i known
    cases got
    exact Or.inl ⟨known, rfl⟩
  · rename_i unknown
    split at got
    · rename_i left
      cases got
      exact Or.inr ⟨unknown, left, rfl, rfl⟩
    · cases got

/-- Below the limit the counter of threads does not wrap around. -/
theorem toNat_counter_succ {counter : UInt32} (left : counter < threadIdLimit) :
    (counter + 1).toNat = counter.toNat + 1 ∧ counter + 1 ≤ threadIdLimit := by
  have limit : threadIdLimit.toNat = 2 ^ 24 := rfl
  rw [UInt32.lt_iff_toNat_lt, limit] at left
  have succ : (counter + 1).toNat = counter.toNat + 1 := by
    rw [UInt32.toNat_add]
    change (counter.toNat + 1) % 2 ^ 32 = _
    omega
  refine ⟨succ, ?_⟩
  rw [UInt32.le_iff_toNat_le, succ, limit]
  omega

/-- A thread that has no number yet gets one that no other thread has. -/
theorem Counted.withId (counted : Counted state) {thread : τ}
    (unknown : state.threadId thread = none) (left : state.counter < threadIdLimit) :
    Counted (state.withId thread) := by
  rcases toNat_counter_succ left with ⟨succ, limit⟩
  have fresh : ∀ other, state.threadId other ≠ some state.counter :=
    fun other known => UInt32.lt_irrefl _ (counted.assigned other _ known)
  constructor
  · exact limit
  · intro other id known
    rw [threadId_withId] at known
    change id < state.counter + 1
    rw [UInt32.lt_iff_toNat_lt, succ, Nat.lt_succ_iff]
    split at known
    · exact Nat.le_of_eq (congrArg UInt32.toNat (Option.some.inj known).symm)
    · exact Nat.le_of_lt (UInt32.lt_iff_toNat_lt.mp (counted.assigned other id known))
  · intro first second id firstKnown secondKnown
    rw [threadId_withId] at firstKnown secondKnown
    split at firstKnown
    · split at secondKnown
      · rename_i firstSame secondSame
        rw [firstSame, secondSame]
      · rw [← firstKnown] at secondKnown
        exact absurd secondKnown (fresh second)
    · split at secondKnown
      · rw [← secondKnown] at firstKnown
        exact absurd firstKnown (fresh first)
      · exact counted.distinct first second id firstKnown secondKnown
  · intro other id known
    rw [threadId_withId] at known
    split at known
    · rename_i same
      have nothing : (state.withId thread).valuesOf other = [] :=
        counted.unassigned other (same ▸ unknown)
      rw [nothing]
      rfl
    · exact counted.values other id known
  · intro other unassigned
    rw [threadId_withId] at unassigned
    split at unassigned
    · cases unassigned
    · exact counted.unassigned other unassigned
  · exact counted.count

/-- Afterwards the thread has the number it was told. -/
theorem Counted.get (counted : Counted state) {thread : τ} {id : UInt32}
    {after : SessionNumbers τ} (got : state.get thread = some (id, after)) :
    Counted after ∧ after.threadId thread = some id := by
  rcases get_eq_some got with ⟨known, rfl⟩ | ⟨unknown, left, rfl, rfl⟩
  · exact ⟨counted, known⟩
  · refine ⟨counted.withId unknown left, ?_⟩
    rw [threadId_withId, if_pos rfl]

/-- What a call of the counter does. -/
theorem next_eq_some {thread : τ} {value : UInt64} {after : SessionNumbers τ}
    (called : state.next thread = some (value, after)) :
    ∃ id middle, state.get thread = some (id, middle) ∧
      value = counterValue id (middle.nextId thread) ∧
      after = middle.withValue thread value := by
  rcases Option.map_eq_some_iff.mp called with ⟨⟨id, middle⟩, got, same⟩
  rcases Prod.mk.inj same with ⟨rfl, rfl⟩
  exact ⟨id, middle, got, rfl, rfl⟩

theorem Counted.next (counted : Counted state) {thread : τ} {value : UInt64}
    {after : SessionNumbers τ} (called : state.next thread = some (value, after)) :
    Counted after := by
  rcases next_eq_some called with ⟨id, middle, got, valueEq, rfl⟩
  rcases counted.get got with ⟨between, known⟩
  constructor
  · exact between.limit
  · exact between.assigned
  · exact between.distinct
  · intro other otherId otherKnown
    rw [valuesOf_withValue]
    have before := between.values other otherId otherKnown
    split
    · rename_i same
      have id_eq : otherId = id := by
        rw [same] at otherKnown
        exact Option.some.inj (otherKnown.symm.trans known)
      rw [List.length_append, List.length_singleton, List.range_succ, List.map_append, ← before,
        List.map_singleton, id_eq, valueEq, same, between.count]
    · exact before
  · intro other unassigned
    rw [valuesOf_withValue]
    split
    · rename_i same
      rw [same] at unassigned
      cases unassigned.symm.trans known
    · exact between.unassigned other unassigned
  · intro other
    rw [valuesOf_withValue, nextId_withValue]
    split
    · rename_i same
      rw [between.count, List.length_append, List.length_singleton, same]
      exact (UInt64.ofNat_add _ _).symm
    · exact between.count other

/-! ## Sessions of a server -/

/-- Sessions are stored under numbers that were given out; one that is not stored found its
number taken. -/
structure Kept (state : SessionNumbers τ) : Prop where
  known : ∀ session number, state.sessions session = some number → session ∈ state.sessionIds
  dropped : state.sessionIds.Nodup → state.dropped = []

omit [DecidableEq τ] in
theorem kept_start : Kept (start : SessionNumbers τ) where
  known := by
    intro session number stored
    cases stored
  dropped _ := rfl

/-- Asking for a number leaves the server alone. -/
theorem server_get {thread : τ} {id : UInt32} {after : SessionNumbers τ}
    (got : state.get thread = some (id, after)) :
    after.sessions = state.sessions ∧ after.returned = state.returned ∧
      after.dropped = state.dropped := by
  rcases get_eq_some got with ⟨_, rfl⟩ | ⟨_, _, _, rfl⟩
  · exact ⟨rfl, rfl, rfl⟩
  · exact ⟨rfl, rfl, rfl⟩

/-- A call of the counter gives out one more number. -/
theorem server_next {thread : τ} {value : UInt64} {after : SessionNumbers τ}
    (called : state.next thread = some (value, after)) :
    after.sessions = state.sessions ∧ after.sessionIds = state.sessionIds ++ [value.toUInt32] ∧
      after.dropped = state.dropped := by
  rcases next_eq_some called with ⟨id, middle, got, _, rfl⟩
  rcases server_get got with ⟨sessions, returned, dropped⟩
  refine ⟨sessions, ?_, dropped⟩
  rw [sessionIds, withValue, List.map_append, returned]
  rfl

theorem Kept.next (kept : Kept state) {thread : τ} {value : UInt64} {after : SessionNumbers τ}
    (called : state.next thread = some (value, after)) : Kept after := by
  rcases server_next called with ⟨sessions, ids, dropped⟩
  constructor
  · intro session number stored
    rw [ids]
    rw [sessions] at stored
    exact List.mem_append_left _ (kept.known session number stored)
  · intro distinct
    rw [ids] at distinct
    rw [dropped]
    exact kept.dropped distinct.of_append_left

theorem Kept.step (kept : Kept state) {action : SessionNumberAction τ}
    {after : SessionNumbers τ} (stepEq : state.step action = some after) : Kept after := by
  cases action with
  | get thread =>
      rcases Option.map_eq_some_iff.mp stepEq with ⟨⟨id, _⟩, got, rfl⟩
      rcases server_get got with ⟨sessions, returned, dropped⟩
      constructor
      · rw [sessionIds, sessions, returned]
        exact kept.known
      · rw [sessionIds, returned, dropped]
        exact kept.dropped
  | next thread =>
      rcases Option.map_eq_some_iff.mp stepEq with ⟨⟨value, _⟩, called, rfl⟩
      exact kept.next called
  | accept thread =>
      rcases Option.map_eq_some_iff.mp stepEq with ⟨⟨value, middle⟩, called, rfl⟩
      rcases server_next called with ⟨sessions, ids, _⟩
      have keptMiddle := kept.next called
      simp only [emplace]
      cases taken : middle.sessions value.toUInt32 with
      | none =>
          constructor
          · intro session number stored
            change session ∈ middle.sessionIds
            by_cases same : session = value.toUInt32
            · rw [ids, same]
              exact List.mem_append_right _ (List.mem_singleton_self _)
            · apply keptMiddle.known session number
              exact (Function.update_of_ne same _ _).symm.trans stored
          · exact keptMiddle.dropped
      | some number =>
          -- The id was given out before this call gave it out once more.
          rw [sessions] at taken
          have old := kept.known _ number taken
          constructor
          · exact keptMiddle.known
          · intro distinct
            change middle.sessionIds.Nodup at distinct
            rw [ids] at distinct
            exact absurd rfl (List.nodup_append.mp distinct |>.2.2 _ old _
              (List.mem_singleton_self _))
  | remove session =>
      cases stepEq
      constructor
      · intro other number stored
        apply kept.known other number
        by_cases same : other = session
        · subst same
          have gone : Function.update state.sessions other none other = some number := stored
          rw [Function.update_self] at gone
          cases gone
        · exact (Function.update_of_ne same _ _).symm.trans stored
      · exact kept.dropped

theorem Counted.step (counted : Counted state) {action : SessionNumberAction τ}
    {after : SessionNumbers τ} (stepEq : state.step action = some after) : Counted after := by
  cases action with
  | get thread =>
      rcases Option.map_eq_some_iff.mp stepEq with ⟨⟨id, _⟩, got, rfl⟩
      exact (counted.get got).1
  | next thread =>
      rcases Option.map_eq_some_iff.mp stepEq with ⟨⟨value, _⟩, called, rfl⟩
      exact counted.next called
  | accept thread =>
      rcases Option.map_eq_some_iff.mp stepEq with ⟨⟨value, middle⟩, called, rfl⟩
      have later := counted.next called
      simp only [emplace]
      split
      · exact ⟨later.limit, later.assigned, later.distinct, later.values, later.unassigned,
          later.count⟩
      · exact ⟨later.limit, later.assigned, later.distinct, later.values, later.unassigned,
          later.count⟩
  | remove session =>
      cases stepEq
      exact ⟨counted.limit, counted.assigned, counted.distinct, counted.values,
        counted.unassigned, counted.count⟩

theorem sound_run {actions : List (SessionNumberAction τ)} {final : SessionNumbers τ}
    (runEq : run step start actions = some final) : Counted final ∧ Kept final := by
  apply @run_invariant _ _ step (fun _ _ => True)
    (fun state : SessionNumbers τ => Counted state ∧ Kept state) _ start final actions
    ⟨counted_start, kept_start⟩ (guarded_true _ _ _) runEq
  rintro state action next ⟨counted, kept⟩ _ stepEq
  exact ⟨counted.step stepEq, kept.step stepEq⟩

/-- The threads that have called the counter have different numbers also when only the lowest
8 bits are looked at. -/
def DistinctParts (state : SessionNumbers τ) : Prop :=
  ∀ first second firstId secondId, state.threadId first = some firstId →
    state.threadId second = some secondId → state.valuesOf first ≠ [] →
      state.valuesOf second ≠ [] → threadPart firstId = threadPart secondId → first = second

/-- The values of a thread are those of its counts. -/
theorem Counted.mem_returned_iff (counted : Counted state) {thread : τ} {value : UInt64} :
    (thread, value) ∈ state.returned ↔ ∃ id count, state.threadId thread = some id ∧
      count < (state.valuesOf thread).length ∧ value = counterValue id (UInt64.ofNat count) := by
  have mem_iff : (thread, value) ∈ state.returned ↔ value ∈ state.valuesOf thread := by
    simp [valuesOf, List.mem_map, List.mem_filter]
  rw [mem_iff]
  cases assigned : state.threadId thread with
  | none =>
      rw [counted.unassigned thread assigned]
      simp
  | some id =>
      constructor
      · intro mem
        rw [counted.values thread id assigned] at mem
        rcases List.mem_map.mp mem with ⟨count, below, rfl⟩
        exact ⟨id, count, rfl, List.mem_range.mp below, rfl⟩
      · rintro ⟨_, count, ⟨⟩, below, rfl⟩
        rw [counted.values thread id assigned]
        exact List.mem_map_of_mem (List.mem_range.mpr below)

/-- As long as no thread calls the counter too often, the numbers of all sessions are distinct
exactly if the low parts of the numbers of the calling threads are. -/
theorem Counted.nodup_sessionIds_iff (counted : Counted state)
    (few : ∀ thread, (state.valuesOf thread).length < 2 ^ 24) :
    state.sessionIds.Nodup ↔ state.DistinctParts := by
  constructor
  · intro distinct first second firstId secondId firstKnown secondKnown firstSome secondSome
      same
    have firstMem : (first, counterValue firstId (UInt64.ofNat 0)) ∈ state.returned :=
      counted.mem_returned_iff.mpr
        ⟨firstId, 0, firstKnown, List.length_pos_of_ne_nil firstSome, rfl⟩
    have secondMem : (second, counterValue secondId (UInt64.ofNat 0)) ∈ state.returned :=
      counted.mem_returned_iff.mpr
        ⟨secondId, 0, secondKnown, List.length_pos_of_ne_nil secondSome, rfl⟩
    have value_eq := (@counterValue_eq_iff firstId secondId 0 0 (by decide) (by decide)).mpr
      ⟨same, rfl⟩
    exact congrArg Prod.fst (List.inj_on_of_nodup_map distinct firstMem secondMem value_eq)
  · intro parts
    apply @nodup_map_of_key _ τ _ _ Prod.fst
    · intro thread
      have ids : ((state.returned.filter fun entry => entry.1 = thread).map fun entry =>
          entry.2.toUInt32) = (state.valuesOf thread).map UInt64.toUInt32 := by
        rw [valuesOf, List.map_map]
        rfl
      rw [ids]
      cases assigned : state.threadId thread with
      | none =>
          rw [counted.unassigned thread assigned]
          exact List.nodup_nil
      | some id =>
          rw [counted.values thread id assigned, List.map_map]
          apply List.Nodup.map_on _ List.nodup_range
          intro firstCount firstBelow secondCount secondBelow same
          rw [List.mem_range] at firstBelow secondBelow
          exact ((counterValue_eq_iff (Nat.lt_trans firstBelow (few thread))
            (Nat.lt_trans secondBelow (few thread))).mp same).2
    · rintro ⟨first, firstValue⟩ firstMem ⟨second, secondValue⟩ secondMem different value_eq
      rcases counted.mem_returned_iff.mp firstMem with ⟨firstId, firstCount, firstKnown,
        firstBelow, rfl⟩
      rcases counted.mem_returned_iff.mp secondMem with ⟨secondId, secondCount, secondKnown,
        secondBelow, rfl⟩
      apply different
      apply parts first second firstId secondId firstKnown secondKnown
      · exact List.ne_nil_of_length_pos (Nat.zero_lt_of_lt firstBelow)
      · exact List.ne_nil_of_length_pos (Nat.zero_lt_of_lt secondBelow)
      · exact ((counterValue_eq_iff (Nat.lt_trans firstBelow (few first))
          (Nat.lt_trans secondBelow (few second))).mp value_eq).1

/-- As long as every thread calls the counter less than 2^24 times, no value is returned twice
and every accepted session is stored exactly if the numbers of the calling threads are
different in their lowest 8 bits. -/
theorem unique_iff_distinctParts {actions : List (SessionNumberAction τ)}
    {final : SessionNumbers τ} (runEq : run step start actions = some final)
    (few : ∀ thread, (final.valuesOf thread).length < 2 ^ 24) :
    final.Unique ↔ final.DistinctParts := by
  rcases sound_run runEq with ⟨counted, kept⟩
  rw [← counted.nodup_sessionIds_iff few]
  constructor
  · exact Unique.ids
  · intro distinct
    refine ⟨?_, distinct, kept.dropped distinct⟩
    apply List.Nodup.of_map UInt64.toUInt32
    rw [List.map_map]
    exact distinct

/-- Two threads, one of which calls twice. -/
theorem unique_iff_distinctParts_two :
    ∃ final : SessionNumbers Nat,
      run step start [.accept 0, .accept 1, .accept 0] = some final ∧ final.Unique := by
  rcases Option.map_eq_some_iff.mp (by decide +kernel : (run step (start : SessionNumbers Nat)
      [.accept 0, .accept 1, .accept 0]).map (fun final => (final.returned, final.threadId 0,
        final.threadId 1)) =
      some ([(0, 0), (1, 16777216), (0, 1)], some 0, some 1)) with ⟨final, runEq, found⟩
  simp only [Prod.mk.injEq] at found
  rcases found with ⟨returned, zero, one⟩
  have short : ∀ thread, (final.valuesOf thread).length ≤ 3 := by
    intro thread
    rw [valuesOf, List.length_map, returned]
    exact List.length_filter_le _ _
  refine ⟨final, runEq, (unique_iff_distinctParts runEq fun thread =>
    Nat.lt_of_le_of_lt (short thread) (by decide)).mpr ?_⟩
  -- only these two threads have called
  have callers : ∀ thread, final.valuesOf thread ≠ [] → thread = 0 ∨ thread = 1 := by
    intro thread called
    by_contra other
    rw [not_or] at other
    apply called
    rw [valuesOf, returned]
    simp [Ne.symm other.1, Ne.symm other.2]
  intro first second firstId secondId firstKnown secondKnown firstSome secondSome same
  rcases callers first firstSome with rfl | rfl <;> rcases callers second secondSome with rfl | rfl
  · rfl
  · rw [zero] at firstKnown
    rw [one] at secondKnown
    cases firstKnown
    cases secondKnown
    cases same
  · rw [one] at firstKnown
    rw [zero] at secondKnown
    cases firstKnown
    cases secondKnown
    cases same
  · rfl

/-- The first thread and the one after 255 others get the same value, and the session that the
second one accepts is not stored. -/
theorem thread_zero_and_256 :
    ∃ final : SessionNumbers Nat,
      run step start ((List.range 256).map SessionNumberAction.get ++ [.accept 0, .accept 256]) =
          some final ∧
        final.returned = [(0, 0), (256, 0)] ∧ final.dropped = [2] ∧ ¬final.Unique := by
  rcases Option.map_eq_some_iff.mp (by decide +kernel : (run step (start : SessionNumbers Nat)
      ((List.range 256).map SessionNumberAction.get ++ [.accept 0, .accept 256])).map
        (fun final => (final.returned, final.dropped)) =
      some ([(0, 0), (256, 0)], [2])) with ⟨final, runEq, found⟩
  rcases Prod.mk.inj found with ⟨returned, dropped⟩
  refine ⟨final, runEq, returned, dropped, ?_⟩
  intro unique
  have stored := unique.stored
  rw [dropped] at stored
  cases stored

end SessionNumbers

end VoxelEngine.ClientServer
