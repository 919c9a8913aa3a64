import VoxelEngine.Event.PriorityOrder
import VoxelEngine.Event.SimpleDispatcher

/-!
# The order of handlers

Handlers are added to a dispatcher with named priorities, and removed again.  A dispatch invokes
them in the order of their tables, which is compared with the order in which their priorities
are named.
-/

namespace VoxelEngine.Event

open VoxelEngine.Transition

namespace HandlerTable

variable {table : HandlerTable Prioritized} {live : List Prioritized} {added number : Nat}
  {handler : Prioritized}

/-- The handlers that `handler_data::invoke` invokes, one after the other. -/
def invoked (table : HandlerTable Prioritized) : List Prioritized :=
  table.entries.map Prod.snd

/-- Each handler is invoked once, from the highest to the lowest priority, and those of one
priority in the order in which they were added. -/
def InOrder (table : HandlerTable Prioritized) (live : List Prioritized) : Prop :=
  table.invoked.Perm live ∧ table.invoked.Pairwise Prioritized.Before

/-- A table of handlers with smaller numbers than `added`, whose identifiers were made from
them. -/
structure Numbered (table : HandlerTable Prioritized) (added : Nat) : Prop where
  rows : ∀ row ∈ table.rows, (∀ entry ∈ row.2, entry.2.priority.code = row.1) ∧
    row.2.Pairwise fun first second => first.2.number < second.2.number
  ids : ∀ entry ∈ table.entries, entry.1 = entry.2.id ∧ entry.2.number < added
  distinct : (table.invoked.map Prioritized.number).Nodup

theorem numbered_empty : (empty : HandlerTable Prioritized).Numbered added where
  rows _ mem := absurd mem List.not_mem_nil
  ids _ mem := absurd mem List.not_mem_nil
  distinct := List.nodup_nil

theorem Numbered.mono (numbered : table.Numbered added) {later : Nat} (le : added ≤ later) :
    table.Numbered later where
  rows := numbered.rows
  ids entry mem := ⟨(numbered.ids entry mem).1, Nat.lt_of_lt_of_le (numbered.ids entry mem).2 le⟩
  distinct := numbered.distinct

/-- The handlers are invoked in the order of their places in the table. -/
theorem Numbered.pairwise (numbered : table.Numbered added) :
    table.invoked.Pairwise Prioritized.CodeBefore :=
  List.pairwise_map.mpr
    (@pairwise_entries _ (fun handler : Prioritized => handler.priority.code) _ _ numbered.rows)

theorem Numbered.number_lt (numbered : table.Numbered added) (mem : handler ∈ table.invoked) :
    handler.number < added := by
  rcases List.mem_map.mp mem with ⟨entry, entryMem, rfl⟩
  exact (numbered.ids entry entryMem).2

/-- The order of the handlers as a condition on all pairs of them. -/
theorem Numbered.inOrder_iff (numbered : table.Numbered added) :
    table.InOrder live ↔ table.invoked.Perm live ∧
      ∀ first ∈ live, ∀ second ∈ live, first.CodeBefore second → first.Before second := by
  unfold InOrder
  rw [pairwise_iff_of_asymm numbered.pairwise fun _ _ => Prioritized.CodeBefore.asymm]
  constructor
  · rintro ⟨perm, ordered⟩
    refine ⟨perm, fun first firstMem second secondMem => ?_⟩
    exact ordered first (perm.mem_iff.mpr firstMem) second (perm.mem_iff.mpr secondMem)
  · rintro ⟨perm, ordered⟩
    refine ⟨perm, fun first firstMem second secondMem => ?_⟩
    exact ordered first (perm.mem_iff.mp firstMem) second (perm.mem_iff.mp secondMem)

theorem invoked_emplaceBack (table : HandlerTable Prioritized) (id : RawHandler)
    (handler : Prioritized) :
    (table.emplaceBack handler.priority.code (id, handler)).invoked.Perm
      (table.invoked ++ [handler]) := by
  have perm := (table.entries_emplaceBack handler.priority.code (id, handler)).map Prod.snd
  rwa [List.map_append] at perm

/-- A new handler gets the next number. -/
theorem Numbered.emplaceBack (numbered : table.Numbered added)
    (number_eq : handler.number = added) :
    (table.emplaceBack handler.priority.code (handler.id, handler)).Numbered (added + 1) where
  rows := by
    apply of_mem_appendRow numbered.rows
    · exact ⟨fun entry mem => by rw [List.mem_singleton.mp mem], List.pairwise_singleton _ _⟩
    · intro row rowMem same
      rcases numbered.rows row rowMem with ⟨keyed, ordered⟩
      constructor
      · intro entry mem
        rcases List.mem_append.mp mem with old | new
        · exact keyed entry old
        · rw [List.mem_singleton.mp new]
          exact same.symm
      · rw [List.pairwise_append]
        refine ⟨ordered, List.pairwise_singleton _ _, ?_⟩
        intro entry old last new
        have inTable : entry ∈ table.entries :=
          (entries_perm table).mem_iff.mpr (List.mem_flatMap.mpr ⟨row, rowMem, old⟩)
        rw [List.mem_singleton.mp new, number_eq]
        exact (numbered.ids entry inTable).2
  ids := by
    intro entry mem
    rw [(entries_emplaceBack table _ _).mem_iff, List.mem_append, List.mem_singleton] at mem
    rcases mem with old | rfl
    · exact ⟨(numbered.ids entry old).1, Nat.lt_succ_of_lt (numbered.ids entry old).2⟩
    · exact ⟨rfl, by rw [number_eq]; exact Nat.lt_succ_self added⟩
  distinct := by
    rw [((invoked_emplaceBack table _ handler).map _).nodup_iff, List.map_append, List.map_singleton,
      List.nodup_append]
    refine ⟨numbered.distinct, List.nodup_singleton _, ?_⟩
    intro first firstMem second secondMem
    rcases List.mem_map.mp firstMem with ⟨old, oldMem, rfl⟩
    rw [List.mem_singleton.mp secondMem, number_eq]
    exact Nat.ne_of_lt (numbered.number_lt oldMem)

/-- A new handler is placed as it is to be invoked if and only if its priority agrees with those
that are there. -/
theorem Numbered.inOrder_emplaceBack_iff (numbered : table.Numbered added)
    (inOrder : table.InOrder live) (number_eq : handler.number = added) :
    (table.emplaceBack handler.priority.code (handler.id, handler)).InOrder (live ++ [handler]) ↔
      ∀ older ∈ live, older.priority.Agree handler.priority := by
  rw [(numbered.emplaceBack number_eq).inOrder_iff]
  rcases numbered.inOrder_iff.mp inOrder with ⟨perm, ordered⟩
  have older_lt : ∀ older ∈ live, older.number < handler.number := by
    intro older mem
    rw [number_eq]
    exact numbered.number_lt (perm.mem_iff.mpr mem)
  constructor
  · rintro ⟨_, all⟩ older mem
    have olderMem := List.mem_append_left [handler] mem
    have newMem := List.mem_append_right live (List.mem_singleton_self handler)
    exact (Prioritized.agree_iff (older_lt older mem)).mpr
      ⟨all older olderMem handler newMem, all handler newMem older olderMem⟩
  · intro agree
    refine ⟨(invoked_emplaceBack table _ handler).trans (perm.append_right _), ?_⟩
    intro first firstMem second secondMem before
    rw [List.mem_append, List.mem_singleton] at firstMem secondMem
    rcases firstMem with firstOld | rfl <;> rcases secondMem with secondOld | rfl
    · exact ordered first firstOld second secondOld before
    · exact ((Prioritized.agree_iff (older_lt first firstOld)).mp (agree first firstOld)).1 before
    · exact ((Prioritized.agree_iff (older_lt second secondOld)).mp (agree second secondOld)).2 before
    · exact absurd before before.asymm

/-- Erasing a handler takes out the one that is found. -/
theorem invoked_erase (table : HandlerTable Prioritized) (id : RawHandler) :
    (∃ entry, table.find id = some entry ∧
        table.invoked.Perm (entry.2 :: (table.erase id).invoked)) ∨
      table.find id = none ∧ table.erase id = table := by
  rcases erase_spec table id with ⟨entry, findEq, perm⟩ | absent
  · exact Or.inl ⟨entry, findEq, perm.map Prod.snd⟩
  · exact Or.inr absent

theorem Numbered.erase (numbered : table.Numbered added) (id : RawHandler) :
    (table.erase id).Numbered added where
  rows := by
    apply of_mem_erase numbered.rows
    intro row rowMem
    rcases numbered.rows row rowMem with ⟨keyed, ordered⟩
    exact ⟨fun entry mem => keyed entry (List.mem_of_mem_eraseP mem),
      ordered.sublist (List.eraseP_sublist)⟩
  ids := by
    intro entry mem
    apply numbered.ids
    rcases erase_spec table id with ⟨_, _, perm⟩ | ⟨_, same⟩
    · exact perm.mem_iff.mpr (List.mem_cons_of_mem _ mem)
    · rwa [same] at mem
  distinct := by
    rcases invoked_erase table id with ⟨_, _, perm⟩ | ⟨_, same⟩
    · exact (List.nodup_cons.mp ((perm.map _).nodup_iff.mp numbered.distinct)).2
    · rw [same]
      exact numbered.distinct

/-- A handler of the table has an entry under its identifier. -/
theorem Numbered.find_ne_none (numbered : table.Numbered added) (mem : handler ∈ table.invoked) :
    table.find handler.id ≠ none := by
  rcases List.mem_map.mp mem with ⟨entry, entryMem, rfl⟩
  intro absent
  exact find_eq_none_iff.mp absent entry entryMem (numbered.ids entry entryMem).1

/-- The right handler is removed if and only if it is the one that is found, or none is. -/
theorem Numbered.inOrder_erase_iff (numbered : table.Numbered added)
    (inOrder : table.InOrder live) (number : Nat) :
    (table.erase (UInt32.ofNat number)).InOrder
        (live.filter fun handler => handler.number ≠ number) ↔
      ∀ entry ∈ table.find (UInt32.ofNat number), entry.2.number = number := by
  rw [(numbered.erase _).inOrder_iff]
  rcases numbered.inOrder_iff.mp inOrder with ⟨perm, ordered⟩
  rcases invoked_erase table (UInt32.ofNat number) with ⟨found, findEq, takenOut⟩ | ⟨absent, same⟩
  · have numbers := (takenOut.map Prioritized.number).nodup_iff.mp numbered.distinct
    rw [List.map_cons, List.nodup_cons] at numbers
    have alone : ∀ other ∈ (table.erase (UInt32.ofNat number)).invoked,
        other.number ≠ found.2.number := by
      intro other mem same
      exact numbers.1 (List.mem_map.mpr ⟨other, mem, same⟩)
    rw [Prioritized.perm_filter_iff perm takenOut alone]
    simp only [findEq, Option.mem_some_iff, forall_eq', and_iff_left_iff_imp]
    intro _ first firstMem second secondMem
    exact ordered first (List.mem_filter.mp firstMem).1 second (List.mem_filter.mp secondMem).1
  · simp only [absent, Option.not_mem_none, false_implies, implies_true, iff_true]
    rw [same, List.filter_eq_self.mpr]
    · exact ⟨perm, ordered⟩
    · intro handler mem
      apply decide_eq_true
      rintro rfl
      exact numbered.find_ne_none (perm.mem_iff.mpr mem) absent

end HandlerTable

/-- A dispatcher, the number of handlers that were added, and for each type those that were
added and not removed since. -/
structure PrioritizedProgram (T : Type) where
  dispatcher : SimpleDispatcher T Prioritized
  added : Nat
  live : T → List Prioritized

/-- What a program can do between two dispatches. -/
inductive PrioritizedAction (T : Type) where
  | addHandler (type : T) (priority : NamedPriority)
  | removeHandler (type : T) (number : Nat)

namespace PrioritizedProgram

variable {T : Type}

/-- Nothing has been done. -/
def start : PrioritizedProgram T :=
  ⟨SimpleDispatcher.create, 0, fun _ => []⟩

/-- A dispatch invokes the handlers of its type in order. -/
def InOrder (program : PrioritizedProgram T) : Prop :=
  ∀ type, (program.dispatcher.handlers type).InOrder (program.live type)

variable [DecidableEq T]

/-- The transition relation of programs. -/
def step : Step (PrioritizedProgram T) (PrioritizedAction T)
  | program, .addHandler type priority =>
      let handler := ⟨program.added, priority⟩
      some
        { dispatcher := program.dispatcher.addHandler type priority.code handler
          added := program.added + 1
          live := Function.update program.live type (program.live type ++ [handler]) }
  | program, .removeHandler type number =>
      some
        { program with
          dispatcher := program.dispatcher.removeHandler type (UInt32.ofNat number)
          live := Function.update program.live type
            ((program.live type).filter fun handler => handler.number ≠ number) }

omit [DecidableEq T] in
/-- The priority of a new handler agrees with those of its type, and what is found for a handler
to be removed is this handler. -/
def Unconfused (program : PrioritizedProgram T) : PrioritizedAction T → Prop
  | .addHandler type priority =>
      ∀ handler ∈ program.live type, handler.priority.Agree priority
  | .removeHandler type number =>
      ∀ entry ∈ (program.dispatcher.handlers type).find (UInt32.ofNat number),
        entry.2.number = number

omit [DecidableEq T] in
/-- What holds in every state. -/
structure Sound (program : PrioritizedProgram T) : Prop where
  idle : program.dispatcher.currentlyDispatched = []
  nextId : program.dispatcher.nextId = UInt32.ofNat program.added
  numbered : ∀ type, (program.dispatcher.handlers type).Numbered program.added

omit [DecidableEq T] in
theorem start_sound : (start : PrioritizedProgram T).Sound where
  idle := rfl
  nextId := rfl
  numbered _ := HandlerTable.numbered_empty

omit [DecidableEq T] in
theorem start_inOrder : (start : PrioritizedProgram T).InOrder :=
  fun _ => ⟨List.Perm.refl _, List.Pairwise.nil⟩

section Steps

variable {program next : PrioritizedProgram T} {action : PrioritizedAction T}

/-- Outside of dispatches nothing is put off. -/
theorem Sound.performOrDefer (sound : program.Sound) (type : T)
    (pending : PendingAction T Prioritized) :
    program.dispatcher.performOrDefer type pending =
      { program.dispatcher with
        handlers := PendingAction.perform program.dispatcher.handlers pending } := by
  have idle : program.dispatcher.isDispatching type = false := by
    rw [SimpleDispatcher.isDispatching, sound.idle]
    rfl
  rw [SimpleDispatcher.performOrDefer, idle, if_neg Bool.false_ne_true]

theorem Sound.step_addHandler (sound : program.Sound) (type : T) (priority : NamedPriority) :
    step program (.addHandler type priority) = some
      { dispatcher :=
          { program.dispatcher with
            handlers := Function.update program.dispatcher.handlers type
              ((program.dispatcher.handlers type).emplaceBack priority.code
                (Prioritized.id ⟨program.added, priority⟩, ⟨program.added, priority⟩))
            nextId := UInt32.ofNat (program.added + 1) }
        added := program.added + 1
        live := Function.update program.live type
          (program.live type ++ [⟨program.added, priority⟩]) } := by
  have nextId : program.dispatcher.nextId + 1 = UInt32.ofNat (program.added + 1) := by
    rw [sound.nextId, UInt32.ofNat_add]
    rfl
  have id_eq : Prioritized.id ⟨program.added, priority⟩ = program.dispatcher.nextId :=
    sound.nextId.symm
  rw [step, SimpleDispatcher.addHandler, sound.performOrDefer, nextId, id_eq]
  rfl

theorem Sound.step_removeHandler (sound : program.Sound) (type : T) (number : Nat) :
    step program (.removeHandler type number) = some
      { program with
        dispatcher :=
          { program.dispatcher with
            handlers := Function.update program.dispatcher.handlers type
              ((program.dispatcher.handlers type).erase (UInt32.ofNat number)) }
        live := Function.update program.live type
          ((program.live type).filter fun handler => handler.number ≠ number) } := by
  rw [step, SimpleDispatcher.removeHandler, sound.performOrDefer]
  rfl

theorem numbered_update {tables : T → HandlerTable Prioritized} {added : Nat} {type : T}
    {table : HandlerTable Prioritized} (each : ∀ type, (tables type).Numbered added)
    (here : table.Numbered added) (other : T) :
    (Function.update tables type table other).Numbered added := by
  by_cases same : other = type
  · rw [same, Function.update_self]
    exact here
  · rw [Function.update_of_ne same]
    exact each other

/-- Only the handlers of one type can get out of order. -/
theorem inOrder_update_iff {tables : T → HandlerTable Prioritized} {live : T → List Prioritized}
    {type : T} {table : HandlerTable Prioritized} {left : List Prioritized}
    (inOrder : ∀ type, (tables type).InOrder (live type)) :
    (∀ other, (Function.update tables type table other).InOrder
        (Function.update live type left other)) ↔ table.InOrder left := by
  constructor
  · intro ordered
    simpa only [Function.update_self] using ordered type
  · intro ordered other
    by_cases same : other = type
    · rw [same, Function.update_self, Function.update_self]
      exact ordered
    · rw [Function.update_of_ne same, Function.update_of_ne same]
      exact inOrder other

theorem Sound.step (sound : program.Sound)
    (stepEq : PrioritizedProgram.step program action = some next) : next.Sound := by
  cases action with
  | addHandler type priority =>
      rw [sound.step_addHandler] at stepEq
      rw [← Option.some.inj stepEq]
      refine ⟨sound.idle, rfl, fun other => ?_⟩
      apply numbered_update fun type => (sound.numbered type).mono (Nat.le_succ _)
      exact @HandlerTable.Numbered.emplaceBack _ _ ⟨program.added, priority⟩ (sound.numbered type) rfl
  | removeHandler type number =>
      rw [sound.step_removeHandler] at stepEq
      rw [← Option.some.inj stepEq]
      refine ⟨sound.idle, sound.nextId, fun other => ?_⟩
      exact numbered_update sound.numbered ((sound.numbered type).erase _) other

/-- A step keeps all handlers in order if and only if it confuses none. -/
theorem Sound.inOrder_step_iff (sound : program.Sound) (inOrder : program.InOrder)
    (stepEq : PrioritizedProgram.step program action = some next) :
    next.InOrder ↔ program.Unconfused action := by
  cases action with
  | addHandler type priority =>
      rw [sound.step_addHandler] at stepEq
      rw [← Option.some.inj stepEq]
      exact (inOrder_update_iff inOrder).trans
        (@HandlerTable.Numbered.inOrder_emplaceBack_iff _ _ _ ⟨program.added, priority⟩
          (sound.numbered type) (inOrder type) rfl)
  | removeHandler type number =>
      rw [sound.step_removeHandler] at stepEq
      rw [← Option.some.inj stepEq]
      exact (inOrder_update_iff inOrder).trans
        ((sound.numbered type).inOrder_erase_iff (inOrder type) number)

/-- Handlers can always be added and removed. -/
theorem exists_step (program : PrioritizedProgram T) (action : PrioritizedAction T) :
    ∃ next, PrioritizedProgram.step program action = some next := by
  cases action <;> exact ⟨_, rfl⟩

end Steps

/-- The handlers are invoked in order in every state of a program if and only if it never
confuses any. -/
theorem inOrder_throughout_iff (actions : List (PrioritizedAction T)) :
    (∀ before after program, actions = before ++ after → run step start before = some program →
        program.InOrder) ↔
      Guarded step Unconfused start actions := by
  have possible := @exists_run _ _ (step : Step (PrioritizedProgram T) _) (fun _ _ => True)
    (fun _ => True)
    (fun program action _ _ => (exists_step program action).imp fun _ stepEq => ⟨stepEq, trivial⟩)
    start actions trivial (guarded_true _ _ _)
  rcases possible with ⟨_, runEq, _⟩
  exact throughout_iff_guarded (fun _ _ _ sound stepEq => sound.step stepEq)
    (fun _ _ _ sound inOrder stepEq => sound.inOrder_step_iff inOrder stepEq)
    start_sound start_inOrder runEq

end PrioritizedProgram

end VoxelEngine.Event
