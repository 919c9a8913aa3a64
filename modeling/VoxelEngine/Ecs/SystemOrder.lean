import Mathlib.Data.List.Pairwise
import VoxelEngine.Event.DispatchOrder

/-!
# The order of systems

The systems of a registry are kept in a hash map for each priority.  In which order such a map
is walked through is left open, so that only the order of different priorities is promised.
-/

namespace VoxelEngine.Ecs

open VoxelEngine.Transition VoxelEngine.Event

/-- `registry::system_id` -/
abbrev SystemId := UInt32

/-- A system that is stored under an identifier. -/
abbrev SystemEntry := SystemId × Prioritized

/-- An order in which hash maps are walked through. -/
structure BucketOrder where
  iterate : List SystemEntry → List SystemEntry
  perm : ∀ bucket, (iterate bucket).Perm bucket

/-- The systems of `registry`: by identifier, and by priority.  A row of the table is a hash map
from identifiers. -/
structure SystemRegistry where
  systems : List SystemEntry
  systemsByPriority : HandlerTable Prioritized
  nextSystemId : SystemId

namespace SystemRegistry

/-- A registry without systems. -/
def create : SystemRegistry :=
  ⟨[], HandlerTable.empty, 0⟩

/-- `systems.find` -/
def find (registry : SystemRegistry) (id : SystemId) : Option SystemEntry :=
  registry.systems.find? fun entry => entry.1 == id

/-- `systems_by_priority[priority].emplace`, which leaves an entry with the identifier alone. -/
def emplace (table : HandlerTable Prioritized) (priority : Priority) (entry : SystemEntry) :
    HandlerTable Prioritized :=
  if table.rows.any fun row => row.1 == priority && row.2.any fun other => other.1 == entry.1 then
    table
  else table.emplaceBack priority entry

/-- `registry::add_system`.  If the identifier is in use, the new system is not stored. -/
def addSystem (registry : SystemRegistry) (system : Prioritized) : SystemRegistry :=
  match registry.find registry.nextSystemId with
  | some present =>
      { registry with
        systemsByPriority := emplace registry.systemsByPriority system.priority.code
          (registry.nextSystemId, present.2)
        nextSystemId := registry.nextSystemId + 1 }
  | none =>
      { systems := registry.systems ++ [(registry.nextSystemId, system)]
        systemsByPriority := emplace registry.systemsByPriority system.priority.code
          (registry.nextSystemId, system)
        nextSystemId := registry.nextSystemId + 1 }

/-- `registry::remove_system` -/
def removeSystem (registry : SystemRegistry) (id : SystemId) : SystemRegistry :=
  match registry.find id with
  | some present =>
      { registry with
        systems := registry.systems.filter fun entry => entry.1 ≠ id
        systemsByPriority :=
          (registry.systemsByPriority.check id present.2.priority.code).getD
            registry.systemsByPriority }
  | none => registry

/-- The systems that `registry::update` updates, one after the other. -/
def updated (registry : SystemRegistry) (order : BucketOrder) : List Prioritized :=
  (registry.systemsByPriority.rows.reverse.flatMap fun row => order.iterate row.2).map Prod.snd

end SystemRegistry

/-- A registry, the number of systems that were added, and those that were added and not removed
since. -/
structure SystemProgram where
  registry : SystemRegistry
  added : Nat
  live : List Prioritized

/-- What a program can do between two updates. -/
inductive SystemAction where
  | addSystem (priority : NamedPriority)
  | removeSystem (number : Nat)

namespace SystemProgram

/-- Nothing has been done. -/
def start : SystemProgram :=
  ⟨SystemRegistry.create, 0, []⟩

/-- The transition relation of programs. -/
def step : Step SystemProgram SystemAction
  | program, .addSystem priority =>
      some
        { registry := program.registry.addSystem ⟨program.added, priority⟩
          added := program.added + 1
          live := program.live ++ [⟨program.added, priority⟩] }
  | program, .removeSystem number =>
      some
        { program with
          registry := program.registry.removeSystem (UInt32.ofNat number)
          live := program.live.filter fun system => system.number ≠ number }

/-- An update reaches each system once, from the highest to the lowest priority. -/
def InOrder (program : SystemProgram) : Prop :=
  ∀ order : BucketOrder,
    (program.registry.updated order).Perm program.live ∧
      (program.registry.updated order).Pairwise fun first second =>
        second.priority.intended ≤ first.priority.intended

/-- The identifier of a new system is not in use and its priority agrees with those that are
there, and what is found for a system to be removed is this system. -/
def Unconfused (program : SystemProgram) : SystemAction → Prop
  | .addSystem priority =>
      program.registry.find program.registry.nextSystemId = none ∧
        ∀ system ∈ program.live, system.priority.AgreeStrictly priority
  | .removeSystem number =>
      ∀ entry ∈ program.registry.find (UInt32.ofNat number), entry.2.number = number

end SystemProgram

/-- What is walked through in one order and in the reverse order is related both ways. -/
theorem of_pairwise_reverse {α : Type} {l : List α} {relation : α → α → Prop}
    (forward : l.Pairwise relation) (backward : l.reverse.Pairwise relation) {a b : α}
    (aMem : a ∈ l) (bMem : b ∈ l) (different : a ≠ b) : relation a b := by
  have both := forward.and (List.pairwise_reverse.mp backward)
  have : Std.Symm fun a b => relation a b ∧ relation b a := ⟨fun _ _ => And.symm⟩
  exact (both.forall aMem bMem different).1

namespace SystemRegistry

variable {registry : SystemRegistry} {live : List Prioritized}

/-- The systems of one priority in the order in which they were added. -/
def insertionOrder : BucketOrder :=
  ⟨id, List.Perm.refl⟩

/-- The systems of one priority, the newest first. -/
def reverseOrder : BucketOrder :=
  ⟨List.reverse, List.reverse_perm⟩

theorem updated_perm (registry : SystemRegistry) (order : BucketOrder) :
    (registry.updated order).Perm registry.systemsByPriority.invoked := by
  apply List.Perm.map
  apply List.Perm.flatMap_left
  intro row _
  exact order.perm row.2

/-- Systems are updated from the highest to the lowest priority if and only if different
priorities are compared as their levels are. -/
theorem pairwise_updated_iff
    (keyed : ∀ row ∈ registry.systemsByPriority.rows, ∀ entry ∈ row.2,
      entry.2.priority.code = row.1) :
    (∀ order, (registry.updated order).Pairwise fun first second =>
        second.priority.intended ≤ first.priority.intended) ↔
      ∀ first ∈ registry.systemsByPriority.invoked, ∀ second ∈ registry.systemsByPriority.invoked,
        first.priority.intended < second.priority.intended →
          first.priority.code < second.priority.code := by
  have descending : registry.systemsByPriority.rows.reverse.Pairwise fun higher lower =>
      lower.1 < higher.1 :=
    List.pairwise_reverse.mpr (List.pairwise_map.mp registry.systemsByPriority.sorted)
  constructor
  · intro ordered first firstMem second secondMem less
    rcases List.mem_map.mp firstMem with ⟨firstEntry, firstIn, rfl⟩
    rcases List.mem_map.mp secondMem with ⟨secondEntry, secondIn, rfl⟩
    rcases List.mem_flatMap.mp firstIn with ⟨firstRow, firstRowMem, firstIn⟩
    rcases List.mem_flatMap.mp secondIn with ⟨secondRow, secondRowMem, secondIn⟩
    have firstKey := keyed firstRow (List.mem_reverse.mp firstRowMem) firstEntry firstIn
    have secondKey := keyed secondRow (List.mem_reverse.mp secondRowMem) secondEntry secondIn
    have forward := List.pairwise_flatMap.mp (List.pairwise_map.mp (ordered insertionOrder))
    have backward := List.pairwise_flatMap.mp (List.pairwise_map.mp (ordered reverseOrder))
    by_contra notLess
    rcases Nat.lt_or_eq_of_le (Nat.le_of_not_lt notLess) with below | same
    · have across := (pairwise_iff_of_asymm descending fun _ _ => Nat.lt_asymm).mp forward.2
        firstRow firstRowMem secondRow secondRowMem (by rwa [← firstKey, ← secondKey])
      exact Int.not_le.mpr less (across firstEntry firstIn secondEntry secondIn)
    · have sameRow : firstRow = secondRow := by
        apply List.inj_on_of_nodup_map
          (registry.systemsByPriority.sorted.imp Nat.ne_of_lt)
          (List.mem_reverse.mp firstRowMem) (List.mem_reverse.mp secondRowMem)
        rw [← firstKey, ← secondKey, same]
      subst sameRow
      have different : firstEntry ≠ secondEntry := by
        rintro rfl
        exact Int.lt_irrefl _ less
      exact Int.not_le.mpr less
        (of_pairwise_reverse (forward.1 firstRow firstRowMem) (backward.1 firstRow firstRowMem)
          firstIn secondIn different)
  · intro agree order
    have inTable : ∀ row ∈ registry.systemsByPriority.rows, ∀ entry ∈ order.iterate row.2,
        entry.2 ∈ registry.systemsByPriority.invoked ∧ entry.2.priority.code = row.1 := by
      intro row rowMem entry mem
      have inRow := (order.perm row.2).mem_iff.mp mem
      refine ⟨List.mem_map_of_mem ?_, keyed row rowMem entry inRow⟩
      exact List.mem_flatMap.mpr ⟨row, List.mem_reverse.mpr rowMem, inRow⟩
    rw [updated, List.pairwise_map, List.pairwise_flatMap]
    constructor
    · intro row rowMem
      apply List.pairwise_of_forall_mem_list
      intro first firstMem second secondMem
      rcases inTable row (List.mem_reverse.mp rowMem) first firstMem with ⟨firstIn, firstKey⟩
      rcases inTable row (List.mem_reverse.mp rowMem) second secondMem with ⟨secondIn, secondKey⟩
      apply Int.not_lt.mp
      intro less
      exact Nat.ne_of_lt (agree _ firstIn _ secondIn less) (firstKey.trans secondKey.symm)
    · apply descending.imp_of_mem
      intro higher lower higherMem lowerMem below first firstMem second secondMem
      rcases inTable higher (List.mem_reverse.mp higherMem) first firstMem with ⟨firstIn, firstKey⟩
      rcases inTable lower (List.mem_reverse.mp lowerMem) second secondMem with
        ⟨secondIn, secondKey⟩
      apply Int.not_lt.mp
      intro less
      apply Nat.lt_asymm (agree _ firstIn _ secondIn less)
      rw [firstKey, secondKey]
      exact below

theorem find_id {id : SystemId} {entry : SystemEntry} (findEq : registry.find id = some entry) :
    entry.1 = id :=
  eq_of_beq (@List.find?_some _ (fun entry : SystemEntry => entry.1 == id) _ _ findEq)

theorem find_mem {id : SystemId} {entry : SystemEntry} (findEq : registry.find id = some entry) :
    entry ∈ registry.systems :=
  List.mem_of_find?_eq_some findEq

theorem find_eq_none_iff {id : SystemId} :
    registry.find id = none ↔ ∀ entry ∈ registry.systems, entry.1 ≠ id := by
  simp only [find, List.find?_eq_none, beq_iff_eq, ne_eq]

/-- Nothing appears in a table but what is put into it. -/
theorem mem_invoked_emplace {table : HandlerTable Prioritized} {priority : Priority}
    {entry : SystemEntry} {system : Prioritized}
    (mem : system ∈ (emplace table priority entry).invoked) :
    system ∈ table.invoked ∨ system = entry.2 := by
  unfold emplace at mem
  split at mem
  · exact Or.inl mem
  · rcases List.mem_map.mp mem with ⟨other, otherMem, rfl⟩
    rw [(table.entries_emplaceBack priority entry).mem_iff, List.mem_append,
      List.mem_singleton] at otherMem
    rcases otherMem with old | rfl
    · exact Or.inl (List.mem_map_of_mem old)
    · exact Or.inr rfl

end SystemRegistry

namespace SystemProgram

open SystemRegistry

variable {program next : SystemProgram} {action : SystemAction}

/-- What holds in every state as long as nothing was confused: the systems are in the rows of
their priorities, under the identifiers that were made from their numbers. -/
structure Sound (program : SystemProgram) : Prop where
  nextId : program.registry.nextSystemId = UInt32.ofNat program.added
  keyed : ∀ row ∈ program.registry.systemsByPriority.rows, ∀ entry ∈ row.2,
    entry.2.priority.code = row.1
  stored : program.registry.systems.Perm program.registry.systemsByPriority.entries
  ids : ∀ entry ∈ program.registry.systems, entry.1 = entry.2.id ∧ entry.2.number < program.added
  distinct : (program.registry.systems.map Prod.fst).Nodup

theorem start_sound : start.Sound where
  nextId := rfl
  keyed _ mem := absurd mem List.not_mem_nil
  stored := List.Perm.refl _
  ids _ mem := absurd mem List.not_mem_nil
  distinct := List.nodup_nil

theorem start_inOrder : start.InOrder :=
  fun _ => ⟨List.Perm.refl _, List.Pairwise.nil⟩

/-- The order of the systems as a condition on all pairs of them. -/
theorem inOrder_iff
    (keyed : ∀ row ∈ program.registry.systemsByPriority.rows, ∀ entry ∈ row.2,
      entry.2.priority.code = row.1) :
    program.InOrder ↔ program.registry.systemsByPriority.invoked.Perm program.live ∧
      ∀ first ∈ program.live, ∀ second ∈ program.live,
        first.priority.intended < second.priority.intended →
          first.priority.code < second.priority.code := by
  have pairs := pairwise_updated_iff keyed
  constructor
  · intro inOrder
    have perm : program.registry.systemsByPriority.invoked.Perm program.live :=
      (updated_perm _ insertionOrder).symm.trans (inOrder insertionOrder).1
    refine ⟨perm, fun first firstMem second secondMem => ?_⟩
    exact pairs.mp (fun order => (inOrder order).2) first (perm.mem_iff.mpr firstMem) second
      (perm.mem_iff.mpr secondMem)
  · rintro ⟨perm, agree⟩ order
    refine ⟨(updated_perm _ order).trans perm, pairs.mpr ?_ order⟩
    intro first firstMem second secondMem
    exact agree first (perm.mem_iff.mp firstMem) second (perm.mem_iff.mp secondMem)

theorem Sound.number_lt (sound : program.Sound) {system : Prioritized}
    (mem : system ∈ program.registry.systemsByPriority.invoked) :
    system.number < program.added := by
  rcases List.mem_map.mp mem with ⟨entry, entryMem, rfl⟩
  exact (sound.ids entry (sound.stored.mem_iff.mpr entryMem)).2

/-- A new system whose identifier is not in use. -/
theorem Sound.registry_addSystem (sound : program.Sound) (priority : NamedPriority)
    (unused : program.registry.find program.registry.nextSystemId = none) :
    program.registry.addSystem ⟨program.added, priority⟩ =
      { systems := program.registry.systems ++
          [(program.registry.nextSystemId, ⟨program.added, priority⟩)]
        systemsByPriority := program.registry.systemsByPriority.emplaceBack priority.code
          (program.registry.nextSystemId, ⟨program.added, priority⟩)
        nextSystemId := program.registry.nextSystemId + 1 } := by
  simp only [addSystem, unused, emplace]
  rw [if_neg]
  rw [List.any_eq_true]
  rintro ⟨row, rowMem, found⟩
  rcases List.any_eq_true.mp (Bool.and_eq_true_iff.mp found).2 with ⟨entry, entryMem, same⟩
  apply find_eq_none_iff.mp unused entry _ (eq_of_beq same)
  rw [sound.stored.mem_iff, (HandlerTable.entries_perm _).mem_iff]
  exact List.mem_flatMap.mpr ⟨row, rowMem, entryMem⟩

/-- What is left of a registry after removing a system that is there. -/
theorem Sound.registry_removeSystem (sound : program.Sound) {id : SystemId} {entry : SystemEntry}
    (findEq : program.registry.find id = some entry) :
    ∃ erased, program.registry.removeSystem id =
        { program.registry with
          systems := program.registry.systems.filter fun entry => entry.1 ≠ id
          systemsByPriority := erased } ∧
      program.registry.systemsByPriority.check id entry.2.priority.code = some erased ∧
      program.registry.systemsByPriority.entries.Perm (entry :: erased.entries) := by
  have inTable := sound.stored.mem_iff.mp (find_mem findEq)
  rcases List.mem_flatMap.mp ((HandlerTable.entries_perm _).mem_iff.mp inTable) with
    ⟨row, rowMem, inRow⟩
  rw [sound.keyed row rowMem entry inRow]
  rcases @HandlerTable.check_spec _ row id _ rowMem with
    ⟨found, erased, foundEq, checkEq, perm⟩ | ⟨absent, _⟩
  · have found_eq : found = entry := by
      apply List.inj_on_of_nodup_map sound.distinct
      · rw [sound.stored.mem_iff, perm.mem_iff]
        exact List.mem_cons_self
      · exact find_mem findEq
      · rw [find_id findEq]
        exact eq_of_beq (@List.find?_some _ (fun entry : SystemEntry => entry.1 == id) _ _ foundEq)
    refine ⟨erased, ?_, checkEq, found_eq ▸ perm⟩
    simp only [removeSystem, findEq, sound.keyed row rowMem entry inRow, checkEq, Option.getD_some]
  · exact absurd (beq_iff_eq.mpr (find_id findEq)) (List.find?_eq_none.mp absent entry inRow)

theorem Sound.step (sound : program.Sound)
    (unused : ∀ priority, action = .addSystem priority →
      program.registry.find program.registry.nextSystemId = none)
    (stepEq : SystemProgram.step program action = some next) : next.Sound := by
  cases action with
  | addSystem priority =>
      rw [← Option.some.inj stepEq]
      have absent := unused priority rfl
      simp only [sound.registry_addSystem priority absent]
      have newId : program.registry.nextSystemId =
          Prioritized.id ⟨program.added, priority⟩ := sound.nextId
      constructor
      · change program.registry.nextSystemId + 1 = _
        rw [sound.nextId, UInt32.ofNat_add]
        rfl
      · apply HandlerTable.of_mem_appendRow sound.keyed
        · intro entry mem
          rw [List.mem_singleton.mp mem]
        · intro row rowMem same entry mem
          rcases List.mem_append.mp mem with old | new
          · exact sound.keyed row rowMem entry old
          · rw [List.mem_singleton.mp new]
            exact same.symm
      · exact (sound.stored.append_right _).trans (HandlerTable.entries_emplaceBack _ _ _).symm
      · intro entry mem
        rw [List.mem_append, List.mem_singleton] at mem
        rcases mem with old | rfl
        · exact ⟨(sound.ids entry old).1, Nat.lt_succ_of_lt (sound.ids entry old).2⟩
        · exact ⟨newId, Nat.lt_succ_self _⟩
      · rw [List.map_append, List.map_singleton, List.nodup_append]
        refine ⟨sound.distinct, List.nodup_singleton _, ?_⟩
        intro first firstMem second secondMem same
        rcases List.mem_map.mp firstMem with ⟨entry, entryMem, rfl⟩
        rw [List.mem_singleton.mp secondMem] at same
        exact find_eq_none_iff.mp absent entry entryMem same
  | removeSystem number =>
      rw [← Option.some.inj stepEq]
      cases findEq : program.registry.find (UInt32.ofNat number) with
      | none =>
          simp only [removeSystem, findEq]
          exact ⟨sound.nextId, sound.keyed, sound.stored, sound.ids, sound.distinct⟩
      | some entry =>
          rcases sound.registry_removeSystem findEq with ⟨erased, registry_eq, checkEq, perm⟩
          simp only [registry_eq]
          refine ⟨sound.nextId, ?_, ?_, ?_, ?_⟩
          · apply HandlerTable.of_mem_check sound.keyed _ checkEq
            intro row rowMem other mem
            exact sound.keyed row rowMem other (List.mem_of_mem_eraseP mem)
          · have kept := (sound.stored.trans perm).filter fun other => other.1 ≠ UInt32.ofNat number
            have ids := ((sound.stored.trans perm).map Prod.fst).nodup_iff.mp sound.distinct
            rw [List.map_cons, List.nodup_cons, find_id findEq] at ids
            have others : erased.entries.filter (fun other => other.1 ≠ UInt32.ofNat number) =
                erased.entries := by
              apply List.filter_eq_self.mpr
              intro other mem
              apply decide_eq_true
              intro same
              exact ids.1 (List.mem_map.mpr ⟨other, mem, same⟩)
            rw [List.filter_cons_of_neg (by simp [find_id findEq]), others] at kept
            exact kept
          · intro other mem
            exact sound.ids other (List.mem_filter.mp mem).1
          · exact sound.distinct.sublist (List.filter_sublist.map _)

/-- A new system is not reached if its identifier is in use. -/
theorem Sound.not_inOrder_of_used (sound : program.Sound) {priority : NamedPriority}
    {present : SystemEntry}
    (used : program.registry.find program.registry.nextSystemId = some present)
    (stepEq : SystemProgram.step program (.addSystem priority) = some next) : ¬next.InOrder := by
  intro ordered
  have nextPerm := (updated_perm next.registry insertionOrder).symm.trans
    (ordered insertionOrder).1
  rw [← Option.some.inj stepEq] at nextPerm
  have newMem := nextPerm.mem_iff.mpr (List.mem_append_right _ (List.mem_singleton_self _))
  simp only [addSystem, used] at newMem
  rcases mem_invoked_emplace newMem with old | same
  · exact Nat.lt_irrefl _ (sound.number_lt old)
  · have lt := (sound.ids present (find_mem used)).2
    rw [← same] at lt
    exact Nat.lt_irrefl _ lt

/-- A new system is placed as it is to be updated if and only if its priority agrees with those
that are there. -/
theorem Sound.inOrder_addSystem_iff (sound : program.Sound) (inOrder : program.InOrder)
    {priority : NamedPriority}
    (unused : program.registry.find program.registry.nextSystemId = none)
    (stepEq : SystemProgram.step program (.addSystem priority) = some next) :
    next.InOrder ↔ ∀ system ∈ program.live, system.priority.AgreeStrictly priority := by
  rcases (inOrder_iff sound.keyed).mp inOrder with ⟨perm, agree⟩
  rw [inOrder_iff (sound.step (fun _ _ => unused) stepEq).keyed, ← Option.some.inj stepEq]
  simp only [sound.registry_addSystem priority unused]
  have placed := HandlerTable.invoked_emplaceBack program.registry.systemsByPriority
    program.registry.nextSystemId ⟨program.added, priority⟩
  constructor
  · rintro ⟨_, all⟩ system mem
    have oldMem := List.mem_append_left [⟨program.added, priority⟩] mem
    have newMem := List.mem_append_right program.live
      (List.mem_singleton_self ⟨program.added, priority⟩)
    exact ⟨all system oldMem _ newMem, all _ newMem system oldMem⟩
  · intro strictly
    refine ⟨placed.trans (perm.append_right _), ?_⟩
    intro first firstMem second secondMem less
    rw [List.mem_append, List.mem_singleton] at firstMem secondMem
    rcases firstMem with firstOld | rfl <;> rcases secondMem with secondOld | rfl
    · exact agree first firstOld second secondOld less
    · exact (strictly first firstOld).1 less
    · exact (strictly second secondOld).2 less
    · exact absurd less (Int.lt_irrefl _)

/-- The right system is removed if and only if it is the one that is found, or none is. -/
theorem Sound.inOrder_removeSystem_iff (sound : program.Sound) (inOrder : program.InOrder)
    {number : Nat} (stepEq : SystemProgram.step program (.removeSystem number) = some next) :
    next.InOrder ↔
      ∀ entry ∈ program.registry.find (UInt32.ofNat number), entry.2.number = number := by
  rcases (inOrder_iff sound.keyed).mp inOrder with ⟨perm, agree⟩
  rw [inOrder_iff (sound.step (fun _ isAdd => by cases isAdd) stepEq).keyed,
    ← Option.some.inj stepEq]
  cases findEq : program.registry.find (UInt32.ofNat number) with
  | none =>
      simp only [findEq, removeSystem, Option.not_mem_none, false_implies, implies_true, iff_true]
      rw [List.filter_eq_self.mpr]
      · exact ⟨perm, agree⟩
      · intro system mem
        apply decide_eq_true
        rintro rfl
        rcases List.mem_map.mp (perm.mem_iff.mpr mem) with ⟨entry, entryMem, rfl⟩
        have stored := sound.stored.mem_iff.mpr entryMem
        exact find_eq_none_iff.mp findEq entry stored (sound.ids entry stored).1
  | some entry =>
      rcases sound.registry_removeSystem findEq with ⟨erased, registry_eq, _, takenOut⟩
      simp only [registry_eq]
      have stored := sound.stored.trans takenOut
      have ids := (stored.map Prod.fst).nodup_iff.mp sound.distinct
      rw [List.map_cons, List.nodup_cons] at ids
      have alone : ∀ other ∈ erased.invoked, other.number ≠ entry.2.number := by
        intro other mem same
        rcases List.mem_map.mp mem with ⟨otherEntry, otherMem, rfl⟩
        have otherId :=
          (sound.ids otherEntry (stored.mem_iff.mpr (List.mem_cons_of_mem _ otherMem))).1
        have entryId := (sound.ids entry (stored.mem_iff.mpr List.mem_cons_self)).1
        apply ids.1
        rw [entryId, Prioritized.id, ← same, ← Prioritized.id, ← otherId]
        exact List.mem_map_of_mem otherMem
      have taken : program.registry.systemsByPriority.invoked.Perm (entry.2 :: erased.invoked) :=
        takenOut.map Prod.snd
      rw [Prioritized.perm_filter_iff perm taken alone]
      simp only [Option.mem_some_iff, forall_eq', and_iff_left_iff_imp]
      intro _ first firstMem second secondMem
      exact agree first (List.mem_filter.mp firstMem).1 second (List.mem_filter.mp secondMem).1

/-- A step keeps the systems in order if and only if it confuses none. -/
theorem Sound.inOrder_step_iff (sound : program.Sound) (inOrder : program.InOrder)
    (stepEq : SystemProgram.step program action = some next) :
    next.InOrder ↔ program.Unconfused action := by
  cases action with
  | addSystem priority =>
      cases unused : program.registry.find program.registry.nextSystemId with
      | some present =>
          simp only [Unconfused, unused, reduceCtorEq, false_and, iff_false]
          exact sound.not_inOrder_of_used unused stepEq
      | none =>
          simp only [Unconfused, unused, true_and]
          exact sound.inOrder_addSystem_iff inOrder unused stepEq
  | removeSystem number => exact sound.inOrder_removeSystem_iff inOrder stepEq

/-- The systems are updated in order in every state of a program if and only if it never
confuses any. -/
theorem inOrder_throughout_iff (actions : List SystemAction) :
    (∀ before after program, actions = before ++ after → run step start before = some program →
        program.InOrder) ↔
      Guarded step Unconfused start actions := by
  have possible := @exists_run _ _ step (fun _ _ => True) (fun _ => True)
    (fun program action _ _ => by cases action <;> exact ⟨_, rfl, trivial⟩)
    start actions trivial (guarded_true _ _ _)
  rcases possible with ⟨_, runEq, _⟩
  refine kept_throughout_iff_guarded ?_
    (fun _ _ _ sound inOrder stepEq => sound.inOrder_step_iff inOrder stepEq)
    start_sound start_inOrder runEq
  rintro program action next sound _ unconfused stepEq
  apply sound.step _ stepEq
  rintro priority rfl
  exact unconfused.1

end SystemProgram

/-- The handlers of a dispatcher are invoked in order, and the systems of a registry updated in
order, in every state of a program if and only if the program confuses none of them. -/
theorem invokedInOrder_iff {T : Type} [DecidableEq T] (handlerActions : List (PrioritizedAction T))
    (systemActions : List SystemAction) :
    ((∀ before after program, handlerActions = before ++ after →
        run PrioritizedProgram.step PrioritizedProgram.start before = some program →
          program.InOrder) ↔
      Guarded PrioritizedProgram.step PrioritizedProgram.Unconfused PrioritizedProgram.start
        handlerActions) ∧
    ((∀ before after program, systemActions = before ++ after →
        run SystemProgram.step SystemProgram.start before = some program → program.InOrder) ↔
      Guarded SystemProgram.step SystemProgram.Unconfused SystemProgram.start systemActions) :=
  ⟨PrioritizedProgram.inOrder_throughout_iff handlerActions,
    SystemProgram.inOrder_throughout_iff systemActions⟩

/-- A handler of the lowest level is invoked before one of the normal level. -/
theorem lowest_invoked_first :
    ∃ program : PrioritizedProgram Unit,
      run PrioritizedProgram.step PrioritizedProgram.start
          [.addHandler () ⟨.lowest, 0⟩, .addHandler () ⟨.normal, 0⟩] = some program ∧
        (program.dispatcher.handlers ()).invoked =
          [⟨0, ⟨.lowest, 0⟩⟩, ⟨1, ⟨.normal, 0⟩⟩] ∧
        ¬program.InOrder := by
  refine ⟨_, rfl, by decide, ?_⟩
  intro inOrder
  have before := (List.pairwise_cons.mp (inOrder ()).2).1 ⟨1, ⟨.normal, 0⟩⟩ (by decide)
  rcases before with less | ⟨same, _⟩
  · exact absurd less (by decide)
  · exact absurd same (by decide)

end VoxelEngine.Ecs
