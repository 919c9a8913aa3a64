import VoxelEngine.Event.HandlerTable

/-!
# Named priorities

The named levels of priorities are spread around zero, but a priority is an unsigned number of
16 bits.  This file compares the order of the levels with that of the numbers, and supplies
what the rows of a table say about the order in which its handlers are invoked.
-/

namespace VoxelEngine.Event

/-- The levels that `ve::priority` names. -/
inductive PriorityLevel where
  | lowest
  | low
  | normal
  | high
  | highest
  deriving DecidableEq

namespace PriorityLevel

/-- The number that is written for a level. -/
def number : PriorityLevel → Int
  | lowest => -10000
  | low => -1000
  | normal => 0
  | high => 1000
  | highest => 10000

/-- The constants of `ve::priority`, which have the type `u16`. -/
def value (level : PriorityLevel) : UInt16 :=
  UInt16.ofInt level.number

end PriorityLevel

/-- A priority that is written as a level plus an offset. -/
structure NamedPriority where
  level : PriorityLevel
  offset : Int
  deriving DecidableEq

namespace NamedPriority

/-- The priority in the order in which the levels are named. -/
def intended (priority : NamedPriority) : Int :=
  priority.level.number + priority.offset

/-- The priority that is passed on: the sum is converted to `u16`. -/
def code (priority : NamedPriority) : Nat :=
  (((priority.level.value.toNat : Int) + priority.offset) % 65536).toNat

/-- Two priorities, of which the first is taken first, are compared as their levels are. -/
def Agree (older newer : NamedPriority) : Prop :=
  older.code < newer.code ↔ older.intended < newer.intended

instance (older newer : NamedPriority) : Decidable (older.Agree newer) :=
  inferInstanceAs (Decidable (_ ↔ _))

/-- Different priorities are compared as their levels are. -/
def AgreeStrictly (older newer : NamedPriority) : Prop :=
  (older.intended < newer.intended → older.code < newer.code) ∧
    (newer.intended < older.intended → newer.code < older.code)

instance (older newer : NamedPriority) : Decidable (older.AgreeStrictly newer) :=
  inferInstanceAs (Decidable (_ ∧ _))

theorem code_eq (priority : NamedPriority) : (priority.code : Int) = priority.intended % 65536 := by
  have value_eq : ((priority.level.value.toNat : Int)) % 65536 = priority.level.number % 65536 := by
    cases priority.level <;> rfl
  unfold code intended
  omega

/-- The level that is named lowest comes before the normal one. -/
example : (NamedPriority.mk .normal 0).code < (NamedPriority.mk .lowest 0).code := by decide

end NamedPriority

/-- What is added with a priority, numbered in the order of additions. -/
structure Prioritized where
  number : Nat
  priority : NamedPriority
  deriving DecidableEq

namespace Prioritized

/-- The identifier that was handed out for it. -/
def id (added : Prioritized) : RawHandler :=
  UInt32.ofNat added.number

/-- It is to be invoked before another one. -/
def Before (first second : Prioritized) : Prop :=
  second.priority.intended < first.priority.intended ∨
    first.priority.intended = second.priority.intended ∧ first.number < second.number

/-- It comes before another one in a table. -/
def CodeBefore (first second : Prioritized) : Prop :=
  second.priority.code < first.priority.code ∨
    first.priority.code = second.priority.code ∧ first.number < second.number

theorem CodeBefore.asymm {first second : Prioritized} (before : first.CodeBefore second) :
    ¬second.CodeBefore first := by
  unfold CodeBefore at before ⊢
  omega

/-- The newest one is placed as it is to be invoked if and only if the priorities agree. -/
theorem agree_iff {older newer : Prioritized} (later : older.number < newer.number) :
    older.priority.Agree newer.priority ↔
      (older.CodeBefore newer → older.Before newer) ∧
        (newer.CodeBefore older → newer.Before older) := by
  unfold NamedPriority.Agree CodeBefore Before
  omega

/-- What is left after taking one out is all but a given number if and only if the right one was
taken out. -/
theorem perm_filter_iff {all live rest : List Prioritized} {found : Prioritized}
    (perm : all.Perm live) (takenOut : all.Perm (found :: rest))
    (alone : ∀ other ∈ rest, other.number ≠ found.number) (number : Nat) :
    rest.Perm (live.filter fun other => other.number ≠ number) ↔ found.number = number := by
  constructor
  · intro kept
    by_contra different
    have foundLive : found ∈ live := perm.mem_iff.mp (takenOut.mem_iff.mpr List.mem_cons_self)
    have left : found ∈ live.filter fun other => other.number ≠ number :=
      List.mem_filter.mpr
        ⟨foundLive, decide_eq_true different⟩
    exact alone found (kept.mem_iff.mpr left) rfl
  · rintro rfl
    have others : rest.filter (fun other => other.number ≠ found.number) = rest :=
      List.filter_eq_self.mpr fun other mem => decide_eq_true (alone other mem)
    have split := (perm.symm.trans takenOut).filter fun other => other.number ≠ found.number
    rw [List.filter_cons_of_neg (by simp), others] at split
    exact split.symm

end Prioritized

/-- In a list that is ordered by one relation, another one holds of all pairs in their order if
and only if it follows from the first. -/
theorem pairwise_iff_of_asymm {α : Type} {l : List α} {order relation : α → α → Prop}
    (sorted : l.Pairwise order) (asymm : ∀ a b, order a b → ¬order b a) :
    l.Pairwise relation ↔ ∀ a ∈ l, ∀ b ∈ l, order a b → relation a b := by
  induction sorted with
  | nil => simp
  | @cons head tail first _ ih =>
      rw [List.pairwise_cons, ih]
      constructor
      · rintro ⟨ofHead, ofTail⟩ a aMem b bMem before
        rcases List.mem_cons.mp aMem with rfl | aTail
        · rcases List.mem_cons.mp bMem with rfl | bTail
          · exact absurd before (asymm _ _ before)
          · exact ofHead b bTail
        · rcases List.mem_cons.mp bMem with rfl | bTail
          · exact absurd before (asymm _ _ (first a aTail))
          · exact ofTail a aTail b bTail before
      · intro implied
        constructor
        · intro b bMem
          exact implied head List.mem_cons_self b (List.mem_cons_of_mem _ bMem) (first b bMem)
        · intro a aMem b bMem
          exact implied a (List.mem_cons_of_mem _ aMem) b (List.mem_cons_of_mem _ bMem)

namespace HandlerTable

variable {H : Type} {rows checked : List (HandlerRow H)} {row : HandlerRow H}
  {holds : HandlerRow H → Prop} {priority : Priority} {entry : HandlerEntry H} {id : RawHandler}

/-- A row of the table after an addition is an old row, or the one that was added to. -/
theorem of_mem_appendRow (each : ∀ row ∈ rows, holds row) (made : holds (priority, [entry]))
    (extended : ∀ row ∈ rows, row.1 = priority → holds (row.1, row.2 ++ [entry])) :
    ∀ row ∈ appendRow priority entry rows, holds row := by
  induction rows with
  | nil =>
      intro row mem
      rw [List.mem_singleton.mp mem]
      exact made
  | cons first rest ih =>
      rw [List.forall_mem_cons] at each extended
      unfold appendRow
      split
      · rw [List.forall_mem_cons, List.forall_mem_cons]
        exact ⟨made, each⟩
      · split
        · rename_i same
          rw [List.forall_mem_cons]
          exact ⟨extended.1 same.symm, each.2⟩
        · rw [List.forall_mem_cons]
          exact ⟨each.1, ih each.2 extended.2⟩

/-- A row of the table after a removal is an old row, or the one from which was removed. -/
theorem of_mem_checkRow (each : ∀ row ∈ rows, holds row)
    (shortened : ∀ row ∈ rows, holds (row.1, row.2.eraseP fun entry => entry.1 == id))
    (checkEq : checkRow id priority rows = some checked) : ∀ row ∈ checked, holds row := by
  induction rows generalizing checked with
  | nil => cases checkEq
  | cons first rest ih =>
      rw [List.forall_mem_cons] at each shortened
      unfold checkRow at checkEq
      split at checkEq
      · split at checkEq
        · rw [← Option.some.inj checkEq, List.forall_mem_cons]
          exact ⟨shortened.1, each.2⟩
        · cases checkEq
      · rcases Option.map_eq_some_iff.mp checkEq with ⟨tail, tailEq, rfl⟩
        rw [List.forall_mem_cons]
        exact ⟨each.1, ih each.2 shortened.2 tailEq⟩

theorem of_mem_check {table erased : HandlerTable H} (each : ∀ row ∈ table.rows, holds row)
    (shortened : ∀ row ∈ table.rows, holds (row.1, row.2.eraseP fun entry => entry.1 == id))
    (checkEq : table.check id priority = some erased) : ∀ row ∈ erased.rows, holds row :=
  of_mem_checkRow each shortened (check_eq_some checkEq)

theorem of_mem_erase {table : HandlerTable H} (each : ∀ row ∈ table.rows, holds row)
    (shortened : ∀ row ∈ table.rows, holds (row.1, row.2.eraseP fun entry => entry.1 == id)) :
    ∀ row ∈ (table.erase id).rows, holds row := by
  unfold erase
  split
  · rename_i checkEq
    exact of_mem_check each shortened checkEq
  · cases others : ((table.rows.map Prod.fst).filter fun priority => priority ≠ 0).findSome?
        (table.check id) with
    | none => exact each
    | some erased =>
        rcases List.exists_of_findSome?_eq_some others with ⟨_, _, checkEq⟩
        exact of_mem_check each shortened checkEq

/-- The handlers in the order in which `erase` looks at them. -/
def searched (table : HandlerTable H) : List (HandlerEntry H) :=
  ((table.rows.filter fun row => row.1 = 0) ++
    table.rows.filter fun row => row.1 ≠ 0).flatMap Prod.snd

/-- The handler that `erase` takes out. -/
def find (table : HandlerTable H) (id : RawHandler) : Option (HandlerEntry H) :=
  table.searched.find? fun entry => entry.1 == id

theorem mem_searched {table : HandlerTable H} :
    entry ∈ table.searched ↔ entry ∈ table.entries := by
  rw [(entries_perm table).mem_iff]
  simp only [searched, List.mem_flatMap, List.mem_append, List.mem_filter, decide_eq_true_eq]
  constructor
  · rintro ⟨row, ⟨rowMem, _⟩ | ⟨rowMem, _⟩, mem⟩ <;> exact ⟨row, rowMem, mem⟩
  · rintro ⟨row, rowMem, mem⟩
    by_cases default : row.1 = 0
    · exact ⟨row, Or.inl ⟨rowMem, default⟩, mem⟩
    · exact ⟨row, Or.inr ⟨rowMem, default⟩, mem⟩

theorem find_eq_none_iff {table : HandlerTable H} :
    table.find id = none ↔ ∀ entry ∈ table.entries, entry.1 ≠ id := by
  simp only [find, List.find?_eq_none, mem_searched, beq_iff_eq, ne_eq]

/-- Looking for a handler in one row either finds the first with the identifier, or none. -/
theorem checkRow_spec (sorted : (rows.map Prod.fst).Pairwise (· < ·)) (rowMem : row ∈ rows) :
    (∃ entry checked, row.2.find? (fun entry => entry.1 == id) = some entry ∧
        checkRow id row.1 rows = some checked ∧
        (rows.flatMap Prod.snd).Perm (entry :: checked.flatMap Prod.snd)) ∨
      row.2.find? (fun entry => entry.1 == id) = none ∧ checkRow id row.1 rows = none := by
  induction rows with
  | nil => cases rowMem
  | cons first rest ih =>
      rw [List.map_cons, List.pairwise_cons] at sorted
      rcases List.mem_cons.mp rowMem with rfl | later
      · rw [checkRow, if_pos rfl]
        cases found : row.2.find? fun entry => entry.1 == id with
        | none =>
            right
            refine ⟨rfl, if_neg ?_⟩
            rw [List.any_eq_true]
            rintro ⟨entry, mem, same⟩
            exact List.find?_eq_none.mp found entry mem same
        | some entry =>
            left
            rcases List.find?_eq_some_iff_append.mp found with ⟨same, before, after, rowEq, absent⟩
            refine ⟨entry, _, rfl, if_pos ?_, ?_⟩
            · exact List.any_eq_true.mpr ⟨entry, List.mem_of_find?_eq_some found, same⟩
            · have erased : row.2.eraseP (fun entry => entry.1 == id) = before ++ after := by
                rw [rowEq, List.eraseP_append_right, List.eraseP_cons, same, cond_true]
                intro other mem
                simpa using absent other mem
              rw [List.flatMap_cons, List.flatMap_cons, erased, rowEq]
              exact List.Perm.append_right _ List.perm_middle
      · have different : first.1 ≠ row.1 :=
          Nat.ne_of_lt (sorted.1 row.1 (List.mem_map_of_mem later))
        rw [checkRow, if_neg different]
        rcases ih sorted.2 later with ⟨entry, checked, found, checkEq, perm⟩ | ⟨absent, checkEq⟩
        · left
          refine ⟨entry, first :: checked, found, by rw [checkEq, Option.map_some], ?_⟩
          rw [List.flatMap_cons, List.flatMap_cons]
          exact (perm.append_left _).trans List.perm_middle
        · right
          exact ⟨absent, by rw [checkEq, Option.map_none]⟩

theorem check_spec {table : HandlerTable H} (rowMem : row ∈ table.rows) :
    (∃ entry erased, row.2.find? (fun entry => entry.1 == id) = some entry ∧
        table.check id row.1 = some erased ∧ table.entries.Perm (entry :: erased.entries)) ∨
      row.2.find? (fun entry => entry.1 == id) = none ∧ table.check id row.1 = none := by
  cases checkEq : table.check id row.1 with
  | none =>
      right
      rcases checkRow_spec table.sorted rowMem with ⟨_, _, _, found, _⟩ | ⟨absent, _⟩
      · rw [check_eq_none checkEq] at found
        cases found
      · exact ⟨absent, rfl⟩
  | some erased =>
      left
      rcases checkRow_spec table.sorted rowMem with ⟨entry, checked, found, rowEq, perm⟩ | ⟨_, absent⟩
      · rw [check_eq_some checkEq] at rowEq
        refine ⟨entry, erased, found, rfl, ?_⟩
        rw [← Option.some.inj rowEq] at perm
        exact ((entries_perm table).trans perm).trans ((entries_perm erased).symm.cons entry)
      · rw [check_eq_some checkEq] at absent
        cases absent

/-- Looking through some rows of a table, one after the other. -/
theorem findSome?_check_spec {table : HandlerTable H} {some_rows : List (HandlerRow H)}
    (subset : ∀ row ∈ some_rows, row ∈ table.rows) :
    (∃ entry erased, (some_rows.flatMap Prod.snd).find? (fun entry => entry.1 == id) = some entry ∧
        (some_rows.map Prod.fst).findSome? (table.check id) = some erased ∧
        table.entries.Perm (entry :: erased.entries)) ∨
      (some_rows.flatMap Prod.snd).find? (fun entry => entry.1 == id) = none ∧
        (some_rows.map Prod.fst).findSome? (table.check id) = none := by
  induction some_rows with
  | nil => exact Or.inr ⟨rfl, rfl⟩
  | cons first rest ih =>
      rw [List.forall_mem_cons] at subset
      rw [List.flatMap_cons, List.find?_append, List.map_cons, List.findSome?_cons]
      rcases check_spec subset.1 with ⟨entry, erased, found, checkEq, perm⟩ | ⟨absent, checkEq⟩
      · rw [found, checkEq]
        exact Or.inl ⟨entry, erased, rfl, rfl, perm⟩
      · rw [absent, checkEq]
        exact ih subset.2

theorem findSome?_default (table : HandlerTable H) (id : RawHandler) :
    ((table.rows.filter fun row => row.1 = 0).map Prod.fst).findSome? (table.check id) =
      table.check id 0 := by
  have zero : ∀ key ∈ (table.rows.filter fun row => row.1 = 0).map Prod.fst, key = 0 := by
    intro key mem
    rcases List.mem_map.mp mem with ⟨row, rowMem, rfl⟩
    exact of_decide_eq_true (List.mem_filter.mp rowMem).2
  cases checkEq : table.check id 0 with
  | none =>
      apply List.findSome?_eq_none_iff.mpr
      intro key mem
      rw [zero key mem, checkEq]
  | some erased =>
      cases keysEq : (table.rows.filter fun row => row.1 = 0).map Prod.fst with
      | nil =>
          have absent : ∀ row ∈ table.rows, row.1 ≠ 0 := by
            intro row rowMem isZero
            apply @List.not_mem_nil _ row.1
            rw [← keysEq]
            exact List.mem_map_of_mem (List.mem_filter.mpr ⟨rowMem, decide_eq_true isZero⟩)
          cases (check_eq_some checkEq).symm.trans (checkRow_eq_none absent)
      | cons key rest =>
          rw [List.findSome?_cons, zero key (by rw [keysEq]; exact List.mem_cons_self), checkEq]

/-- Erasing takes out the handler that is found first. -/
theorem erase_spec (table : HandlerTable H) (id : RawHandler) :
    (∃ entry, table.find id = some entry ∧
        table.entries.Perm (entry :: (table.erase id).entries)) ∨
      table.find id = none ∧ table.erase id = table := by
  have keys : (table.rows.map Prod.fst).filter (fun priority => priority ≠ 0) =
      (table.rows.filter fun row => row.1 ≠ 0).map Prod.fst :=
    List.filter_map
  unfold find searched erase
  rw [List.flatMap_append, List.find?_append, keys]
  have first := @findSome?_check_spec _ id table (table.rows.filter fun row => row.1 = 0)
    fun row mem => (List.mem_filter.mp mem).1
  rw [findSome?_default] at first
  rcases first with ⟨entry, erased, found, checkEq, perm⟩ | ⟨absent, checkEq⟩
  · rw [found, checkEq]
    exact Or.inl ⟨entry, rfl, perm⟩
  · rw [absent, checkEq]
    rcases @findSome?_check_spec _ id table (table.rows.filter fun row => row.1 ≠ 0)
        fun row mem => (List.mem_filter.mp mem).1 with
      ⟨entry, erased, found, othersEq, perm⟩ | ⟨others, othersEq⟩
    · rw [found, othersEq]
      exact Or.inl ⟨entry, rfl, perm⟩
    · rw [others, othersEq]
      exact Or.inr ⟨rfl, rfl⟩

/-- The handlers are invoked in the order of their keys, and those of one row in the order in
which they are there. -/
theorem pairwise_entries {key : H → Priority} {order : HandlerEntry H → HandlerEntry H → Prop}
    {table : HandlerTable H}
    (each : ∀ row ∈ table.rows, (∀ entry ∈ row.2, key entry.2 = row.1) ∧ row.2.Pairwise order) :
    table.entries.Pairwise fun first second =>
      key second.2 < key first.2 ∨ key first.2 = key second.2 ∧ order first second := by
  unfold entries
  rw [List.pairwise_flatMap]
  constructor
  · intro row rowMem
    rcases each row (List.mem_reverse.mp rowMem) with ⟨keyed, ordered⟩
    apply ordered.imp_of_mem
    intro first second firstMem secondMem before
    exact Or.inr ⟨(keyed first firstMem).trans (keyed second secondMem).symm, before⟩
  · rw [List.pairwise_reverse]
    apply (List.pairwise_map.mp table.sorted).imp_of_mem
    intro lower higher lowerMem higherMem less first firstMem second secondMem
    left
    rw [(each lower lowerMem).1 second secondMem, (each higher higherMem).1 first firstMem]
    exact less

end HandlerTable

end VoxelEngine.Event
