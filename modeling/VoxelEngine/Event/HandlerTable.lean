import Mathlib.Data.List.Nodup
import Mathlib.Data.List.Perm.Basic
import Mathlib.Logic.Function.Basic

/-!
# Tables of event handlers

The handlers of one type of events are kept by priority, and for each priority in the
order in which they were added.  What a table contains is described up to the order by
permutations, and with the order by one list of handlers, to which handlers are added and
from which they are removed without any rows.
-/

namespace VoxelEngine.Event

/-- `event_handler_id_t` -/
abbrev RawHandler := UInt32

/-- The priorities of handlers, of which only the order matters. -/
abbrev Priority := Nat

/-- A handler and its identifier. -/
abbrev HandlerEntry (H : Type) := RawHandler × H

/-- The handlers of one priority. -/
abbrev HandlerRow (H : Type) := Priority × List (HandlerEntry H)

/-- `vec_map<Priority, std::vector<std::pair<raw_handler, handler_t<Event>>>>` -/
structure HandlerTable (H : Type) where
  rows : List (HandlerRow H)
  sorted : (rows.map Prod.fst).Pairwise (· < ·)

namespace HandlerTable

variable {H : Type}

/-- A table without handlers. -/
def empty : HandlerTable H :=
  ⟨[], List.Pairwise.nil⟩

/-- The handlers in the order in which they are invoked. -/
def entries (table : HandlerTable H) : List (HandlerEntry H) :=
  table.rows.reverse.flatMap Prod.snd

/-- Append a handler to the row of its priority, which is made if there is none. -/
def appendRow (priority : Priority) (entry : HandlerEntry H) :
    List (HandlerRow H) → List (HandlerRow H)
  | [] => [(priority, [entry])]
  | row :: rest =>
      if priority < row.1 then (priority, [entry]) :: row :: rest
      else if priority = row.1 then (row.1, row.2 ++ [entry]) :: rest
      else row :: appendRow priority entry rest

@[simp]
theorem mem_keys_appendRow {priority : Priority} {entry : HandlerEntry H}
    {rows : List (HandlerRow H)} {key : Priority} :
    key ∈ (appendRow priority entry rows).map Prod.fst ↔
      key = priority ∨ key ∈ rows.map Prod.fst := by
  induction rows with
  | nil => simp [appendRow]
  | cons row rest ih =>
      unfold appendRow
      split
      · simp
      · split
        · rename_i same
          simp [same]
        · rw [List.map_cons, List.mem_cons, ih, List.map_cons, List.mem_cons]
          exact or_left_comm

theorem sorted_appendRow (priority : Priority) (entry : HandlerEntry H)
    {rows : List (HandlerRow H)} (sorted : (rows.map Prod.fst).Pairwise (· < ·)) :
    ((appendRow priority entry rows).map Prod.fst).Pairwise (· < ·) := by
  induction rows with
  | nil => exact List.pairwise_singleton _ _
  | cons row rest ih =>
      rw [List.map_cons, List.pairwise_cons] at sorted
      unfold appendRow
      split
      · rename_i before
        rw [List.map_cons, List.pairwise_cons, List.map_cons, List.pairwise_cons]
        refine ⟨?_, sorted⟩
        intro key mem
        rcases List.mem_cons.mp mem with rfl | later
        · exact before
        · exact Nat.lt_trans before (sorted.1 key later)
      · rename_i notBefore
        split
        · exact List.pairwise_cons.mpr sorted
        · rename_i different
          rw [List.map_cons, List.pairwise_cons]
          refine ⟨?_, ih sorted.2⟩
          intro key mem
          rcases mem_keys_appendRow.mp mem with rfl | later
          · exact Nat.lt_of_le_of_ne (Nat.le_of_not_lt notBefore) (Ne.symm different)
          · exact sorted.1 key later

/-- `handlers[p].emplace_back` -/
def emplaceBack (table : HandlerTable H) (priority : Priority) (entry : HandlerEntry H) :
    HandlerTable H :=
  ⟨appendRow priority entry table.rows, sorted_appendRow priority entry table.sorted⟩

/-- Look for a handler in the row of one priority, and erase it there. -/
def checkRow (id : RawHandler) (priority : Priority) :
    List (HandlerRow H) → Option (List (HandlerRow H))
  | [] => none
  | row :: rest =>
      if row.1 = priority then
        if row.2.any fun entry => entry.1 == id then
          some ((row.1, row.2.eraseP fun entry => entry.1 == id) :: rest)
        else none
      else (checkRow id priority rest).map fun checked => row :: checked

theorem keys_checkRow {id : RawHandler} {priority : Priority} {rows checked : List (HandlerRow H)}
    (checkEq : checkRow id priority rows = some checked) :
    checked.map Prod.fst = rows.map Prod.fst := by
  induction rows generalizing checked with
  | nil => cases checkEq
  | cons row rest ih =>
      unfold checkRow at checkEq
      split at checkEq
      · split at checkEq
        · rw [← Option.some.inj checkEq]
          rfl
        · cases checkEq
      · rcases Option.map_eq_some_iff.mp checkEq with ⟨tail, tailEq, rfl⟩
        rw [List.map_cons, List.map_cons, ih tailEq]

/-- The lambda `check` of `erase`. -/
def check (table : HandlerTable H) (id : RawHandler) (priority : Priority) :
    Option (HandlerTable H) :=
  match checkEq : checkRow id priority table.rows with
  | some rows => some ⟨rows, keys_checkRow checkEq ▸ table.sorted⟩
  | none => none

/-- `handler_data::erase`, which looks at the default priority first. -/
def erase (table : HandlerTable H) (id : RawHandler) : HandlerTable H :=
  match table.check id 0 with
  | some erased => erased
  | none =>
      (((table.rows.map Prod.fst).filter fun priority => priority ≠ 0).findSome?
        (table.check id)).getD table

@[simp]
theorem entries_empty : (empty : HandlerTable H).entries = [] :=
  rfl

theorem entries_perm (table : HandlerTable H) :
    table.entries.Perm (table.rows.flatMap Prod.snd) :=
  (List.reverse_perm table.rows).flatMap_right _

/-- Adding a handler adds just this one. -/
theorem entries_emplaceBack (table : HandlerTable H) (priority : Priority)
    (entry : HandlerEntry H) :
    (table.emplaceBack priority entry).entries.Perm (table.entries ++ [entry]) := by
  have rows : ∀ rows : List (HandlerRow H),
      ((appendRow priority entry rows).flatMap Prod.snd).Perm
        (rows.flatMap Prod.snd ++ [entry]) := by
    intro rows
    induction rows with
    | nil => exact List.Perm.refl _
    | cons row rest ih =>
        unfold appendRow
        split
        · exact (List.perm_append_singleton entry _).symm
        · split
          · rw [List.flatMap_cons, List.flatMap_cons, List.append_assoc, List.append_assoc]
            exact List.Perm.append_left _ List.perm_append_comm
          · rw [List.flatMap_cons, List.flatMap_cons, List.append_assoc]
            exact List.Perm.append_left _ ih
  exact ((entries_perm _).trans (rows table.rows)).trans
    ((entries_perm table).symm.append_right [entry])

/-- A handler that is found is taken out. -/
theorem flatMap_checkRow {id : RawHandler} {priority : Priority}
    {rows checked : List (HandlerRow H)} (checkEq : checkRow id priority rows = some checked) :
    ∃ handler, (rows.flatMap Prod.snd).Perm ((id, handler) :: checked.flatMap Prod.snd) := by
  induction rows generalizing checked with
  | nil => cases checkEq
  | cons row rest ih =>
      unfold checkRow at checkEq
      split at checkEq
      · split at checkEq
        · rename_i found
          rcases List.any_eq_true.mp found with ⟨entry, mem, same⟩
          have erasable := @List.exists_of_eraseP _ (fun entry : HandlerEntry H => entry.1 == id)
            row.2 entry mem same
          rcases erasable with ⟨⟨other, handler⟩, before, after, _, otherEq, rowEq, erasedEq⟩
          have idEq : other = id := eq_of_beq otherEq
          rw [← Option.some.inj checkEq]
          refine ⟨handler, ?_⟩
          rw [List.flatMap_cons, List.flatMap_cons, erasedEq, rowEq, idEq]
          exact List.Perm.append_right _ List.perm_middle
        · cases checkEq
      · rcases Option.map_eq_some_iff.mp checkEq with ⟨tail, tailEq, rfl⟩
        rcases ih tailEq with ⟨handler, perm⟩
        refine ⟨handler, ?_⟩
        rw [List.flatMap_cons, List.flatMap_cons]
        exact (List.Perm.append_left _ perm).trans List.perm_middle

/-- A handler that is not found with the priority of any row is not there. -/
theorem absent_of_checkRow {id : RawHandler} {rows : List (HandlerRow H)}
    (sorted : (rows.map Prod.fst).Pairwise (· < ·))
    (notFound : ∀ row ∈ rows, checkRow id row.1 rows = none) :
    ∀ entry ∈ rows.flatMap Prod.snd, entry.1 ≠ id := by
  induction rows with
  | nil => simp
  | cons row rest ih =>
      rw [List.map_cons, List.pairwise_cons] at sorted
      intro entry mem
      rw [List.flatMap_cons, List.mem_append] at mem
      rcases mem with here | later
      · have none_here := notFound row List.mem_cons_self
        rw [checkRow, if_pos rfl] at none_here
        split at none_here
        · cases none_here
        · rename_i absent
          intro same
          exact absent (List.any_eq_true.mpr ⟨entry, here, beq_iff_eq.mpr same⟩)
      · apply ih sorted.2 _ entry later
        intro other otherMem
        have none_there := notFound other (List.mem_cons_of_mem _ otherMem)
        have different : row.1 ≠ other.1 :=
          Nat.ne_of_lt (sorted.1 other.1 (List.mem_map_of_mem otherMem))
        rw [checkRow, if_neg different] at none_there
        exact Option.map_eq_none_iff.mp none_there

theorem check_eq_some {table erased : HandlerTable H} {id : RawHandler} {priority : Priority}
    (checkEq : table.check id priority = some erased) :
    checkRow id priority table.rows = some erased.rows := by
  unfold check at checkEq
  split at checkEq
  · rename_i rows rowsEq
    rw [← Option.some.inj checkEq]
    exact rowsEq
  · cases checkEq

theorem check_eq_none {table : HandlerTable H} {id : RawHandler} {priority : Priority}
    (checkEq : table.check id priority = none) : checkRow id priority table.rows = none := by
  unfold check at checkEq
  split at checkEq
  · cases checkEq
  · rename_i rowsEq
    exact rowsEq

/-- Erasing takes out one handler with the identifier, if there is any. -/
theorem entries_erase (table : HandlerTable H) (id : RawHandler) :
    (∃ handler, table.entries.Perm ((id, handler) :: (table.erase id).entries)) ∨
      ((∀ entry ∈ table.entries, entry.1 ≠ id) ∧ table.erase id = table) := by
  have taken : ∀ {priority erased}, table.check id priority = some erased →
      ∃ handler, table.entries.Perm ((id, handler) :: erased.entries) := by
    intro priority erased checkEq
    rcases flatMap_checkRow (check_eq_some checkEq) with ⟨handler, perm⟩
    exact ⟨handler, ((entries_perm table).trans perm).trans
      ((entries_perm erased).symm.cons (id, handler))⟩
  unfold erase
  cases first : table.check id 0 with
  | some erased => exact Or.inl (taken first)
  | none =>
      cases others : ((table.rows.map Prod.fst).filter fun priority => priority ≠ 0).findSome?
          (table.check id) with
      | some erased =>
          rcases List.exists_of_findSome?_eq_some others with ⟨priority, _, checkEq⟩
          exact Or.inl (taken checkEq)
      | none =>
          right
          refine ⟨?_, rfl⟩
          intro entry mem
          apply absent_of_checkRow table.sorted _ entry ((entries_perm table).mem_iff.mp mem)
          intro row rowMem
          by_cases default : row.1 = 0
          · rw [default]
            exact check_eq_none first
          · apply check_eq_none
            apply List.findSome?_eq_none_iff.mp others
            rw [List.mem_filter]
            exact ⟨List.mem_map_of_mem rowMem, decide_eq_true default⟩

/-- If no identifier is used twice, erasing takes out the handlers with the identifier. -/
theorem entries_erase_of_nodup {table : HandlerTable H} (nodup : (table.entries.map Prod.fst).Nodup)
    (id : RawHandler) :
    (table.erase id).entries.Perm (table.entries.filter fun entry => entry.1 ≠ id) := by
  rcases entries_erase table id with ⟨handler, perm⟩ | ⟨absent, same⟩
  · have split := perm.filter fun entry => entry.1 ≠ id
    have idsPerm := (perm.map Prod.fst).nodup_iff.mp nodup
    rw [List.map_cons, List.nodup_cons] at idsPerm
    have kept : (table.erase id).entries.filter (fun entry => entry.1 ≠ id) =
        (table.erase id).entries := by
      apply List.filter_eq_self.mpr
      intro entry mem
      apply decide_eq_true
      rintro rfl
      exact idsPerm.1 (List.mem_map.mpr ⟨entry, mem, rfl⟩)
    rw [List.filter_cons_of_neg (by simp), kept] at split
    exact split.symm
  · rw [same, List.filter_eq_self.mpr]
    intro entry mem
    exact decide_eq_true (absent entry mem)

end HandlerTable

/-! ## The handlers in one list -/

/-- Handlers with their priorities, in the order in which they are invoked. -/
abbrev LiveHandlers (H : Type) := List (Priority × HandlerEntry H)

namespace LiveHandlers

variable {H : Type}

/-- A handler is added.  It comes after those that have no smaller priority. -/
def add (priority : Priority) (entry : HandlerEntry H) : LiveHandlers H → LiveHandlers H
  | [] => [(priority, entry)]
  | handler :: rest =>
      if handler.1 < priority then (priority, entry) :: handler :: rest
      else handler :: add priority entry rest

/-- The handler with an identifier is removed.  After 2^32 additions the identifiers come
back, and of several handlers with one identifier the first of the smallest priority goes. -/
def remove (id : RawHandler) : LiveHandlers H → LiveHandlers H
  | [] => []
  | handler :: rest =>
      if handler.2.1 = id ∧ ∀ other ∈ rest, other.2.1 = id → handler.1 ≤ other.1 then rest
      else handler :: remove id rest

variable {priority : Priority} {entry : HandlerEntry H} {id : RawHandler}
  {live others : LiveHandlers H}

/-- A handler that is not preceded by a smaller priority comes last. -/
theorem add_of_le (notBelow : ∀ handler ∈ live, priority ≤ handler.1) :
    add priority entry live = live ++ [(priority, entry)] := by
  induction live with
  | nil => rfl
  | cons handler rest ih =>
      rw [List.forall_mem_cons] at notBelow
      rw [add, if_neg (Nat.not_lt_of_le notBelow.1), ih notBelow.2, List.cons_append]

/-- Handlers of smaller priorities stay at the end. -/
theorem add_append (below : ∀ handler ∈ others, handler.1 < priority) :
    add priority entry (live ++ others) = add priority entry live ++ others := by
  induction live with
  | nil =>
      cases others with
      | nil => rfl
      | cons handler rest =>
          rw [List.forall_mem_cons] at below
          rw [List.nil_append, add, add, if_pos below.1]
          rfl
  | cons handler rest ih =>
      rw [List.cons_append, add, add, ih]
      split <;> rfl

/-- A handler that is in the last row is removed from there. -/
theorem remove_append_of_mem {row : List (HandlerEntry H)}
    (above : ∀ handler ∈ live, priority < handler.1)
    (found : (row.any fun entry => entry.1 == id) = true) :
    remove id (live ++ row.map (Prod.mk priority)) =
      live ++ (row.eraseP fun entry => entry.1 == id).map (Prod.mk priority) := by
  induction live with
  | nil =>
      clear above
      rw [List.nil_append, List.nil_append]
      induction row with
      | nil => cases found
      | cons entry row ih =>
          rw [List.map_cons, remove, List.eraseP_cons, cond_eq_ite]
          by_cases same : entry.1 = id
          · rw [if_pos, if_pos (beq_iff_eq.mpr same)]
            refine ⟨same, ?_⟩
            intro other mem _
            rcases List.mem_map.mp mem with ⟨_, _, rfl⟩
            exact Nat.le_refl priority
          · rw [List.any_cons, beq_false_of_ne same, Bool.false_or] at found
            rw [if_neg fun first => same first.1, if_neg (mt beq_iff_eq.mp same), ih found,
              List.map_cons]
  | cons handler rest ih =>
      rw [List.forall_mem_cons] at above
      rw [List.cons_append, remove, if_neg, ih above.2, List.cons_append]
      rintro ⟨_, smallest⟩
      rcases List.any_eq_true.mp found with ⟨entry, mem, same⟩
      exact Nat.not_le_of_lt above.1 (smallest (priority, entry)
        (List.mem_append_right rest (List.mem_map_of_mem mem)) (beq_iff_eq.mp same))

/-- Without the identifier nothing is removed. -/
theorem remove_of_forall_ne (absent : ∀ handler ∈ live, handler.2.1 ≠ id) :
    remove id live = live := by
  induction live with
  | nil => rfl
  | cons handler rest ih =>
      rw [List.forall_mem_cons] at absent
      rw [remove, if_neg fun first => absent.1 first.1, ih absent.2]

/-- A handler that is not in the last row is removed before. -/
theorem remove_append_of_not_mem {row : List (HandlerEntry H)}
    (absent : ¬(row.any fun entry => entry.1 == id) = true) :
    remove id (live ++ row.map (Prod.mk priority)) =
      remove id live ++ row.map (Prod.mk priority) := by
  have others : ∀ other ∈ row.map (Prod.mk priority), other.2.1 ≠ id := by
    intro other mem same
    rcases List.mem_map.mp mem with ⟨entry, entryMem, rfl⟩
    exact absent (List.any_eq_true.mpr ⟨entry, entryMem, beq_iff_eq.mpr same⟩)
  generalize row.map (Prod.mk priority) = last at others
  induction live with
  | nil => exact remove_of_forall_ne others
  | cons handler rest ih =>
      -- The handlers of the last row have other identifiers, so that they do not count.
      have smallest : (∀ other ∈ rest ++ last, other.2.1 = id → handler.1 ≤ other.1) ↔
          ∀ other ∈ rest, other.2.1 = id → handler.1 ≤ other.1 := by
        rw [List.forall_mem_append]
        exact and_iff_left fun other mem same => absurd same (others other mem)
      rw [List.cons_append, remove, remove, ih]
      simp only [smallest]
      split <;> rfl

end LiveHandlers

namespace HandlerTable

variable {H : Type} {rows : List (HandlerRow H)}

/-- The handlers of some rows with their priorities. -/
def liveRows (rows : List (HandlerRow H)) : LiveHandlers H :=
  rows.reverse.flatMap fun row => row.2.map (Prod.mk row.1)

/-- The handlers of a table with their priorities. -/
def live (table : HandlerTable H) : LiveHandlers H :=
  liveRows table.rows

@[simp]
theorem live_empty : (empty : HandlerTable H).live = [] :=
  rfl

theorem entries_eq_map_live (table : HandlerTable H) : table.entries = table.live.map Prod.snd := by
  rw [entries, live, liveRows, List.map_flatMap]
  congr 1
  funext row
  rw [List.map_map]
  exact (List.map_id row.2).symm

theorem liveRows_cons (row : HandlerRow H) (rest : List (HandlerRow H)) :
    liveRows (row :: rest) = liveRows rest ++ row.2.map (Prod.mk row.1) := by
  rw [liveRows, List.reverse_cons, List.flatMap_append, List.flatMap_singleton]
  rfl

/-- The handlers of the rows have the priorities of the rows. -/
theorem mem_keys_of_mem_liveRows {handler : Priority × HandlerEntry H}
    (mem : handler ∈ liveRows rows) : handler.1 ∈ rows.map Prod.fst := by
  rcases List.mem_flatMap.mp mem with ⟨row, rowMem, handlerMem⟩
  rcases List.mem_map.mp handlerMem with ⟨entry, _, rfl⟩
  exact List.mem_map.mpr ⟨row, List.mem_reverse.mp rowMem, rfl⟩

theorem liveRows_appendRow (priority : Priority) (entry : HandlerEntry H)
    (sorted : (rows.map Prod.fst).Pairwise (· < ·)) :
    liveRows (appendRow priority entry rows) =
      LiveHandlers.add priority entry (liveRows rows) := by
  induction rows with
  | nil => rfl
  | cons row rest ih =>
      rw [List.map_cons, List.pairwise_cons] at sorted
      have above : ∀ handler ∈ liveRows rest, row.1 < handler.1 :=
        fun handler mem => sorted.1 _ (mem_keys_of_mem_liveRows mem)
      have inRow : ∀ handler ∈ row.2.map (Prod.mk row.1), handler.1 = row.1 := by
        intro handler mem
        rcases List.mem_map.mp mem with ⟨_, _, rfl⟩
        rfl
      -- The new handler comes last unless the first row has a smaller priority.
      have comesLast (notBelow : priority ≤ row.1) :
          LiveHandlers.add priority entry (liveRows (row :: rest)) =
            liveRows rest ++ row.2.map (Prod.mk row.1) ++ [(priority, entry)] := by
        rw [liveRows_cons]
        apply LiveHandlers.add_of_le
        intro handler mem
        rcases List.mem_append.mp mem with later | here
        · exact Nat.le_trans notBelow (Nat.le_of_lt (above handler later))
        · rw [inRow handler here]
          exact notBelow
      unfold appendRow
      split
      · rename_i before
        rw [comesLast (Nat.le_of_lt before), liveRows_cons, liveRows_cons]
        rfl
      · rename_i notBefore
        split
        · rename_i same
          rw [comesLast (Nat.le_of_eq same), liveRows_cons, List.map_append, List.append_assoc,
            same]
          rfl
        · rename_i different
          have below : row.1 < priority :=
            Nat.lt_of_le_of_ne (Nat.le_of_not_lt notBefore) (Ne.symm different)
          rw [liveRows_cons, liveRows_cons, ih sorted.2, LiveHandlers.add_append]
          intro handler mem
          rw [inRow handler mem]
          exact below

theorem findSome?_congr {α β : Type} {l : List α} {f g : α → Option β}
    (same : ∀ a ∈ l, f a = g a) : l.findSome? f = l.findSome? g := by
  induction l with
  | nil => rfl
  | cons a rest ih =>
      rw [List.forall_mem_cons] at same
      rw [List.findSome?_cons, List.findSome?_cons, same.1, ih same.2]

/-- Going through the rows from the smallest priority on. -/
theorem liveRows_findSome? (id : RawHandler) (sorted : (rows.map Prod.fst).Pairwise (· < ·)) :
    liveRows (((rows.map Prod.fst).findSome? fun priority => checkRow id priority rows).getD rows) =
      LiveHandlers.remove id (liveRows rows) := by
  induction rows with
  | nil => rfl
  | cons row rest ih =>
      rw [List.map_cons, List.pairwise_cons] at sorted
      have above : ∀ handler ∈ liveRows rest, row.1 < handler.1 :=
        fun handler mem => sorted.1 _ (mem_keys_of_mem_liveRows mem)
      rw [List.map_cons, List.findSome?_cons, checkRow, if_pos rfl, liveRows_cons]
      split
      · rename_i checked checkEq
        rcases Option.ite_none_right_eq_some.mp checkEq with ⟨found, ⟨⟩⟩
        rw [LiveHandlers.remove_append_of_mem above found, Option.getD_some, liveRows_cons]
      · rename_i checkEq
        have absent : ¬(row.2.any fun entry => entry.1 == id) = true := by
          intro found
          rw [if_pos found] at checkEq
          cases checkEq
        -- The first row stays in front of what the others become.
        have later : ((rest.map Prod.fst).findSome? fun priority =>
            checkRow id priority (row :: rest)) =
              ((rest.map Prod.fst).findSome? fun priority => checkRow id priority rest).map
                fun checked => row :: checked := by
          rw [List.map_findSome?]
          apply findSome?_congr
          intro priority mem
          rw [checkRow, if_neg (Nat.ne_of_lt (sorted.1 priority mem))]
          rfl
        rw [later, LiveHandlers.remove_append_of_not_mem absent, ← ih sorted.2]
        cases (rest.map Prod.fst).findSome? fun priority => checkRow id priority rest <;>
          exact liveRows_cons _ _

/-- Without a row for a priority nothing is found there. -/
theorem checkRow_eq_none {id : RawHandler} {priority : Priority}
    (absent : ∀ row ∈ rows, row.1 ≠ priority) : checkRow id priority rows = none := by
  induction rows with
  | nil => rfl
  | cons row rest ih =>
      rw [List.forall_mem_cons] at absent
      rw [checkRow, if_neg absent.1, ih absent.2, Option.map_none]

/-- Looking at the smallest number first makes no difference in a list that starts with it. -/
theorem findSome?_eq_or {α : Type} {keys : List Nat} {f : Nat → Option α}
    (sorted : keys.Pairwise (· < ·)) (missing : 0 ∉ keys → f 0 = none) :
    keys.findSome? f = (f 0).or ((keys.filter fun key => key ≠ 0).findSome? f) := by
  have kept : ∀ {others : List Nat}, 0 ∉ others →
      others.filter (fun key => key ≠ 0) = others := by
    intro others notMem
    apply List.filter_eq_self.mpr
    intro key mem
    apply decide_eq_true
    rintro rfl
    exact notMem mem
  by_cases mem : 0 ∈ keys
  · cases keys with
    | nil => cases mem
    | cons key rest =>
        rw [List.pairwise_cons] at sorted
        have first : key = 0 := by
          rcases List.mem_cons.mp mem with same | later
          · exact same.symm
          · exact absurd (sorted.1 0 later) (Nat.not_lt_zero key)
        subst first
        rw [List.filter_cons_of_neg (by simp),
          kept fun later => Nat.lt_irrefl 0 (sorted.1 0 later), List.findSome?_cons]
        cases f 0 <;> rfl
  · rw [missing mem, kept mem, Option.none_or]

/-- `erase` goes through the rows from the smallest priority on, which the default one is. -/
theorem rows_erase (table : HandlerTable H) (id : RawHandler) :
    (table.erase id).rows =
      ((table.rows.map Prod.fst).findSome? fun priority => checkRow id priority table.rows).getD
        table.rows := by
  have checked : (fun priority => checkRow id priority table.rows) =
      Option.map rows ∘ table.check id := by
    funext priority
    rw [Function.comp_apply]
    cases checkEq : table.check id priority with
    | none => exact check_eq_none checkEq
    | some erased => exact check_eq_some checkEq
  have missing : 0 ∉ table.rows.map Prod.fst → table.check id 0 = none := by
    intro notMem
    have absent : ∀ row ∈ table.rows, row.1 ≠ 0 :=
      fun row mem isZero => notMem (List.mem_map.mpr ⟨row, mem, isZero⟩)
    exact Option.map_eq_none_iff.mp ((congrFun checked 0).symm.trans (checkRow_eq_none absent))
  rw [checked, ← List.map_findSome?, findSome?_eq_or table.sorted missing, Option.getD_map, erase]
  cases table.check id 0 <;> rfl

@[simp]
theorem live_erase (table : HandlerTable H) (id : RawHandler) :
    (table.erase id).live = LiveHandlers.remove id table.live := by
  rw [live, rows_erase, liveRows_findSome? id table.sorted]
  rfl

@[simp]
theorem live_emplaceBack (table : HandlerTable H) (priority : Priority) (entry : HandlerEntry H) :
    (table.emplaceBack priority entry).live = LiveHandlers.add priority entry table.live :=
  liveRows_appendRow priority entry table.sorted

end HandlerTable

/-- The actions of a dispatcher that are put off while it is dispatching. -/
inductive PendingAction (T H : Type) where
  | add (type : T) (priority : Priority) (id : RawHandler) (handler : H)
  | erase (type : T) (id : RawHandler)

namespace PendingAction

variable {T H : Type} [DecidableEq T]

/-- Perform an action on the tables of all types of events. -/
def perform (handlers : T → HandlerTable H) : PendingAction T H → T → HandlerTable H
  | .add type priority id handler =>
      Function.update handlers type ((handlers type).emplaceBack priority (id, handler))
  | .erase type id => Function.update handlers type ((handlers type).erase id)

omit [DecidableEq T] in
/-- The type of events that an action is about. -/
def type : PendingAction T H → T
  | .add type _ _ _ => type
  | .erase type _ => type

omit [DecidableEq T] in
/-- What an action does to the table of its type. -/
def onTable (table : HandlerTable H) : PendingAction T H → HandlerTable H
  | .add _ priority id handler => table.emplaceBack priority (id, handler)
  | .erase _ id => table.erase id

theorem perform_eq_update (handlers : T → HandlerTable H) (action : PendingAction T H) :
    perform handlers action =
      Function.update handlers action.type (action.onTable (handlers action.type)) := by
  cases action <;> rfl

/-- Actions about different types can be exchanged. -/
theorem perform_comm (handlers : T → HandlerTable H) {first second : PendingAction T H}
    (different : first.type ≠ second.type) :
    perform (perform handlers first) second = perform (perform handlers second) first := by
  simp only [perform_eq_update]
  rw [Function.update_of_ne (Ne.symm different), Function.update_of_ne different,
    Function.update_comm different]

/-- An action can be exchanged with actions about another type. -/
theorem foldl_perform_comm (handlers : T → HandlerTable H) {action : PendingAction T H}
    {actions : List (PendingAction T H)}
    (different : ∀ other ∈ actions, other.type ≠ action.type) :
    actions.foldl perform (perform handlers action) =
      perform (actions.foldl perform handlers) action := by
  induction actions generalizing handlers with
  | nil => rfl
  | cons first rest ih =>
      rw [List.foldl_cons, List.foldl_cons,
        perform_comm handlers (Ne.symm (different first List.mem_cons_self)),
        ih _ fun other mem => different other (List.mem_cons_of_mem _ mem)]

/-- What an action does to the handlers of all types. -/
def performLive (live : T → LiveHandlers H) : PendingAction T H → T → LiveHandlers H
  | .add type priority id handler =>
      Function.update live type (LiveHandlers.add priority (id, handler) (live type))
  | .erase type id => Function.update live type (LiveHandlers.remove id (live type))

/-- The tables of all types hold the handlers that were added and not removed. -/
theorem live_perform (handlers : T → HandlerTable H) (action : PendingAction T H) :
    HandlerTable.live ∘ perform handlers action =
      performLive (HandlerTable.live ∘ handlers) action := by
  cases action with
  | add type priority id handler =>
      rw [perform, performLive, Function.comp_update, HandlerTable.live_emplaceBack]
      rfl
  | erase type id =>
      rw [perform, performLive, Function.comp_update, HandlerTable.live_erase]
      rfl

/-- What an action does to the handlers of one type. -/
def onEntries (type : T) (entries : List (HandlerEntry H)) :
    PendingAction T H → List (HandlerEntry H)
  | .add other _ id handler => if other = type then entries ++ [(id, handler)] else entries
  | .erase other id =>
      if other = type then entries.filter fun entry => entry.1 ≠ id else entries

/-- The action adds a handler with this identifier. -/
def adds (type : T) (id : RawHandler) : PendingAction T H → Bool
  | .add other _ added _ => decide (other = type) && added == id
  | .erase .. => false

/-- The action erases the handler with this identifier. -/
def erases (type : T) (id : RawHandler) : PendingAction T H → Bool
  | .add .. => false
  | .erase other erased => decide (other = type) && erased == id

variable {type : T} {entries others : List (HandlerEntry H)} {action : PendingAction T H}
  {actions : List (PendingAction T H)}

theorem onEntries_perm (perm : entries.Perm others) :
    (action.onEntries type entries).Perm (action.onEntries type others) := by
  cases action with
  | add other priority id handler =>
      simp only [onEntries]
      split
      · exact perm.append_right _
      · exact perm
  | erase other id =>
      simp only [onEntries]
      split
      · exact perm.filter _
      · exact perm

theorem foldl_onEntries_perm (actions : List (PendingAction T H)) (perm : entries.Perm others) :
    (actions.foldl (onEntries type) entries).Perm (actions.foldl (onEntries type) others) := by
  induction actions generalizing entries others with
  | nil => exact perm
  | cons action rest ih => exact ih (onEntries_perm perm)

/-- An action on tables in which no identifier is used twice. -/
theorem entries_perform {handlers : T → HandlerTable H}
    (nodup : ((handlers type).entries.map Prod.fst).Nodup) :
    (perform handlers action type).entries.Perm
      (action.onEntries type (handlers type).entries) := by
  cases action with
  | add other priority id handler =>
      simp only [perform, onEntries]
      by_cases other_eq : other = type
      · rw [if_pos other_eq, other_eq, Function.update_self]
        exact HandlerTable.entries_emplaceBack _ priority (id, handler)
      · rw [if_neg other_eq, Function.update_of_ne (Ne.symm other_eq)]
  | erase other id =>
      simp only [perform, onEntries]
      by_cases other_eq : other = type
      · rw [if_pos other_eq, other_eq, Function.update_self]
        exact HandlerTable.entries_erase_of_nodup nodup id
      · rw [if_neg other_eq, Function.update_of_ne (Ne.symm other_eq)]

end PendingAction

end VoxelEngine.Event
