import VoxelEngine.Event.SimpleDispatcher

/-!
# Handlers after nested dispatches

After all dispatches have returned, the handlers of a dispatcher ought to be those that
the program has added and not removed since.  They are if no action overtakes another one
on the same handler that was put off.
-/

namespace VoxelEngine.Event

open VoxelEngine.Transition

variable {T H : Type} [DecidableEq T]

namespace PendingAction

/-- While the actions are performed, no identifier is used twice. -/
def Clean (type : T) : List (PendingAction T H) → List (HandlerEntry H) → Prop
  | [], entries => (entries.map Prod.fst).Nodup
  | action :: rest, entries =>
      (entries.map Prod.fst).Nodup ∧ Clean type rest (action.onEntries type entries)

variable {type : T} {entries others : List (HandlerEntry H)} {action : PendingAction T H}
  {actions : List (PendingAction T H)}

theorem Clean.nodup (clean : Clean type actions entries) : (entries.map Prod.fst).Nodup := by
  cases actions with
  | nil => exact clean
  | cons action rest => exact clean.1

theorem Clean.perm (clean : Clean type actions entries) (perm : entries.Perm others) :
    Clean type actions others := by
  induction actions generalizing entries others with
  | nil => exact (perm.map Prod.fst).nodup_iff.mp clean
  | cons action rest ih =>
      exact ⟨(perm.map Prod.fst).nodup_iff.mp clean.1, ih clean.2 (onEntries_perm perm)⟩

theorem Clean.nodup_foldl (clean : Clean type actions entries) :
    ((actions.foldl (onEntries type) entries).map Prod.fst).Nodup := by
  induction actions generalizing entries with
  | nil => exact clean
  | cons action rest ih => exact ih clean.2

theorem Clean.concat (clean : Clean type actions entries)
    (nodup : ((action.onEntries type (actions.foldl (onEntries type) entries)).map
      Prod.fst).Nodup) : Clean type (actions ++ [action]) entries := by
  induction actions generalizing entries with
  | nil => exact ⟨clean, nodup⟩
  | cons first rest ih => exact ⟨clean.1, ih clean.2 nodup⟩

/-- Performing clean actions on the tables performs them on what the tables contain. -/
theorem Clean.entries_foldl {handlers : T → HandlerTable H}
    (clean : Clean type actions (handlers type).entries) :
    (actions.foldl perform handlers type).entries.Perm
      (actions.foldl (onEntries type) (handlers type).entries) := by
  induction actions generalizing handlers with
  | nil => exact List.Perm.refl _
  | cons action rest ih =>
      have performed : (perform handlers action type).entries.Perm
          (action.onEntries type (handlers type).entries) :=
        entries_perform clean.1
      exact (ih (clean.2.perm performed.symm)).trans (foldl_onEntries_perm rest performed)

/-- A handler that is not erased survives. -/
theorem mem_foldl {entry : HandlerEntry H}
    (kept : ∀ action ∈ actions, action.erases type entry.1 = false) (mem : entry ∈ entries) :
    entry ∈ actions.foldl (onEntries type) entries := by
  induction actions generalizing entries with
  | nil => exact mem
  | cons action rest ih =>
      apply ih fun later laterMem => kept later (List.mem_cons_of_mem _ laterMem)
      have here := kept action List.mem_cons_self
      cases action with
      | add other priority id handler =>
          simp only [onEntries]
          split
          · exact List.mem_append_left _ mem
          · exact mem
      | erase other id =>
          simp only [onEntries]
          split
          · rename_i other_eq
            simp only [erases, other_eq, decide_true, Bool.true_and, beq_eq_false_iff_ne] at here
            exact List.mem_filter.mpr ⟨mem, decide_eq_true (Ne.symm here)⟩
          · exact mem

/-- A handler that is added early ends up where it would if it were added late, if the
actions in between neither erase it nor leave another handler with its identifier. -/
theorem Clean.add (clean : Clean type actions entries) (entry : HandlerEntry H)
    (kept : ∀ action ∈ actions, action.erases type entry.1 = false)
    (absent : ∀ other ∈ actions.foldl (onEntries type) entries, other.1 ≠ entry.1) :
    Clean type actions (entries ++ [entry]) ∧
      (actions.foldl (onEntries type) (entries ++ [entry])).Perm
        (actions.foldl (onEntries type) entries ++ [entry]) := by
  have fresh : ∀ {before : List (HandlerEntry H)}, (before.map Prod.fst).Nodup →
      (∀ other ∈ before, other.1 ≠ entry.1) → ((before ++ [entry]).map Prod.fst).Nodup := by
    intro before nodup absentHere
    rw [List.map_append, List.map_singleton, List.nodup_append']
    refine ⟨nodup, List.nodup_singleton _, ?_⟩
    intro id mem last
    rcases List.mem_map.mp mem with ⟨other, otherMem, rfl⟩
    exact absentHere other otherMem (List.mem_singleton.mp last)
  induction actions generalizing entries with
  | nil => exact ⟨fresh clean absent, List.Perm.refl _⟩
  | cons action rest ih =>
      have keptLater : ∀ later ∈ rest, later.erases type entry.1 = false :=
        fun later mem => kept later (List.mem_cons_of_mem _ mem)
      have absentHere : ∀ other ∈ entries, other.1 ≠ entry.1 := by
        intro other mem same
        apply absent other _ same
        apply mem_foldl _ mem
        rw [same]
        exact kept
      have moved : (action.onEntries type (entries ++ [entry])).Perm
          (action.onEntries type entries ++ [entry]) := by
        have here := kept action List.mem_cons_self
        cases action with
        | add other priority id handler =>
            simp only [onEntries]
            split
            · rw [List.append_assoc, List.append_assoc]
              exact List.Perm.append_left _ (List.Perm.swap _ _ _)
            · exact List.Perm.refl _
        | erase other id =>
            simp only [onEntries]
            split
            · rename_i other_eq
              simp only [erases, other_eq, decide_true, Bool.true_and, beq_eq_false_iff_ne] at here
              rw [List.filter_append, List.filter_cons_of_pos (by simp [Ne.symm here]),
                List.filter_nil]
            · exact List.Perm.refl _
      rcases ih clean.2 keptLater absent with ⟨cleanLater, permLater⟩
      exact ⟨⟨fresh clean.1 absentHere, cleanLater.perm moved.symm⟩,
        (foldl_onEntries_perm rest moved).trans permLater⟩

/-- A handler that is erased early is not there in the end, if it is not added in
between. -/
theorem Clean.erase (clean : Clean type actions entries) (id : RawHandler)
    (notAdded : ∀ action ∈ actions, action.adds type id = false) :
    Clean type actions (entries.filter fun entry => entry.1 ≠ id) ∧
      actions.foldl (onEntries type) (entries.filter fun entry => entry.1 ≠ id) =
        (actions.foldl (onEntries type) entries).filter fun entry => entry.1 ≠ id := by
  have thinned : ∀ {before : List (HandlerEntry H)}, (before.map Prod.fst).Nodup →
      ((before.filter fun entry => entry.1 ≠ id).map Prod.fst).Nodup := by
    intro before nodup
    exact nodup.sublist (List.filter_sublist.map Prod.fst)
  induction actions generalizing entries with
  | nil => exact ⟨thinned clean, rfl⟩
  | cons action rest ih =>
      have moved : action.onEntries type (entries.filter fun entry => entry.1 ≠ id) =
          (action.onEntries type entries).filter fun entry => entry.1 ≠ id := by
        have here := notAdded action List.mem_cons_self
        cases action with
        | add other priority added handler =>
            simp only [onEntries]
            split
            · rename_i other_eq
              simp only [adds, other_eq, decide_true, Bool.true_and, beq_eq_false_iff_ne] at here
              rw [List.filter_append, List.filter_cons_of_pos (by simp [here]), List.filter_nil]
            · rfl
        | erase other erased =>
            simp only [onEntries]
            split
            · rw [List.filter_filter, List.filter_filter]
              apply List.filter_congr
              intro entry _
              exact Bool.and_comm _ _
            · rfl
      rcases ih clean.2 fun later mem => notAdded later (List.mem_cons_of_mem _ mem) with
        ⟨cleanLater, later⟩
      constructor
      · refine ⟨thinned clean.1, ?_⟩
        rw [moved]
        exact cleanLater
      · rw [List.foldl_cons, List.foldl_cons, moved]
        exact later

end PendingAction

namespace DispatcherProgram

open PendingAction

/-- The calls that do not overtake.  No identifier is given out while a handler that has
it is registered, and what is done at once concerns no handler for which something else
was put off. -/
def inOrder (program : DispatcherProgram T H) : DispatcherAction T H → Bool
  | .addHandler type _ _ =>
      ((program.registered type).all fun entry => entry.1 != program.dispatcher.nextId) &&
        (program.dispatcher.isDispatching type ||
          program.dispatcher.pendingActions.all fun action =>
            !action.erases type program.dispatcher.nextId)
  | .removeHandler type id =>
      program.dispatcher.isDispatching type ||
        program.dispatcher.pendingActions.all fun action => !action.adds type id
  | .dispatchEvent _ => true
  | .handlerReturns _ => true
  | .dispatchReturns => true

/-- Once nothing is being dispatched, the handlers are those that were added and not
removed since. -/
def HandlersRegistered (program : DispatcherProgram T H) : Prop :=
  program.dispatcher.currentlyDispatched = [] →
    ∀ type, (program.dispatcher.handlers type).entries.Perm (program.registered type)

/-- The invariant of programs whose calls do not overtake: when what was put off is
performed, the handlers will be the registered ones. -/
structure Inv (program : DispatcherProgram T H) : Prop where
  clean : ∀ type, Clean type program.dispatcher.pendingActions
    (program.dispatcher.handlers type).entries
  planned : ∀ type, (program.dispatcher.pendingActions.foldl (onEntries type)
    (program.dispatcher.handlers type).entries).Perm (program.registered type)
  settled : program.dispatcher.currentlyDispatched = [] → program.dispatcher.pendingActions = []

variable {program next : DispatcherProgram T H}

theorem inv_start : (start : DispatcherProgram T H).Inv :=
  ⟨fun _ => List.nodup_nil, fun _ => List.Perm.refl _, fun _ => rfl⟩

/-- No call is put off while nothing is being dispatched. -/
theorem nonempty_of_isDispatching {dispatcher : SimpleDispatcher T H} {type : T}
    (dispatching : dispatcher.isDispatching type = true) :
    dispatcher.currentlyDispatched ≠ [] := by
  rcases List.any_eq_true.mp dispatching with ⟨dispatch, mem, _⟩
  exact List.ne_nil_of_mem mem

/-- A call that is put off comes after all others. -/
theorem Inv.defer (inv : program.Inv) {action : PendingAction T H} {type : T}
    (dispatching : program.dispatcher.isDispatching type = true)
    (nodup : ∀ type, ((action.onEntries type (program.registered type)).map Prod.fst).Nodup) :
    Inv (program.note (program.dispatcher.performOrDefer type action) action) := by
  rw [note, SimpleDispatcher.performOrDefer, if_pos dispatching]
  constructor
  · intro other
    apply (inv.clean other).concat
    exact ((onEntries_perm (inv.planned other)).map Prod.fst).nodup_iff.mpr (nodup other)
  · intro other
    simp only [List.foldl_append, List.foldl_cons, List.foldl_nil]
    exact onEntries_perm (inv.planned other)
  · intro idle
    exact absurd idle (nonempty_of_isDispatching dispatching)

/-- A call that is performed at once and overtakes nothing might as well come last. -/
theorem Inv.perform (inv : program.Inv) {action : PendingAction T H} {type : T}
    (idle : program.dispatcher.isDispatching type = false)
    (moves : ∀ type, Clean type program.dispatcher.pendingActions
        (action.onEntries type (program.dispatcher.handlers type).entries) ∧
      (program.dispatcher.pendingActions.foldl (onEntries type)
        (action.onEntries type (program.dispatcher.handlers type).entries)).Perm
          (action.onEntries type (program.registered type))) :
    Inv (program.note (program.dispatcher.performOrDefer type action) action) := by
  rw [note, SimpleDispatcher.performOrDefer, if_neg (by simp [idle])]
  have performed : ∀ other, (PendingAction.perform program.dispatcher.handlers action
      other).entries.Perm (action.onEntries other (program.dispatcher.handlers other).entries) :=
    fun other => entries_perform (inv.clean other).nodup
  constructor
  · intro other
    exact (moves other).1.perm (performed other).symm
  · intro other
    exact (foldl_onEntries_perm _ (performed other)).trans (moves other).2
  · exact inv.settled

/-- The next identifier does not matter. -/
theorem Inv.setNextId (inv : program.Inv) (nextId : RawHandler) :
    Inv { program with dispatcher := { program.dispatcher with nextId := nextId } } :=
  ⟨inv.clean, inv.planned, inv.settled⟩

theorem Inv.addHandler (inv : program.Inv) {type : T} {priority : Priority} {handler : H}
    (ordered : program.inOrder (.addHandler type priority handler) = true) :
    Inv (program.note (program.dispatcher.performOrDefer type
      (.add type priority program.dispatcher.nextId handler))
        (.add type priority program.dispatcher.nextId handler)) := by
  rw [inOrder, Bool.and_eq_true, Bool.or_eq_true] at ordered
  rcases ordered with ⟨fresh, ordered⟩
  have absent : ∀ entry ∈ program.registered type, entry.1 ≠ program.dispatcher.nextId := by
    intro entry mem
    exact bne_iff_ne.mp (List.all_eq_true.mp fresh entry mem)
  have registeredNodup : ∀ other, ((program.registered other).map Prod.fst).Nodup := by
    intro other
    exact ((inv.planned other).map Prod.fst).nodup_iff.mp (inv.clean other).nodup_foldl
  by_cases dispatching : program.dispatcher.isDispatching type = true
  · apply inv.defer dispatching
    intro other
    simp only [onEntries]
    split
    · rename_i other_eq
      rw [List.map_append, List.map_singleton, List.nodup_append']
      refine ⟨registeredNodup other, List.nodup_singleton _, ?_⟩
      intro id mem last
      rcases List.mem_map.mp mem with ⟨entry, entryMem, rfl⟩
      rw [← other_eq] at entryMem
      exact absent entry entryMem (List.mem_singleton.mp last)
    · exact registeredNodup other
  · have notErased := ordered.resolve_left dispatching
    apply inv.perform (by simpa using dispatching)
    intro other
    simp only [onEntries]
    split
    · rename_i other_eq
      subst other_eq
      have added := (inv.clean type).add (program.dispatcher.nextId, handler)
        (fun action mem => by simpa using List.all_eq_true.mp notErased action mem)
        (fun entry mem => absent entry ((inv.planned type).mem_iff.mp mem))
      exact ⟨added.1, added.2.trans ((inv.planned type).append_right _)⟩
    · exact ⟨inv.clean other, inv.planned other⟩

theorem Inv.removeHandler (inv : program.Inv) {type : T} {id : RawHandler}
    (ordered : program.inOrder (.removeHandler type id) = true) :
    Inv (program.note (program.dispatcher.removeHandler type id) (.erase type id)) := by
  rw [inOrder, Bool.or_eq_true] at ordered
  by_cases dispatching : program.dispatcher.isDispatching type = true
  · apply inv.defer dispatching
    intro other
    have nodup := ((inv.planned other).map Prod.fst).nodup_iff.mp (inv.clean other).nodup_foldl
    simp only [onEntries]
    split
    · exact nodup.sublist (List.filter_sublist.map Prod.fst)
    · exact nodup
  · have notAdded := ordered.resolve_left dispatching
    apply inv.perform (by simpa using dispatching)
    intro other
    simp only [onEntries]
    split
    · rename_i other_eq
      subst other_eq
      have erased := (inv.clean type).erase id
        (fun action mem => by simpa using List.all_eq_true.mp notAdded action mem)
      refine ⟨erased.1, ?_⟩
      rw [erased.2]
      exact (inv.planned type).filter _
    · exact ⟨inv.clean other, inv.planned other⟩

/-- When the outermost dispatch returns, what was put off is performed. -/
theorem Inv.endDispatch (inv : program.Inv) (outer : List (Dispatch T)) :
    Inv { program with dispatcher := program.dispatcher.endDispatch outer } := by
  unfold SimpleDispatcher.endDispatch
  split
  · constructor
    · intro type
      exact ((inv.clean type).entries_foldl.map Prod.fst).nodup_iff.mpr
        (inv.clean type).nodup_foldl
    · intro type
      exact (inv.clean type).entries_foldl.trans (inv.planned type)
    · exact fun _ => rfl
  · rename_i nested
    refine ⟨inv.clean, inv.planned, ?_⟩
    intro idle
    exact absurd idle (by simpa using nested)

theorem Inv.step {cancellable : Bool} {action : DispatcherAction T H} (inv : program.Inv)
    (ordered : program.inOrder action = true)
    (stepEq : DispatcherProgram.step cancellable program action = some next) : next.Inv := by
  cases action with
  | addHandler type priority handler =>
      simp only [DispatcherProgram.step] at stepEq
      split at stepEq
      · rw [← Option.some.inj stepEq]
        exact (inv.addHandler ordered).setNextId _
      · cases stepEq
  | removeHandler type id =>
      simp only [DispatcherProgram.step] at stepEq
      split at stepEq
      · rw [← Option.some.inj stepEq]
        exact inv.removeHandler ordered
      · cases stepEq
  | dispatchEvent type =>
      simp only [DispatcherProgram.step] at stepEq
      split at stepEq
      · rw [← Option.some.inj stepEq]
        exact ⟨inv.clean, inv.planned, nofun⟩
      · cases stepEq
  | handlerReturns handled =>
      simp only [DispatcherProgram.step] at stepEq
      split at stepEq
      · split at stepEq
        · rw [← Option.some.inj stepEq]
          exact ⟨inv.clean, inv.planned, nofun⟩
        · cases stepEq
      · cases stepEq
  | dispatchReturns =>
      simp only [DispatcherProgram.step] at stepEq
      split at stepEq
      · split at stepEq
        · cases stepEq
        · rw [← Option.some.inj stepEq]
          exact inv.endDispatch _
      · cases stepEq

/-- In programs whose calls do not overtake, the handlers are the registered ones once
nothing is being dispatched. -/
theorem handlersRegistered_of_inOrder (cancellable : Bool)
    (actions : List (DispatcherAction T H)) (final : DispatcherProgram T H)
    (ordered : Guarded (DispatcherProgram.step cancellable)
      (fun program action => program.inOrder action = true) start actions)
    (runEq : run (DispatcherProgram.step cancellable) start actions = some final) :
    final.HandlersRegistered := by
  have inv : final.Inv :=
    run_invariant (fun _ _ _ inv here stepEq => inv.step here stepEq) inv_start ordered runEq
  intro idle type
  have planned := inv.planned type
  rwa [inv.settled idle] at planned

/-- A handler of one event dispatches another one, whose handler adds a handler of the
same type.  The new handler is removed by some other call. -/
def nested (removes : DispatcherAction Nat Unit) : List (DispatcherAction Nat Unit) :=
  [.addHandler 0 0 (), .addHandler 1 0 (), .dispatchEvent 0, .dispatchEvent 1,
    .addHandler 1 0 (), removes, .handlerReturns false, .dispatchReturns]

/-- If the handler is removed by the handler that added it, it is gone. -/
theorem handlersRegistered_nested :
    ∃ final, run (DispatcherProgram.step false) start
        (nested (.removeHandler 1 2) ++ [.handlerReturns false, .dispatchReturns]) = some final ∧
      final.dispatcher.currentlyDispatched.length = 0 ∧
      (final.dispatcher.handlers 1).entries = [(1, ())] ∧ final.HandlersRegistered := by
  have reached : (run (DispatcherProgram.step false) start
      (nested (.removeHandler 1 2) ++ [.handlerReturns false, .dispatchReturns])).map
        (fun final => (final.dispatcher.currentlyDispatched.length,
          (final.dispatcher.handlers 1).entries)) = some (0, [(1, ())]) := by
    decide +kernel
  rcases Option.map_eq_some_iff.mp reached with ⟨final, runEq, found⟩
  rw [Prod.mk.injEq] at found
  exact ⟨final, runEq, found.1, found.2,
    handlersRegistered_of_inOrder false _ final (by decide +kernel) runEq⟩

/-- If it is removed by the outer handler, after the inner dispatch has returned, it is
added nevertheless. -/
theorem handler_resurrected :
    ∃ final, run (DispatcherProgram.step false) start
        (nested (.removeHandler 1 7) ++
          [.removeHandler 1 2, .handlerReturns false, .dispatchReturns]) = some final ∧
      (final.dispatcher.handlers 1).entries = [(1, ()), (2, ())] ∧
      final.registered 1 = [(1, ())] ∧ ¬final.HandlersRegistered := by
  have reached : (run (DispatcherProgram.step false) start
      (nested (.removeHandler 1 7) ++
        [.removeHandler 1 2, .handlerReturns false, .dispatchReturns])).map (fun final =>
          (final.dispatcher.currentlyDispatched.length,
            (final.dispatcher.handlers 1).entries, final.registered 1)) =
              some (0, [(1, ()), (2, ())], [(1, ())]) := by
    decide +kernel
  rcases Option.map_eq_some_iff.mp reached with ⟨final, runEq, found⟩
  simp only [Prod.mk.injEq] at found
  rcases found with ⟨idle, handlers, registered⟩
  refine ⟨final, runEq, handlers, registered, ?_⟩
  intro same
  have perm := (same (List.eq_nil_of_length_eq_zero idle) 1).length_eq
  rw [handlers, registered] at perm
  cases perm

end DispatcherProgram

end VoxelEngine.Event
