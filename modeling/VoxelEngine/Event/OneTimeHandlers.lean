import VoxelEngine.Event.NestedDispatch

/-!
# Handlers that are invoked once

A handler that is to be invoked once is wrapped into one that removes itself after it has been
invoked.  The removal is put off until nothing is being dispatched any more, so that the
wrapper may still be invoked by dispatches that begin before that.
-/

namespace VoxelEngine.Event

open VoxelEngine.Transition

/-- `handler_t`.  Handlers are told apart by the order in which those of their type were created,
and the wrapper of `add_one_time_handler` has captured an identifier. -/
structure Callback where
  number : Nat
  captured : Option RawHandler
  deriving DecidableEq

namespace Callback

/-- The handler was added by `add_one_time_handler`. -/
def isOneTime (callback : Callback) : Bool :=
  callback.captured.isSome

end Callback

/-- A dispatcher with what happened to the handlers of each type of events: how many were
created, which of them are for one time, which were invoked, in this order, and which of those
for one time were registered for a dispatch that has returned. -/
structure OneTimeProgram (T : Type) where
  dispatcher : SimpleDispatcher T Callback
  created : T → Nat
  oneTime : T → List Nat
  invoked : T → List Nat
  served : T → List Nat

/-- What a program can do next. -/
inductive OneTimeAction (T : Type) where
  | addHandler (type : T) (priority : Priority)
  | addOneTimeHandler (type : T) (priority : Priority)
  | removeHandler (type : T) (id : RawHandler)
  | dispatchEvent (type : T)
  | handlerReturns
  | dispatchReturns

namespace OneTimeProgram

variable {T : Type}

/-- Nothing has been done. -/
def start : OneTimeProgram T :=
  ⟨SimpleDispatcher.create, fun _ => 0, fun _ => [], fun _ => [], fun _ => []⟩

/-- The handlers of a type, in the order in which they are invoked. -/
def entries (program : OneTimeProgram T) (type : T) : List (HandlerEntry Callback) :=
  (program.dispatcher.handlers type).entries

variable [DecidableEq T]

/-- Note that one more handler of the type was created. -/
def noteCreated (program : OneTimeProgram T) (type : T) : OneTimeProgram T :=
  { program with
    created := Function.update program.created type (program.created type + 1) }

/-- The handler at some position of a type is invoked now, if there is one. -/
def noteInvoked (program : OneTimeProgram T) (type : T) (position : Nat) : OneTimeProgram T :=
  { program with
    invoked := Function.update program.invoked type (program.invoked type ++
      ((program.entries type)[position]?.map fun entry => entry.2.number).toList) }

/-- `simple_event_dispatcher::add_handler` -/
def addHandler (program : OneTimeProgram T) (type : T) (priority : Priority)
    (captured : Option RawHandler) : OneTimeProgram T :=
  noteCreated
    { program with
      dispatcher :=
        program.dispatcher.addHandler type priority ⟨program.created type, captured⟩ }
    type

/-- `simple_event_dispatcher::add_one_time_handler`, whose wrapper captures the next
identifier. -/
def addOneTimeHandler (program : OneTimeProgram T) (type : T) (priority : Priority) :
    OneTimeProgram T :=
  { program.addHandler type priority (some program.dispatcher.nextId) with
    oneTime := Function.update program.oneTime type
      (program.oneTime type ++ [program.created type]) }

/-- The start of `simple_event_dispatcher::dispatch_event`, up to the first handler. -/
def dispatchEvent (program : OneTimeProgram T) (type : T) : OneTimeProgram T :=
  noteInvoked { program with dispatcher := program.dispatcher.beginDispatch type } type 0

/-- The handler that is being invoked returns.  If it is a wrapper, it removes itself. -/
def handlerReturns (program : OneTimeProgram T) (dispatch : Dispatch T)
    (outer : List (Dispatch T)) (entry : HandlerEntry Callback) : OneTimeProgram T :=
  let removed := match entry.2.captured with
    | some id => program.dispatcher.removeHandler dispatch.type id
    | none => program.dispatcher
  noteInvoked
    { program with
      dispatcher :=
        { removed with
          currentlyDispatched := { dispatch with returned := dispatch.returned + 1 } :: outer } }
    dispatch.type (dispatch.returned + 1)

/-- The end of `simple_event_dispatcher::dispatch_event`. -/
def dispatchReturns (program : OneTimeProgram T) (dispatch : Dispatch T)
    (outer : List (Dispatch T)) : OneTimeProgram T :=
  { program with
    dispatcher := program.dispatcher.endDispatch outer
    served := Function.update program.served dispatch.type
      (program.served dispatch.type ++
        ((program.entries dispatch.type).filter fun entry => entry.2.isOneTime).map
          fun entry => entry.2.number) }

/-- The transition relation of programs. -/
def step : Step (OneTimeProgram T) (OneTimeAction T)
  | program, .addHandler type priority =>
      if program.dispatcher.running then some (program.addHandler type priority none) else none
  | program, .addOneTimeHandler type priority =>
      if program.dispatcher.running then some (program.addOneTimeHandler type priority) else none
  | program, .removeHandler type id =>
      if program.dispatcher.running then
        some { program with dispatcher := program.dispatcher.removeHandler type id }
      else none
  | program, .dispatchEvent type =>
      if program.dispatcher.running then some (program.dispatchEvent type) else none
  | program, .handlerReturns =>
      match program.dispatcher.currentlyDispatched with
      | dispatch :: outer =>
          (program.entries dispatch.type)[dispatch.returned]?.map
            (program.handlerReturns dispatch outer)
      | [] => none
  | program, .dispatchReturns =>
      match program.dispatcher.currentlyDispatched with
      | dispatch :: outer =>
          match (program.entries dispatch.type)[dispatch.returned]? with
          | some _ => none
          | none => some (program.dispatchReturns dispatch outer)
      | [] => none

/-- A handler for one time is never invoked twice, and was invoked once if a dispatch that it
was registered for has returned. -/
def InvokedOnce (program : OneTimeProgram T) : Prop :=
  ∀ type, (∀ number ∈ program.oneTime type, (program.invoked type).count number ≤ 1) ∧
    ∀ number ∈ program.served type, (program.invoked type).count number = 1

/-- No identifier is given out that a handler of the type has.  An event is dispatched while
nothing is being dispatched, or its type is not being dispatched and no handler for one time
that was invoked is still registered, or there are no handlers for one time. -/
def Calm (program : OneTimeProgram T) : OneTimeAction T → Prop
  | .addHandler type _ | .addOneTimeHandler type _ =>
      (∀ entry ∈ program.entries type, entry.1 ≠ program.dispatcher.nextId) ∧
        ∀ action ∈ program.dispatcher.pendingActions,
          action.adds type program.dispatcher.nextId = false
  | .dispatchEvent type =>
      program.dispatcher.currentlyDispatched.isEmpty = true ∨
        ∀ entry ∈ program.entries type, entry.2.isOneTime = true →
          program.dispatcher.isDispatching type = false ∧
            entry.2.number ∉ program.invoked type
  | .removeHandler .. | .handlerReturns | .dispatchReturns => True

instance (program : OneTimeProgram T) (action : OneTimeAction T) :
    Decidable (program.Calm action) :=
  match action with
  | .addHandler type _ | .addOneTimeHandler type _ =>
      inferInstanceAs (Decidable (
        (∀ entry ∈ program.entries type, entry.1 ≠ program.dispatcher.nextId) ∧
          ∀ action ∈ program.dispatcher.pendingActions,
            action.adds type program.dispatcher.nextId = false))
  | .dispatchEvent type =>
      inferInstanceAs (Decidable (
        program.dispatcher.currentlyDispatched.isEmpty = true ∨
          ∀ entry ∈ program.entries type, entry.2.isOneTime = true →
            program.dispatcher.isDispatching type = false ∧
              entry.2.number ∉ program.invoked type))
  | .removeHandler .. | .handlerReturns | .dispatchReturns => inferInstanceAs (Decidable True)

end OneTimeProgram

/-! ## One type of events -/

/-- The handlers that exist or are going to be added, and what is known of them. -/
structure Placed (all : List (HandlerEntry Callback)) (created : Nat) (oneTime : List Nat) :
    Prop where
  captured : ∀ entry ∈ all, ∀ id ∈ entry.2.captured, id = entry.1
  number_lt : ∀ entry ∈ all, entry.2.number < created
  classified : ∀ entry ∈ all, entry.2.isOneTime = true ↔ entry.2.number ∈ oneTime
  ids : (all.map Prod.fst).Nodup
  numbers : (all.map fun entry => entry.2.number).Nodup
  oneTime_lt : ∀ number ∈ oneTime, number < created

namespace Placed

variable {all others : List (HandlerEntry Callback)} {created : Nat} {oneTime : List Nat}

theorem subperm (placed : Placed all created oneTime) (sub : others.Subperm all) :
    Placed others created oneTime where
  captured entry mem := placed.captured entry (sub.subset mem)
  number_lt entry mem := placed.number_lt entry (sub.subset mem)
  classified entry mem := placed.classified entry (sub.subset mem)
  ids := by
    rcases sub with ⟨middle, perm, sublist⟩
    exact (perm.map Prod.fst).nodup_iff.mp (placed.ids.sublist (sublist.map Prod.fst))
  numbers := by
    rcases sub with ⟨middle, perm, sublist⟩
    exact (perm.map _).nodup_iff.mp (placed.numbers.sublist (sublist.map _))
  oneTime_lt := placed.oneTime_lt

/-- And has one position. -/
theorem index_eq_of_number_eq (placed : Placed all created oneTime) {first second : Nat}
    {entry other : HandlerEntry Callback} (entryEq : all[first]? = some entry)
    (otherEq : all[second]? = some other) (same : entry.2.number = other.2.number) :
    first = second := by
  have numberEq : (all.map fun entry => entry.2.number)[first]? = some entry.2.number := by
    rw [List.getElem?_map, entryEq]
    rfl
  have otherNumberEq : (all.map fun entry => entry.2.number)[second]? =
      some entry.2.number := by
    rw [List.getElem?_map, otherEq, same]
    rfl
  rcases List.getElem?_eq_some_iff.mp numberEq with ⟨inside, _⟩
  exact (List.getElem?_inj inside placed.numbers).mp (numberEq.trans otherNumberEq.symm)

/-- A new handler with an identifier that none of the others has. -/
theorem add (placed : Placed all created oneTime) {id : RawHandler}
    (fresh : ∀ entry ∈ all, entry.1 ≠ id) {captured : Option RawHandler}
    (own : ∀ other ∈ captured, other = id) :
    Placed (all ++ [(id, ⟨created, captured⟩)]) (created + 1)
      (oneTime ++ if captured.isSome then [created] else []) := by
  have mem_ite : ∀ {number : Nat},
      number ∈ (if captured.isSome = true then [created] else []) ↔
        captured.isSome = true ∧ number = created := by
    intro number
    split
    · rename_i isSome
      rw [List.mem_singleton]
      exact (and_iff_right isSome).symm
    · rename_i notSome
      exact iff_of_false (by simp) fun both => notSome both.1
  constructor
  · intro entry mem
    rcases List.mem_append.mp mem with old | new
    · exact placed.captured entry old
    · rw [List.mem_singleton.mp new]
      exact own
  · intro entry mem
    rcases List.mem_append.mp mem with old | new
    · exact Nat.lt_succ_of_lt (placed.number_lt entry old)
    · rw [List.mem_singleton.mp new]
      exact Nat.lt_succ_self created
  · intro entry mem
    rw [List.mem_append, mem_ite]
    rcases List.mem_append.mp mem with old | new
    · have lt := placed.number_lt entry old
      rw [placed.classified entry old]
      exact (or_iff_left fun both => Nat.ne_of_lt lt both.2).symm
    · rw [List.mem_singleton.mp new]
      constructor
      · intro isOneTime
        exact Or.inr ⟨isOneTime, rfl⟩
      · rintro (old | ⟨isSome, _⟩)
        · exact absurd (placed.oneTime_lt _ old) (Nat.lt_irrefl _)
        · exact isSome
  · rw [List.map_append, List.map_singleton, List.nodup_append']
    refine ⟨placed.ids, List.nodup_singleton _, ?_⟩
    intro other mem same
    rcases List.mem_map.mp mem with ⟨entry, entryMem, rfl⟩
    exact fresh entry entryMem (List.mem_singleton.mp same)
  · rw [List.map_append, List.map_singleton, List.nodup_append']
    refine ⟨placed.numbers, List.nodup_singleton _, ?_⟩
    intro other mem same
    rcases List.mem_map.mp mem with ⟨entry, entryMem, rfl⟩
    exact Nat.ne_of_lt (placed.number_lt entry entryMem) (List.mem_singleton.mp same)
  · intro number mem
    rw [List.mem_append, mem_ite] at mem
    rcases mem with old | ⟨_, rfl⟩
    · exact Nat.lt_succ_of_lt (placed.oneTime_lt number old)
    · exact Nat.lt_succ_self number

end Placed

/-- What concerns one type of events: its handlers, what is going to be added and erased, the
dispatches of the type with the innermost one first, and what happened to the handlers. -/
structure TypeView where
  entries : List (HandlerEntry Callback)
  added : List (HandlerEntry Callback)
  erased : List RawHandler
  frames : List Nat
  created : Nat
  oneTime : List Nat
  invoked : List Nat
  served : List Nat

namespace TypeView

/-- A handler for one time that was invoked is invoked by the only dispatch of its type, or it
is going to be erased. -/
structure Inv (view : TypeView) : Prop where
  placed : Placed (view.entries ++ view.added) view.created view.oneTime
  invoked_lt : ∀ number ∈ view.invoked, number < view.created
  unstarted : ∀ entry ∈ view.added, entry.2.number ∉ view.invoked
  once : ∀ number ∈ view.oneTime, view.invoked.count number ≤ 1
  sole : ∀ entry ∈ view.entries, entry.2.isOneTime = true → view.frames.length ≤ 1
  started : ∀ returned ∈ view.frames, ∀ position entry,
    view.entries[position]? = some entry → position ≤ returned →
      entry.2.number ∈ view.invoked
  waiting : ∀ returned ∈ view.frames, ∀ position entry,
    view.entries[position]? = some entry → entry.2.isOneTime = true →
      entry.2.number ∈ view.invoked →
        position ≤ returned ∧ (position < returned → entry.1 ∈ view.erased)
  settled : view.frames = [] → ∀ entry ∈ view.entries, entry.2.isOneTime = true →
    entry.2.number ∈ view.invoked → entry.1 ∈ view.erased
  served : ∀ number ∈ view.served, number ∈ view.oneTime ∧ number ∈ view.invoked

namespace Inv

variable {view : TypeView}

theorem empty : Inv ⟨[], [], [], [], 0, [], [], []⟩ := by
  constructor
  · constructor <;> simp
  all_goals simp

/-- What is known of the handlers that exist. -/
theorem placed_entries (inv : view.Inv) : Placed view.entries view.created view.oneTime :=
  inv.placed.subperm (List.sublist_append_left _ _).subperm

/-- No handler was invoked before it was created. -/
theorem once_created (inv : view.Inv) (captured : Option RawHandler) :
    ∀ number ∈ view.oneTime ++ (if captured.isSome then [view.created] else []),
      view.invoked.count number ≤ 1 := by
  intro number mem
  rcases List.mem_append.mp mem with old | new
  · exact inv.once number old
  · split at new
    · have notInvoked : number ∉ view.invoked := by
        rw [List.mem_singleton.mp new]
        exact fun invoked => Nat.lt_irrefl _ (inv.invoked_lt _ invoked)
      rw [List.count_eq_zero_of_not_mem notInvoked]
      exact Nat.zero_le 1
    · cases new

theorem served_created (inv : view.Inv) (captured : Option RawHandler) :
    ∀ number ∈ view.served,
      number ∈ view.oneTime ++ (if captured.isSome then [view.created] else []) ∧
        number ∈ view.invoked := by
  intro number mem
  exact ⟨List.mem_append_left _ (inv.served number mem).1, (inv.served number mem).2⟩

/-- A handler is added later. -/
theorem defer (inv : view.Inv) {id : RawHandler}
    (fresh : ∀ entry ∈ view.entries ++ view.added, entry.1 ≠ id)
    {captured : Option RawHandler} (own : ∀ other ∈ captured, other = id) :
    Inv { view with
      added := view.added ++ [(id, ⟨view.created, captured⟩)]
      created := view.created + 1
      oneTime := view.oneTime ++ if captured.isSome then [view.created] else [] } := by
  have placed := inv.placed.add fresh own
  rw [List.append_assoc] at placed
  refine ⟨placed, ?_, ?_, inv.once_created captured, inv.sole, inv.started, inv.waiting,
    inv.settled, inv.served_created captured⟩
  · intro number mem
    exact Nat.lt_succ_of_lt (inv.invoked_lt number mem)
  · intro entry mem
    rcases List.mem_append.mp mem with old | new
    · exact inv.unstarted entry old
    · rw [List.mem_singleton.mp new]
      exact fun invoked => Nat.lt_irrefl _ (inv.invoked_lt _ invoked)

/-- A handler is added at once. -/
theorem add (inv : view.Inv) (idle : view.frames = []) {id : RawHandler}
    (fresh : ∀ entry ∈ view.entries ++ view.added, entry.1 ≠ id)
    {captured : Option RawHandler} (own : ∀ other ∈ captured, other = id)
    {entries : List (HandlerEntry Callback)}
    (perm : entries.Perm (view.entries ++ [(id, ⟨view.created, captured⟩)])) :
    Inv { view with
      entries := entries
      created := view.created + 1
      oneTime := view.oneTime ++ if captured.isSome then [view.created] else [] } := by
  have moved : (entries ++ view.added).Perm
      (view.entries ++ view.added ++ [(id, ⟨view.created, captured⟩)]) := by
    apply (perm.append_right _).trans
    rw [List.append_assoc, List.append_assoc]
    exact List.Perm.append_left _ List.perm_append_comm
  refine ⟨(inv.placed.add fresh own).subperm moved.subperm, ?_, inv.unstarted,
    inv.once_created captured, ?_, ?_, ?_, ?_, inv.served_created captured⟩
  · intro number mem
    exact Nat.lt_succ_of_lt (inv.invoked_lt number mem)
  · simp [idle]
  · simp [idle]
  · simp [idle]
  · intro _ entry mem isOneTime invoked
    rcases List.mem_append.mp (perm.mem_iff.mp mem) with old | new
    · exact inv.settled idle entry old isOneTime invoked
    · rw [List.mem_singleton.mp new] at invoked
      exact absurd (inv.invoked_lt _ invoked) (Nat.lt_irrefl _)

/-- Handlers are removed later. -/
theorem deferErase (inv : view.Inv) (ids : List RawHandler) :
    Inv { view with erased := view.erased ++ ids } := by
  refine ⟨inv.placed, inv.invoked_lt, inv.unstarted, inv.once, inv.sole, inv.started, ?_, ?_,
    inv.served⟩
  · intro returned mem position entry entryEq isOneTime invoked
    rcases inv.waiting returned mem position entry entryEq isOneTime invoked with ⟨le, erased⟩
    exact ⟨le, fun lt => List.mem_append_left _ (erased lt)⟩
  · intro idle entry mem isOneTime invoked
    exact List.mem_append_left _ (inv.settled idle entry mem isOneTime invoked)

/-- Handlers are removed at once. -/
theorem erase (inv : view.Inv) (idle : view.frames = []) {entries : List (HandlerEntry Callback)}
    (sub : entries.Subperm view.entries) : Inv { view with entries := entries } := by
  refine ⟨inv.placed.subperm ((List.subperm_append_right _).mpr sub), inv.invoked_lt, inv.unstarted,
    inv.once,
    ?_, ?_, ?_, ?_, inv.served⟩
  · simp [idle]
  · simp [idle]
  · simp [idle]
  · intro _ entry mem
    exact inv.settled idle entry (sub.subset mem)

/-- A handler that was not invoked before is, if it is for one time. -/
theorem once_invoked (inv : view.Inv) {position : Nat}
    (first : ∀ entry, view.entries[position]? = some entry → entry.2.isOneTime = true →
      entry.2.number ∉ view.invoked) :
    ∀ number ∈ view.oneTime, (view.invoked ++
      (view.entries[position]?.map fun entry => entry.2.number).toList).count number ≤ 1 := by
  intro number mem
  rw [List.count_append]
  cases entryEq : view.entries[position]? with
  | none => exact inv.once number mem
  | some entry =>
      simp only [Option.map_some, Option.toList_some]
      by_cases same : entry.2.number = number
      · have isOneTime : entry.2.isOneTime = true := by
          rw [inv.placed_entries.classified entry (List.mem_of_getElem? entryEq), same]
          exact mem
        have notInvoked := first entry entryEq isOneTime
        rw [same] at notInvoked
        rw [List.count_eq_zero_of_not_mem notInvoked, same, Nat.zero_add]
        exact Nat.le_of_eq List.count_singleton_self
      · rw [List.count_singleton, if_neg (by simpa using same)]
        exact inv.once number mem

/-- What was invoked is a handler that exists. -/
theorem mem_invoked {position number : Nat}
    (mem : number ∈ view.invoked ++
      (view.entries[position]?.map fun entry => entry.2.number).toList) :
    number ∈ view.invoked ∨
      ∃ entry, view.entries[position]? = some entry ∧ entry.2.number = number := by
  rcases List.mem_append.mp mem with old | new
  · exact Or.inl old
  · rw [Option.mem_toList, Option.map_eq_some_iff] at new
    exact Or.inr new

theorem mem_invoked_of_getElem? {position : Nat} {entry : HandlerEntry Callback}
    (entryEq : view.entries[position]? = some entry) :
    entry.2.number ∈ view.invoked ++
      (view.entries[position]?.map fun entry => entry.2.number).toList := by
  rw [entryEq]
  exact List.mem_append_right _ (List.mem_singleton_self _)

theorem invoked_lt_invoked (inv : view.Inv) (position : Nat) :
    ∀ number ∈ view.invoked ++
        (view.entries[position]?.map fun entry => entry.2.number).toList,
      number < view.created := by
  intro number mem
  rcases mem_invoked mem with old | ⟨entry, entryEq, rfl⟩
  · exact inv.invoked_lt number old
  · exact inv.placed_entries.number_lt entry (List.mem_of_getElem? entryEq)

theorem unstarted_invoked (inv : view.Inv) (position : Nat) :
    ∀ entry ∈ view.added, entry.2.number ∉ view.invoked ++
      (view.entries[position]?.map fun entry => entry.2.number).toList := by
  intro entry mem invoked
  rcases mem_invoked invoked with old | ⟨other, otherEq, same⟩
  · exact inv.unstarted entry mem old
  · have numbers := inv.placed.numbers
    rw [List.map_append, List.nodup_append'] at numbers
    apply numbers.2.2 (List.mem_map_of_mem (List.mem_of_getElem? otherEq))
    rw [same]
    exact List.mem_map_of_mem mem

/-- The dispatch of an event begins, where no handler for one time was invoked or is going to be
invoked. -/
theorem dispatch (inv : view.Inv)
    (calm : ∀ entry ∈ view.entries, entry.2.isOneTime = true →
      view.frames = [] ∧ entry.2.number ∉ view.invoked) :
    Inv { view with
      frames := 0 :: view.frames
      invoked := view.invoked ++
        (view.entries[0]?.map fun entry => entry.2.number).toList } := by
  refine ⟨inv.placed, inv.invoked_lt_invoked 0, inv.unstarted_invoked 0, ?_, ?_, ?_, ?_, nofun,
    ?_⟩
  · apply inv.once_invoked
    intro entry entryEq isOneTime
    exact (calm entry (List.mem_of_getElem? entryEq) isOneTime).2
  · intro entry mem isOneTime
    rw [(calm entry mem isOneTime).1]
    exact Nat.le_refl 1
  · intro returned mem position entry entryEq le
    rcases List.mem_cons.mp mem with rfl | old
    · rw [Nat.le_zero.mp le] at entryEq
      exact mem_invoked_of_getElem? entryEq
    · exact List.mem_append_left _ (inv.started returned old position entry entryEq le)
  · intro returned mem position entry entryEq isOneTime invoked
    have entryCalm := calm entry (List.mem_of_getElem? entryEq) isOneTime
    rcases mem_invoked invoked with old | ⟨other, otherEq, same⟩
    · exact absurd old entryCalm.2
    · have position_eq := inv.placed_entries.index_eq_of_number_eq otherEq entryEq same
      subst position_eq
      rw [entryCalm.1, List.mem_singleton] at mem
      subst mem
      exact ⟨Nat.le_refl 0, fun lt => absurd lt (Nat.lt_irrefl 0)⟩
  · intro number mem
    exact ⟨(inv.served number mem).1, List.mem_append_left _ (inv.served number mem).2⟩

/-- A handler returns, and the next one is invoked. -/
theorem proceed (inv : view.Inv) {returned : Nat} {outer : List Nat}
    (framesEq : view.frames = returned :: outer) {entry : HandlerEntry Callback}
    (entryEq : view.entries[returned]? = some entry) :
    Inv { view with
      erased := view.erased ++ entry.2.captured.toList
      frames := (returned + 1) :: outer
      invoked := view.invoked ++
        (view.entries[returned + 1]?.map fun entry => entry.2.number).toList } := by
  have current : returned ∈ view.frames := by
    rw [framesEq]
    exact List.mem_cons_self
  have older : ∀ frame ∈ outer, frame ∈ view.frames := by
    intro frame mem
    rw [framesEq]
    exact List.mem_cons_of_mem _ mem
  -- While a handler for one time exists, there is just this dispatch.
  have alone : ∀ other ∈ view.entries, other.2.isOneTime = true → outer = [] := by
    intro other mem isOneTime
    have lengthLe := inv.sole other mem isOneTime
    rw [framesEq, List.length_cons] at lengthLe
    exact List.eq_nil_of_length_eq_zero (Nat.le_zero.mp (Nat.le_of_succ_le_succ lengthLe))
  refine ⟨inv.placed, inv.invoked_lt_invoked _, inv.unstarted_invoked _, ?_, ?_, ?_, ?_, nofun,
    ?_⟩
  · apply inv.once_invoked
    intro other otherEq isOneTime invoked
    have le := (inv.waiting returned current _ other otherEq isOneTime invoked).1
    exact Nat.not_succ_le_self returned le
  · intro other mem isOneTime
    rw [alone other mem isOneTime]
    exact Nat.le_refl 1
  · intro frame mem position other otherEq le
    rcases List.mem_cons.mp mem with rfl | old
    · rcases Nat.le_succ_iff.mp le with before | rfl
      · exact List.mem_append_left _
          (inv.started returned current position other otherEq before)
      · exact mem_invoked_of_getElem? otherEq
    · exact List.mem_append_left _
        (inv.started frame (older frame old) position other otherEq le)
  · intro frame mem position other otherEq isOneTime invoked
    rw [alone other (List.mem_of_getElem? otherEq) isOneTime, List.mem_singleton] at mem
    subst mem
    rcases mem_invoked invoked with old | ⟨next, nextEq, same⟩
    · rcases inv.waiting returned current position other otherEq isOneTime old with ⟨le, erased⟩
      refine ⟨Nat.le_succ_of_le le, ?_⟩
      intro _
      rcases Nat.lt_or_eq_of_le le with before | position_eq
      · exact List.mem_append_left _ (erased before)
      · rw [position_eq, entryEq, Option.some.injEq] at otherEq
        subst otherEq
        rcases Option.isSome_iff_exists.mp isOneTime with ⟨id, idEq⟩
        have own := inv.placed_entries.captured entry (List.mem_of_getElem? entryEq) id idEq
        rw [idEq, own]
        exact List.mem_append_right _ (List.mem_singleton_self _)
    · have position_eq := inv.placed_entries.index_eq_of_number_eq nextEq otherEq same
      subst position_eq
      exact ⟨Nat.le_refl _, fun lt => absurd lt (Nat.lt_irrefl _)⟩
  · intro number mem
    exact ⟨(inv.served number mem).1, List.mem_append_left _ (inv.served number mem).2⟩

/-- All handlers have returned. -/
theorem finish (inv : view.Inv) {returned : Nat} {outer : List Nat}
    (framesEq : view.frames = returned :: outer) (passed : view.entries[returned]? = none) :
    Inv { view with
      frames := outer
      served := view.served ++ (view.entries.filter fun entry => entry.2.isOneTime).map
        fun entry => entry.2.number } := by
  have current : returned ∈ view.frames := by
    rw [framesEq]
    exact List.mem_cons_self
  have older : ∀ frame ∈ outer, frame ∈ view.frames := by
    intro frame mem
    rw [framesEq]
    exact List.mem_cons_of_mem _ mem
  have before : ∀ entry ∈ view.entries, ∃ position < returned,
      view.entries[position]? = some entry := by
    intro entry mem
    rcases List.getElem?_of_mem mem with ⟨position, entryEq⟩
    rcases List.getElem?_eq_some_iff.mp entryEq with ⟨inside, _⟩
    exact ⟨position, Nat.lt_of_lt_of_le inside (List.getElem?_eq_none_iff.mp passed), entryEq⟩
  refine ⟨inv.placed, inv.invoked_lt, inv.unstarted, inv.once, ?_, ?_, ?_, ?_, ?_⟩
  · intro entry mem isOneTime
    have lengthLe := inv.sole entry mem isOneTime
    rw [framesEq, List.length_cons] at lengthLe
    exact Nat.le_of_succ_le lengthLe
  · intro frame mem
    exact inv.started frame (older frame mem)
  · intro frame mem
    exact inv.waiting frame (older frame mem)
  · intro _ entry mem isOneTime invoked
    rcases before entry mem with ⟨position, lt, entryEq⟩
    exact (inv.waiting returned current position entry entryEq isOneTime invoked).2 lt
  · intro number mem
    rcases List.mem_append.mp mem with old | new
    · exact inv.served number old
    · rcases List.mem_map.mp new with ⟨entry, entryMem, rfl⟩
      rcases List.mem_filter.mp entryMem with ⟨present, isOneTime⟩
      rcases before entry present with ⟨position, lt, entryEq⟩
      exact ⟨(inv.placed_entries.classified entry present).mp isOneTime,
        inv.started returned current position entry entryEq (Nat.le_of_lt lt)⟩

/-- What was put off is performed. -/
theorem flush (inv : view.Inv) (idle : view.frames = []) {entries : List (HandlerEntry Callback)}
    (sub : entries.Subperm (view.entries ++ view.added))
    (erased : ∀ entry ∈ entries, entry ∈ view.added ∨ entry.1 ∉ view.erased) :
    Inv { view with entries := entries, added := [], erased := [] } := by
  refine ⟨?_, inv.invoked_lt, by simp, inv.once, ?_, ?_, ?_, ?_, inv.served⟩
  · change Placed (entries ++ []) view.created view.oneTime
    rw [List.append_nil]
    exact inv.placed.subperm sub
  · simp [idle]
  · simp [idle]
  · simp [idle]
  · intro _ entry mem isOneTime invoked
    exfalso
    rcases erased entry mem with new | kept
    · exact inv.unstarted entry new invoked
    · rcases List.mem_append.mp (sub.subset mem) with old | new
      · exact kept (inv.settled idle entry old isOneTime invoked)
      · exact inv.unstarted entry new invoked

end Inv

end TypeView

/-! ## What was put off -/

namespace PendingAction

variable {T H : Type} [DecidableEq T]

/-- The handler that the action adds to a type. -/
def added (type : T) : PendingAction T H → Option (HandlerEntry H)
  | .add other _ id handler => if other = type then some (id, handler) else none
  | .erase .. => none

/-- The identifier that the action erases from a type. -/
def erased (type : T) : PendingAction T H → Option RawHandler
  | .add .. => none
  | .erase other id => if other = type then some id else none

variable {type : T} {entries : List (HandlerEntry H)} {actions : List (PendingAction T H)}

omit [DecidableEq T] in
theorem filterMap_cons_toList {β : Type} (f : PendingAction T H → Option β)
    (action : PendingAction T H) (rest : List (PendingAction T H)) :
    (action :: rest).filterMap f = (f action).toList ++ rest.filterMap f := by
  cases found : f action with
  | none => rw [List.filterMap_cons_none found, Option.toList_none, List.nil_append]
  | some value => rw [List.filterMap_cons_some found, Option.toList_some, List.singleton_append]

/-- One action leaves nothing but what was there and what it adds. -/
theorem onEntries_sublist (action : PendingAction T H) :
    (action.onEntries type entries).Sublist (entries ++ (action.added type).toList) := by
  cases action with
  | add other priority id handler =>
      simp only [onEntries, added]
      split
      · exact List.Sublist.refl _
      · rw [Option.toList_none, List.append_nil]
  | erase other id =>
      simp only [onEntries, added, Option.toList_none, List.append_nil]
      split
      · exact List.filter_sublist
      · exact List.Sublist.refl _

/-- Nothing is left but what was there and what is added. -/
theorem foldl_onEntries_sublist :
    (actions.foldl (onEntries type) entries).Sublist
      (entries ++ actions.filterMap (added type)) := by
  induction actions generalizing entries with
  | nil => exact List.sublist_append_left _ _
  | cons action rest ih =>
      rw [List.foldl_cons, filterMap_cons_toList, ← List.append_assoc]
      exact ih.trans ((onEntries_sublist action).append_right _)

/-- What one action leaves was added by it, or it is not erased. -/
theorem added_or_kept_onEntries {entry : HandlerEntry H} {action : PendingAction T H}
    (mem : entry ∈ action.onEntries type entries) :
    entry ∈ (action.added type).toList ∨
      entry ∈ entries ∧ entry.1 ∉ (action.erased type).toList := by
  cases action with
  | add other priority id handler =>
      by_cases other_eq : other = type
      · simp only [onEntries, added, erased, if_pos other_eq] at mem ⊢
        rcases List.mem_append.mp mem with old | new
        · exact Or.inr ⟨old, List.not_mem_nil⟩
        · exact Or.inl new
      · simp only [onEntries, erased, if_neg other_eq] at mem ⊢
        exact Or.inr ⟨mem, List.not_mem_nil⟩
  | erase other id =>
      right
      by_cases other_eq : other = type
      · simp only [onEntries, erased, if_pos other_eq] at mem ⊢
        rcases List.mem_filter.mp mem with ⟨old, other_id⟩
        rw [Option.toList_some, List.mem_singleton]
        exact ⟨old, of_decide_eq_true other_id⟩
      · simp only [onEntries, erased, if_neg other_eq] at mem ⊢
        exact ⟨mem, List.not_mem_nil⟩

/-- What is left was added, or it is not erased. -/
theorem added_or_kept {entry : HandlerEntry H}
    (mem : entry ∈ actions.foldl (onEntries type) entries) :
    entry ∈ actions.filterMap (added type) ∨
      entry ∈ entries ∧ entry.1 ∉ actions.filterMap (erased type) := by
  induction actions generalizing entries with
  | nil => exact Or.inr ⟨mem, List.not_mem_nil⟩
  | cons action rest ih =>
      rw [filterMap_cons_toList, filterMap_cons_toList, List.mem_append, List.mem_append, not_or]
      rcases ih mem with later | ⟨here, kept⟩
      · exact Or.inl (Or.inr later)
      · rcases added_or_kept_onEntries here with new | ⟨old, notErased⟩
        · exact Or.inl (Or.inl new)
        · exact Or.inr ⟨old, notErased, kept⟩

/-- No identifier is used twice if all handlers that are added have different ones. -/
theorem clean_of_nodup
    (nodup : ((entries ++ actions.filterMap (added type)).map Prod.fst).Nodup) :
    Clean type actions entries := by
  induction actions generalizing entries with
  | nil =>
      rw [List.filterMap_nil, List.append_nil] at nodup
      exact nodup
  | cons action rest ih =>
      refine ⟨nodup.sublist ((List.sublist_append_left _ _).map _), ih ?_⟩
      rw [filterMap_cons_toList, ← List.append_assoc] at nodup
      exact nodup.sublist (((onEntries_sublist action).append_right _).map _)

end PendingAction

namespace OneTimeProgram

open PendingAction

variable {T : Type} [DecidableEq T]

/-- What a program does with the events of one type. -/
def view (program : OneTimeProgram T) (type : T) : TypeView where
  entries := program.entries type
  added := program.dispatcher.pendingActions.filterMap (added type)
  erased := program.dispatcher.pendingActions.filterMap (erased type)
  frames := program.dispatcher.currentlyDispatched.filterMap fun dispatch =>
    if dispatch.type = type then some dispatch.returned else none
  created := program.created type
  oneTime := program.oneTime type
  invoked := program.invoked type
  served := program.served type

/-- All types are in order, and nothing is put off while nothing is being dispatched. -/
structure Inv (program : OneTimeProgram T) : Prop where
  views : ∀ type, (program.view type).Inv
  idle : program.dispatcher.currentlyDispatched = [] → program.dispatcher.pendingActions = []

variable {program next : OneTimeProgram T} {type other : T}

/-- The innermost dispatch is the first one of its type. -/
theorem view_frames_cons {dispatch : Dispatch T} {outer : List (Dispatch T)}
    (dispatchedEq : program.dispatcher.currentlyDispatched = dispatch :: outer) :
    (program.view dispatch.type).frames =
      dispatch.returned :: (outer.filterMap fun other =>
        if other.type = dispatch.type then some other.returned else none) := by
  simp [view, dispatchedEq]

theorem inv_start : (start : OneTimeProgram T).Inv :=
  ⟨fun _ => TypeView.Inv.empty, fun _ => rfl⟩

@[simp]
theorem isDispatching_eq_false_iff :
    program.dispatcher.isDispatching type = false ↔ (program.view type).frames = [] := by
  simp [SimpleDispatcher.isDispatching, view, List.filterMap_eq_nil_iff]

/-- The identifier that is given out next is fresh. -/
theorem fresh_of_calm {priority : Priority} (calm : program.Calm (.addHandler type priority)) :
    ∀ entry ∈ (program.view type).entries ++ (program.view type).added,
      entry.1 ≠ program.dispatcher.nextId := by
  intro entry mem
  rcases List.mem_append.mp mem with present | later
  · exact calm.1 entry present
  · rcases List.mem_filterMap.mp later with ⟨action, actionMem, addedEq⟩
    have notAdded := calm.2 action actionMem
    cases action with
    | add other priority id handler =>
        simp only [added] at addedEq
        split at addedEq
        · rename_i other_eq
          cases addedEq
          simpa [adds, other_eq] using notAdded
        · cases addedEq
    | erase other id => cases addedEq

/-! ### Adding and removing -/

theorem added_eq_none {action : PendingAction T Callback} (different : action.type ≠ other) :
    action.added other = none ∧ action.erased other = none := by
  cases action with
  | add type priority id handler => exact ⟨if_neg different, rfl⟩
  | erase type id => exact ⟨rfl, if_neg different⟩

/-- A call about one type of events does not concern another one. -/
theorem view_performOrDefer_of_ne {action : PendingAction T Callback}
    (different : action.type ≠ other) {after : OneTimeProgram T}
    (handlersEq : after.dispatcher.handlers =
      (program.dispatcher.performOrDefer type action).handlers)
    (pendingEq : after.dispatcher.pendingActions =
      (program.dispatcher.performOrDefer type action).pendingActions)
    (dispatchedEq : after.dispatcher.currentlyDispatched =
      program.dispatcher.currentlyDispatched)
    (createdEq : after.created other = program.created other)
    (oneTimeEq : after.oneTime other = program.oneTime other)
    (invokedEq : after.invoked other = program.invoked other)
    (servedEq : after.served other = program.served other) :
    after.view other = program.view other := by
  rcases added_eq_none different with ⟨addedEq, erasedEq⟩
  simp only [view, entries, handlersEq, pendingEq, dispatchedEq, createdEq, oneTimeEq, invokedEq,
    servedEq, SimpleDispatcher.performOrDefer]
  split
  · simp [List.filterMap_append, addedEq, erasedEq]
  · simp only [perform_eq_update, Function.update_of_ne (Ne.symm different)]

theorem performOrDefer_of_isDispatching (dispatcher : SimpleDispatcher T Callback)
    (dispatching : dispatcher.isDispatching type = true) (action : PendingAction T Callback) :
    dispatcher.performOrDefer type action =
      { dispatcher with pendingActions := dispatcher.pendingActions ++ [action] } :=
  if_pos dispatching

theorem performOrDefer_of_not_isDispatching (dispatcher : SimpleDispatcher T Callback)
    (quiet : dispatcher.isDispatching type = false) (action : PendingAction T Callback) :
    dispatcher.performOrDefer type action =
      { dispatcher with handlers := perform dispatcher.handlers action } :=
  if_neg (by rw [quiet]; exact Bool.false_ne_true)

@[simp]
theorem currentlyDispatched_performOrDefer (dispatcher : SimpleDispatcher T Callback)
    (type : T) (action : PendingAction T Callback) :
    (dispatcher.performOrDefer type action).currentlyDispatched =
      dispatcher.currentlyDispatched := by
  unfold SimpleDispatcher.performOrDefer
  split
  · rfl
  · rfl

/-- Nothing is put off while nothing is being dispatched. -/
theorem Inv.idle_performOrDefer (inv : program.Inv) (action : PendingAction T Callback)
    (quiet : program.dispatcher.currentlyDispatched = []) :
    (program.dispatcher.performOrDefer type action).pendingActions = [] := by
  have notDispatching : program.dispatcher.isDispatching type = false := by
    rw [SimpleDispatcher.isDispatching, quiet]
    rfl
  rw [performOrDefer_of_not_isDispatching _ notDispatching]
  exact inv.idle quiet

/-- A handler with a fresh identifier is added. -/
theorem Inv.addHandler (inv : program.Inv) {priority : Priority}
    (calm : program.Calm (.addHandler type priority)) {captured : Option RawHandler}
    (own : ∀ other ∈ captured, other = program.dispatcher.nextId) :
    Inv { program.addHandler type priority captured with
      oneTime := Function.update program.oneTime type (program.oneTime type ++
        if captured.isSome then [program.created type] else []) } := by
  have fresh := fresh_of_calm calm
  constructor
  · intro other
    by_cases other_eq : other = type
    · subst other_eq
      cases dispatching : program.dispatcher.isDispatching other with
      | true =>
          have deferred := (inv.views other).defer fresh own
          refine Eq.mp (congrArg TypeView.Inv ?_) deferred
          simp [view, entries, OneTimeProgram.addHandler, noteCreated,
            SimpleDispatcher.addHandler, performOrDefer_of_isDispatching _ dispatching, added,
            erased]
      | false =>
          have idle := isDispatching_eq_false_iff.mp dispatching
          have performed : (perform program.dispatcher.handlers
              (.add other priority program.dispatcher.nextId ⟨program.created other, captured⟩)
                other).entries.Perm ((program.view other).entries ++
                  [(program.dispatcher.nextId, ⟨program.created other, captured⟩)]) := by
            simp only [perform, Function.update_self]
            exact HandlerTable.entries_emplaceBack _ _ _
          have placed := (inv.views other).add idle fresh own performed
          refine Eq.mp (congrArg TypeView.Inv ?_) placed
          simp [view, entries, OneTimeProgram.addHandler, noteCreated,
            SimpleDispatcher.addHandler, performOrDefer_of_not_isDispatching _ dispatching]
    · have viewEq : view { program.addHandler type priority captured with
          oneTime := Function.update program.oneTime type (program.oneTime type ++
            if captured.isSome then [program.created type] else []) } other =
              program.view other := by
        have different : (PendingAction.add type priority program.dispatcher.nextId
            (⟨program.created type, captured⟩ : Callback)).type ≠ other := Ne.symm other_eq
        apply @view_performOrDefer_of_ne T _ program type other _ different _ rfl rfl
        · exact currentlyDispatched_performOrDefer _ _ _
        · exact Function.update_of_ne other_eq _ _
        · exact Function.update_of_ne other_eq _ _
        · rfl
        · rfl
      rw [viewEq]
      exact inv.views other
  · intro quiet
    apply inv.idle_performOrDefer
    exact (currentlyDispatched_performOrDefer _ _ _).symm.trans quiet

/-- A handler is removed, or is going to be. -/
theorem Inv.removeHandler (inv : program.Inv) (type : T) (id : RawHandler) :
    Inv { program with dispatcher := program.dispatcher.removeHandler type id } := by
  constructor
  · intro other
    by_cases other_eq : other = type
    · subst other_eq
      cases dispatching : program.dispatcher.isDispatching other with
      | true =>
          have deferred := (inv.views other).deferErase [id]
          refine Eq.mp (congrArg TypeView.Inv ?_) deferred
          simp [view, entries, SimpleDispatcher.removeHandler,
            performOrDefer_of_isDispatching _ dispatching, added, erased]
      | false =>
          have idle := isDispatching_eq_false_iff.mp dispatching
          have sub : (perform program.dispatcher.handlers (.erase other id)
              other).entries.Subperm (program.view other).entries := by
            simp only [perform, Function.update_self]
            rcases HandlerTable.entries_erase (program.dispatcher.handlers other) id with
              ⟨handler, perm⟩ | ⟨_, same⟩
            · exact ((List.sublist_cons_self _ _).subperm).trans perm.symm.subperm
            · rw [same]
              exact List.Subperm.refl _
          have removed := (inv.views other).erase idle sub
          refine Eq.mp (congrArg TypeView.Inv ?_) removed
          simp [view, entries, SimpleDispatcher.removeHandler,
            performOrDefer_of_not_isDispatching _ dispatching]
    · have viewEq : view { program with
          dispatcher := program.dispatcher.removeHandler type id } other =
            program.view other := by
        have different : (PendingAction.erase type id : PendingAction T Callback).type ≠ other :=
          Ne.symm other_eq
        apply @view_performOrDefer_of_ne T _ program type other _ different _ rfl rfl
        · exact currentlyDispatched_performOrDefer _ _ _
        · rfl
        · rfl
        · rfl
        · rfl
      rw [viewEq]
      exact inv.views other
  · intro quiet
    apply inv.idle_performOrDefer
    exact (currentlyDispatched_performOrDefer _ _ _).symm.trans quiet

/-! ### Dispatching -/

theorem Inv.dispatchEvent (inv : program.Inv) (calm : program.Calm (.dispatchEvent type)) :
    (program.dispatchEvent type).Inv := by
  constructor
  · intro other
    by_cases other_eq : other = type
    · subst other_eq
      have begun : (program.view other).Inv := inv.views other
      have unstarted : ∀ entry ∈ (program.view other).entries, entry.2.isOneTime = true →
          (program.view other).frames = [] ∧
            entry.2.number ∉ (program.view other).invoked := by
        intro entry mem isOneTime
        rcases calm with quiet | calm
        · rw [List.isEmpty_iff] at quiet
          have idle : (program.view other).frames = [] := by
            simp [view, quiet]
          refine ⟨idle, fun invoked => ?_⟩
          have erased := begun.settled idle entry mem isOneTime invoked
          rw [view, inv.idle quiet] at erased
          cases erased
        · rcases calm entry mem isOneTime with ⟨notDispatching, notInvoked⟩
          exact ⟨isDispatching_eq_false_iff.mp notDispatching, notInvoked⟩
      refine Eq.mp (congrArg TypeView.Inv ?_) (begun.dispatch unstarted)
      simp [view, entries, OneTimeProgram.dispatchEvent, noteInvoked,
        SimpleDispatcher.beginDispatch]
    · refine Eq.mp (congrArg TypeView.Inv ?_) (inv.views other)
      simp [view, entries, OneTimeProgram.dispatchEvent, noteInvoked,
        SimpleDispatcher.beginDispatch, Ne.symm other_eq, other_eq]
  · exact nofun

theorem Inv.handlerReturns (inv : program.Inv) {dispatch : Dispatch T} {outer : List (Dispatch T)}
    (dispatchedEq : program.dispatcher.currentlyDispatched = dispatch :: outer)
    {entry : HandlerEntry Callback}
    (entryEq : (program.entries dispatch.type)[dispatch.returned]? = some entry) :
    (program.handlerReturns dispatch outer entry).Inv := by
  have dispatching : program.dispatcher.isDispatching dispatch.type = true := by
    rw [SimpleDispatcher.isDispatching, dispatchedEq]
    simp
  -- The type is being dispatched, so that the wrapper does not remove itself at once.
  have removedEq : (match entry.2.captured with
      | some id => program.dispatcher.removeHandler dispatch.type id
      | none => program.dispatcher) =
        { program.dispatcher with
          pendingActions := program.dispatcher.pendingActions ++
            entry.2.captured.toList.map (PendingAction.erase dispatch.type) } := by
    cases entry.2.captured with
    | none => simp
    | some id => exact performOrDefer_of_isDispatching _ dispatching _
  have addedEq : ∀ other, (entry.2.captured.toList.map
      (PendingAction.erase dispatch.type : RawHandler → PendingAction T Callback)).filterMap
        (added other) = [] := by
    intro other
    cases entry.2.captured <;> rfl
  rw [OneTimeProgram.handlerReturns, removedEq]
  constructor
  · intro other
    by_cases other_eq : other = dispatch.type
    · subst other_eq
      have framesEq := view_frames_cons dispatchedEq
      have erasedEq : (entry.2.captured.toList.map
          (PendingAction.erase dispatch.type : RawHandler → PendingAction T Callback)).filterMap
            (erased dispatch.type) = entry.2.captured.toList := by
        cases entry.2.captured with
        | none => rfl
        | some id => simp [erased]
      refine Eq.mp (congrArg TypeView.Inv ?_)
        ((inv.views dispatch.type).proceed framesEq entryEq)
      simp [view, entries, noteInvoked, List.filterMap_append, addedEq, erasedEq]
    · have erasedEq : (entry.2.captured.toList.map
          (PendingAction.erase dispatch.type : RawHandler → PendingAction T Callback)).filterMap
            (erased other) = [] := by
        cases entry.2.captured with
        | none => rfl
        | some id => simp [erased, Ne.symm other_eq]
      refine Eq.mp (congrArg TypeView.Inv ?_) (inv.views other)
      simp [view, entries, noteInvoked, List.filterMap_append, addedEq, erasedEq, dispatchedEq,
        Ne.symm other_eq, other_eq]
  · exact nofun

/-- A dispatch that has returned leaves all types in order. -/
theorem Inv.finish (inv : program.Inv) {dispatch : Dispatch T} {outer : List (Dispatch T)}
    (dispatchedEq : program.dispatcher.currentlyDispatched = dispatch :: outer)
    (passed : (program.entries dispatch.type)[dispatch.returned]? = none) (other : T) :
    (view { program.dispatchReturns dispatch outer with
      dispatcher := { program.dispatcher with currentlyDispatched := outer } } other).Inv := by
  by_cases other_eq : other = dispatch.type
  · subst other_eq
    have framesEq := view_frames_cons dispatchedEq
    refine Eq.mp (congrArg TypeView.Inv ?_)
      ((inv.views dispatch.type).finish framesEq passed)
    simp [view, entries, OneTimeProgram.dispatchReturns]
  · refine Eq.mp (congrArg TypeView.Inv ?_) (inv.views other)
    simp [view, entries, OneTimeProgram.dispatchReturns, dispatchedEq, Ne.symm other_eq, other_eq]

theorem Inv.dispatchReturns (inv : program.Inv) {dispatch : Dispatch T}
    {outer : List (Dispatch T)}
    (dispatchedEq : program.dispatcher.currentlyDispatched = dispatch :: outer)
    (passed : (program.entries dispatch.type)[dispatch.returned]? = none) :
    (program.dispatchReturns dispatch outer).Inv := by
  have finished := inv.finish dispatchedEq passed
  cases outer with
  | cons enclosing others => exact ⟨finished, nofun⟩
  | nil =>
      refine ⟨fun other => ?_, fun _ => rfl⟩
      have clean : Clean other program.dispatcher.pendingActions
          (program.dispatcher.handlers other).entries :=
        clean_of_nodup (inv.views other).placed.ids
      have perm := clean.entries_foldl
      apply (finished other).flush rfl
      · exact perm.subperm.trans foldl_onEntries_sublist.subperm
      · intro entry mem
        exact (added_or_kept (perm.mem_iff.mp mem)).imp_right And.right

/-- Every calm step keeps all types in order. -/
theorem Inv.step (inv : program.Inv) {action : OneTimeAction T} (calm : program.Calm action)
    (stepEq : step program action = some next) : next.Inv := by
  cases action with
  | addHandler type priority =>
      rcases Option.ite_none_right_eq_some.mp stepEq with ⟨_, nextEq⟩
      rw [← Option.some.inj nextEq]
      have own : ∀ other ∈ (none : Option RawHandler), other = program.dispatcher.nextId := by
        simp
      refine Eq.mp (congrArg Inv ?_) (inv.addHandler calm own)
      simp [OneTimeProgram.addHandler, noteCreated]
  | addOneTimeHandler type priority =>
      rcases Option.ite_none_right_eq_some.mp stepEq with ⟨_, nextEq⟩
      rw [← Option.some.inj nextEq]
      have calmAdd : program.Calm (.addHandler type priority) := calm
      have own : ∀ other ∈ some program.dispatcher.nextId,
          other = program.dispatcher.nextId := by
        rintro _ ⟨rfl⟩
        rfl
      exact inv.addHandler calmAdd own
  | removeHandler type id =>
      rcases Option.ite_none_right_eq_some.mp stepEq with ⟨_, nextEq⟩
      rw [← Option.some.inj nextEq]
      exact inv.removeHandler type id
  | dispatchEvent type =>
      rcases Option.ite_none_right_eq_some.mp stepEq with ⟨_, nextEq⟩
      rw [← Option.some.inj nextEq]
      exact inv.dispatchEvent calm
  | handlerReturns =>
      simp only [OneTimeProgram.step] at stepEq
      split at stepEq
      · rename_i dispatch outer dispatchedEq
        rcases Option.map_eq_some_iff.mp stepEq with ⟨entry, entryEq, rfl⟩
        exact inv.handlerReturns dispatchedEq entryEq
      · cases stepEq
  | dispatchReturns =>
      simp only [OneTimeProgram.step] at stepEq
      split at stepEq
      · rename_i dispatch outer dispatchedEq
        split at stepEq
        · cases stepEq
        · rename_i passed
          rw [← Option.some.inj stepEq]
          exact inv.dispatchReturns dispatchedEq passed
      · cases stepEq

theorem Inv.invokedOnce (inv : program.Inv) : program.InvokedOnce := by
  intro type
  have once := (inv.views type).once
  refine ⟨once, ?_⟩
  intro number mem
  rcases (inv.views type).served number mem with ⟨isOneTime, invoked⟩
  exact Nat.le_antisymm (once number isOneTime) (List.count_pos_iff.mpr invoked)

/-- In every state of a run of calm steps, handlers for one time were invoked at most once, and
once if they were registered for an event. -/
theorem invokedOnce_of_calm (actions : List (OneTimeAction T)) (final : OneTimeProgram T)
    (calm : Guarded step Calm start actions) (runEq : run step start actions = some final) :
    final.InvokedOnce := by
  have inv : final.Inv :=
    run_invariant (fun _ _ _ inv here stepEq => inv.step here stepEq) inv_start calm runEq
  exact inv.invokedOnce

/-- Two events one after the other. -/
def separate : List (OneTimeAction Nat) :=
  [.addOneTimeHandler 0 0, .dispatchEvent 0, .handlerReturns, .dispatchReturns,
    .dispatchEvent 0, .dispatchReturns]

theorem invokedOnce_separate :
    ∃ final, run step start separate = some final ∧ final.served 0 = [0] ∧
      final.InvokedOnce := by
  have reached : (run step start separate).map (fun final => final.served 0) = some [0] := by
    decide +kernel
  rcases Option.map_eq_some_iff.mp reached with ⟨final, runEq, served⟩
  exact ⟨final, runEq, served, invokedOnce_of_calm separate final (by decide +kernel) runEq⟩

/-- The handler dispatches an event of its own type. -/
def recursive : List (OneTimeAction Nat) :=
  [.addOneTimeHandler 0 0, .dispatchEvent 0, .dispatchEvent 0, .handlerReturns,
    .dispatchReturns, .handlerReturns, .dispatchReturns]

/-- The handler of another event dispatches two events one after the other, while the removal of
the wrapper is still put off. -/
def consecutive : List (OneTimeAction Nat) :=
  [.addHandler 1 0, .addOneTimeHandler 0 0, .dispatchEvent 1, .dispatchEvent 0, .handlerReturns,
    .dispatchReturns, .dispatchEvent 0, .handlerReturns, .dispatchReturns, .handlerReturns,
    .dispatchReturns]

omit [DecidableEq T] in
theorem not_invokedOnce_of_count {final : OneTimeProgram T} {number : Nat}
    (isOneTime : number ∈ final.oneTime type) (twice : 1 < (final.invoked type).count number) :
    ¬final.InvokedOnce :=
  fun once => Nat.not_lt.mpr ((once type).1 number isOneTime) twice

/-- In both of them the handler is invoked twice. -/
theorem invoked_twice :
    (∃ final, run step start recursive = some final ∧ ¬final.InvokedOnce) ∧
      ∃ final, run step start consecutive = some final ∧ ¬final.InvokedOnce := by
  have reached : ∀ actions ∈ [recursive, consecutive],
      (run step start actions).map (fun final => (final.oneTime 0, final.invoked 0)) =
        some ([0], [0, 0]) := by
    decide +kernel
  have twice : ∀ actions ∈ [recursive, consecutive],
      ∃ final, run step start actions = some final ∧ ¬final.InvokedOnce := by
    intro actions mem
    rcases Option.map_eq_some_iff.mp (reached actions mem) with ⟨final, runEq, found⟩
    rw [Prod.mk.injEq] at found
    refine ⟨final, runEq, @not_invokedOnce_of_count Nat 0 final 0 ?_ ?_⟩
    · rw [found.1]
      exact List.mem_singleton_self 0
    · rw [found.2]
      decide
  exact ⟨twice recursive List.mem_cons_self,
    twice consecutive (List.mem_cons_of_mem _ List.mem_cons_self)⟩

end OneTimeProgram

end VoxelEngine.Event
