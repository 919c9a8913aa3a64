import VoxelEngine.Event.HandlerTable
import VoxelEngine.Transition.Run

/-!
# Dispatching events immediately

Handlers of a simple dispatcher may themselves dispatch events, and add and remove
handlers.  What they do to the handlers of a type that is being dispatched is put off
until nothing is being dispatched any more, and everything else is done at once.
-/

namespace VoxelEngine.Event

open VoxelEngine.Transition

/-- An event that is being dispatched, and how many of its handlers have returned. -/
structure Dispatch (T : Type) where
  type : T
  returned : Nat

/-- `simple_event_dispatcher`.  The innermost dispatch comes first. -/
structure SimpleDispatcher (T H : Type) where
  handlers : T → HandlerTable H
  nextId : RawHandler
  currentlyDispatched : List (Dispatch T)
  pendingActions : List (PendingAction T H)

namespace SimpleDispatcher

variable {T H : Type} [DecidableEq T]

omit [DecidableEq T] in
/-- A dispatcher without handlers. -/
def create : SimpleDispatcher T H :=
  ⟨fun _ => HandlerTable.empty, 0, [], []⟩

/-- `simple_event_dispatcher::is_dispatching` -/
def isDispatching (dispatcher : SimpleDispatcher T H) (type : T) : Bool :=
  dispatcher.currentlyDispatched.any fun dispatch => decide (dispatch.type = type)

/-- Perform an action at once, or put it off if the type is being dispatched. -/
def performOrDefer (dispatcher : SimpleDispatcher T H) (type : T)
    (action : PendingAction T H) : SimpleDispatcher T H :=
  if dispatcher.isDispatching type then
    { dispatcher with pendingActions := dispatcher.pendingActions ++ [action] }
  else { dispatcher with handlers := PendingAction.perform dispatcher.handlers action }

/-- `simple_event_dispatcher::add_handler`, whose handler gets the next identifier. -/
def addHandler (dispatcher : SimpleDispatcher T H) (type : T) (priority : Priority)
    (handler : H) : SimpleDispatcher T H :=
  { dispatcher.performOrDefer type (.add type priority dispatcher.nextId handler) with
    nextId := dispatcher.nextId + 1 }

/-- `simple_event_dispatcher::remove_handler` -/
def removeHandler (dispatcher : SimpleDispatcher T H) (type : T) (id : RawHandler) :
    SimpleDispatcher T H :=
  dispatcher.performOrDefer type (.erase type id)

omit [DecidableEq T] in
/-- The start of `simple_event_dispatcher::dispatch_event`. -/
def beginDispatch (dispatcher : SimpleDispatcher T H) (type : T) : SimpleDispatcher T H :=
  { dispatcher with currentlyDispatched := ⟨type, 0⟩ :: dispatcher.currentlyDispatched }

/-- The end of `simple_event_dispatcher::dispatch_event`, after all handlers have returned
or one of them said that the event is handled. -/
def endDispatch (dispatcher : SimpleDispatcher T H) (outer : List (Dispatch T)) :
    SimpleDispatcher T H :=
  if outer.isEmpty then
    { dispatcher with
      handlers := dispatcher.pendingActions.foldl PendingAction.perform dispatcher.handlers
      currentlyDispatched := []
      pendingActions := [] }
  else { dispatcher with currentlyDispatched := outer }

omit [DecidableEq T] in
/-- A handler is being invoked. -/
def invoking (dispatcher : SimpleDispatcher T H) (dispatch : Dispatch T) : Bool :=
  decide (dispatch.returned < (dispatcher.handlers dispatch.type).entries.length)

omit [DecidableEq T] in
/-- The program runs: outside of all dispatches, or in a handler of the innermost one. -/
def running (dispatcher : SimpleDispatcher T H) : Bool :=
  dispatcher.currentlyDispatched.head?.all dispatcher.invoking

end SimpleDispatcher

/-- What a program can do next.  A handler returns whether the event is handled. -/
inductive DispatcherAction (T H : Type) where
  | addHandler (type : T) (priority : Priority) (handler : H)
  | removeHandler (type : T) (id : RawHandler)
  | dispatchEvent (type : T)
  | handlerReturns (handled : Bool)
  | dispatchReturns

/-- A dispatcher, and the handlers of each type that the program has added and not removed
since. -/
structure DispatcherProgram (T H : Type) where
  dispatcher : SimpleDispatcher T H
  registered : T → List (HandlerEntry H)

namespace DispatcherProgram

variable {T H : Type}

/-- Nothing has been done. -/
def start : DispatcherProgram T H :=
  ⟨SimpleDispatcher.create, fun _ => []⟩

variable [DecidableEq T]

/-- Note what a call says about the handlers. -/
def note (program : DispatcherProgram T H) (dispatcher : SimpleDispatcher T H)
    (action : PendingAction T H) : DispatcherProgram T H :=
  ⟨dispatcher, fun type => action.onEntries type (program.registered type)⟩

/-- The transition relation of programs, for dispatchers that are cancellable or not. -/
def step (cancellable : Bool) : Step (DispatcherProgram T H) (DispatcherAction T H)
  | program, .addHandler type priority handler =>
      if program.dispatcher.running then
        some (program.note (program.dispatcher.addHandler type priority handler)
          (.add type priority program.dispatcher.nextId handler))
      else none
  | program, .removeHandler type id =>
      if program.dispatcher.running then
        some (program.note (program.dispatcher.removeHandler type id) (.erase type id))
      else none
  | program, .dispatchEvent type =>
      if program.dispatcher.running then
        some { program with dispatcher := program.dispatcher.beginDispatch type }
      else none
  | program, .handlerReturns handled =>
      match program.dispatcher.currentlyDispatched with
      | dispatch :: outer =>
          if program.dispatcher.invoking dispatch then
            some
              { program with
                dispatcher :=
                  { program.dispatcher with
                    currentlyDispatched :=
                      { dispatch with
                        returned :=
                          if cancellable && handled then
                            (program.dispatcher.handlers dispatch.type).entries.length
                          else dispatch.returned + 1 } :: outer } }
          else none
      | [] => none
  | program, .dispatchReturns =>
      match program.dispatcher.currentlyDispatched with
      | dispatch :: outer =>
          if program.dispatcher.invoking dispatch then none
          else some { program with dispatcher := program.dispatcher.endDispatch outer }
      | [] => none

end DispatcherProgram

end VoxelEngine.Event
