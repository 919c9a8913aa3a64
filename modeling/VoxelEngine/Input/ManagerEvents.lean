import VoxelEngine.Input.InputManager

/-!
# What the parts of an update dispatch

Each handler dispatches events of a few types only.  Asking for keys adds entries to the table of
keys and does nothing else.
-/

namespace VoxelEngine.Input

open VoxelEngine.Data VoxelEngine.Transition

namespace InputManager

/-- Only events of these types were dispatched in between. -/
def Tells (types : List EventType) (before after : InputManager) : Prop :=
  ∃ events : List InputEvent, after.log = before.log ++ events.map Occurrence.dispatched ∧
    ∀ event ∈ events, event.type ∈ types

/-- The entries in the table of keys are about their keys. -/
def Keyed (manager : InputManager) : Prop :=
  ∀ key state, manager.keyboardState.find key = some state → state.key = key

variable {types : List EventType} {manager before middle after : InputManager}

theorem tells_of_log (same : after.log = before.log) : Tells types before after :=
  ⟨[], by rw [same, List.map_nil, List.append_nil], by simp⟩

theorem Tells.trans (first : Tells types before middle) (second : Tells types middle after) :
    Tells types before after := by
  rcases first with ⟨events, eventsEq, each⟩
  rcases second with ⟨later, laterEq, laterEach⟩
  refine ⟨events ++ later, ?_, ?_⟩
  · rw [laterEq, eventsEq, List.map_append, List.append_assoc]
  · intro event mem
    rcases List.mem_append.mp mem with here | there
    · exact each event here
    · exact laterEach event there

theorem tells_dispatchEvent {event : InputEvent} (sort : event.type ∈ types) :
    Tells types manager (manager.dispatchEvent event) :=
  ⟨[event], rfl, fun _ mem => List.mem_singleton.mp mem ▸ sort⟩

/-- A loop tells of what its body tells of. -/
theorem tells_foldl {α : Type} {body : InputManager → α → InputManager}
    (each : ∀ manager element, Tells types manager (body manager element)) (elements : List α)
    (manager : InputManager) : Tells types manager (elements.foldl body manager) := by
  induction elements generalizing manager with
  | nil => exact tells_of_log rfl
  | cons element rest ih => exact (each manager element).trans (ih _)

/-- A loop leaves alone what its body leaves alone. -/
theorem foldl_field {α : Type} {β : Type} {body : InputManager → α → InputManager}
    (field : InputManager → β)
    (each : ∀ manager element, field (body manager element) = field manager)
    (elements : List α) (manager : InputManager) :
    field (elements.foldl body manager) = field manager := by
  induction elements generalizing manager with
  | nil => rfl
  | cons element rest ih => exact (ih _).trans (each manager element)

/-- Asking for a key may make an entry for it. -/
theorem getMutableKeyState_spec (manager : InputManager) (live : Keycode → Bool) (key : Keycode) :
    ∃ table, (manager.getMutableKeyState live key).1 = { manager with keyboardState := table } ∧
      (manager.Keyed → ∀ other state, table.find other = some state → state.key = other) := by
  rw [getMutableKeyState]
  split
  · exact ⟨manager.keyboardState, rfl, id⟩
  · refine ⟨_, rfl, ?_⟩
    intro keyed other state found
    rw [HashTable.find_emplace] at found
    cases old : manager.keyboardState.find other with
    | some oldState =>
        rw [old] at found
        rw [← Option.some.inj found]
        exact keyed other oldState old
    | none =>
        rw [old, Option.none_or] at found
        split at found
        · rename_i same
          rw [← Option.some.inj found]
          exact same.symm
        · cases found

theorem foldl_addKeymod_spec (live : Keycode → Bool) (entries : List (Keycode × Keymods))
    (current : InputManager × Keymods) :
    ∃ table, (entries.foldl (addKeymod live) current).1 =
        { current.1 with keyboardState := table } ∧
      (current.1.Keyed → ∀ other state, table.find other = some state → state.key = other) := by
  induction entries generalizing current with
  | nil => exact ⟨current.1.keyboardState, rfl, id⟩
  | cons entry rest ih =>
      rcases getMutableKeyState_spec current.1 live entry.1 with ⟨first, firstEq, firstKeyed⟩
      rcases ih (addKeymod live current entry) with ⟨table, tableEq, tableKeyed⟩
      have headEq : (addKeymod live current entry).1 = { current.1 with keyboardState := first } :=
        firstEq
      rw [headEq] at tableEq tableKeyed
      exact ⟨table, tableEq, fun keyed => tableKeyed (firstKeyed keyed)⟩

/-- Asking for the modifiers may make entries for their keys. -/
theorem getCurrentKeymods_spec (manager : InputManager) (live : Keycode → Bool) :
    ∃ table, (manager.getCurrentKeymods live).1 = { manager with keyboardState := table } ∧
      (manager.Keyed → ∀ other state, table.find other = some state → state.key = other) :=
  foldl_addKeymod_spec live modKeys (manager, kmodNone)

theorem tells_getCurrentKeymods (live : Keycode → Bool) :
    Tells types manager (manager.getCurrentKeymods live).1 := by
  rcases manager.getCurrentKeymods_spec live with ⟨table, tableEq, _⟩
  exact tells_of_log (by rw [tableEq])

theorem keyed_getCurrentKeymods (live : Keycode → Bool) (keyed : manager.Keyed) :
    (manager.getCurrentKeymods live).1.Keyed := by
  rcases manager.getCurrentKeymods_spec live with ⟨table, tableEq, kept⟩
  rw [tableEq]
  exact kept keyed

/-! ## Handlers -/

variable {live : Keycode → Bool} {tick : UInt64} {now : Int}

theorem tells_dispatchKey (oldState newState : KeyState) :
    Tells [.keyDown, .keyUp, .keyType] manager (manager.dispatchKey oldState newState) := by
  rw [dispatchKey]
  split
  · split
    · exact tells_dispatchEvent (by simp [InputEvent.type])
    · exact tells_dispatchEvent (by simp [InputEvent.type])
  · split
    · exact tells_dispatchEvent (by simp [InputEvent.type])
    · exact tells_of_log rfl

theorem tells_handleKeyEvent (isDown : Bool) (sym : Keycode) (mod : Keymods) :
    Tells [.keyDown, .keyUp, .keyType] manager
      (manager.handleKeyEvent live isDown sym mod tick now) := by
  rcases manager.getMutableKeyState_spec live sym with ⟨table, tableEq, _⟩
  have asked : Tells [.keyDown, .keyUp, .keyType] manager
      (manager.getMutableKeyState live sym).1 := tells_of_log (by rw [tableEq])
  exact asked.trans (tells_dispatchKey _ _)

theorem tells_dispatchButton (oldState newState : MouseButtonState) :
    Tells [.buttonPress, .buttonHold, .buttonRelease] manager
      (manager.dispatchButton oldState newState) := by
  rw [dispatchButton]
  split
  · split
    · exact tells_dispatchEvent (by simp [InputEvent.type])
    · exact tells_dispatchEvent (by simp [InputEvent.type])
  · exact tells_dispatchEvent (by simp [InputEvent.type])

/-- Only going down reads the modifiers. -/
theorem tells_handleMouseButtonEvent (isDown : Bool) (button : MouseButton) :
    Tells [.buttonPress, .buttonHold, .buttonRelease] manager
      (manager.handleMouseButtonEvent live isDown button tick now) := by
  rw [handleMouseButtonEvent]
  split
  · exact (tells_getCurrentKeymods live).trans (tells_dispatchButton _ _)
  · exact tells_dispatchButton _ _

theorem tells_startMove (listed : .mouseMoveStart ∈ types) :
    Tells types manager manager.startMove := by
  rw [startMove]
  split
  · exact tells_of_log rfl
  · exact tells_dispatchEvent listed

theorem tells_startWheelMove (listed : .mouseWheelMoveStart ∈ types) :
    Tells types manager manager.startWheelMove := by
  rw [startWheelMove]
  split
  · exact tells_of_log rfl
  · exact tells_dispatchEvent listed

theorem tells_startDrag (listed : .mouseDragStart ∈ types) (manager : InputManager)
    (button : MouseButton) : Tells types manager (manager.startDrag button) := by
  rw [startDrag]
  split
  · split
    · exact tells_of_log rfl
    · exact tells_dispatchEvent listed
  · exact tells_of_log rfl

theorem tells_moveDrag (listed : .mouseDrag ∈ types) (manager : InputManager)
    (button : MouseButton) : Tells types manager (manager.moveDrag button) := by
  rw [moveDrag]
  split
  · exact tells_dispatchEvent listed
  · exact tells_of_log rfl

theorem tells_moveMouse (listed : .mouseMoved ∈ types) (mods : Keymods) (rel : Int × Int) :
    Tells types manager (manager.moveMouse mods rel) := by
  rw [moveMouse]
  exact tells_dispatchEvent listed

/-- A motion starts movements and drags, and moves them. -/
theorem tells_handleMouseMoveEvent (rel : Int × Int) :
    Tells [.mouseMoveStart, .mouseDragStart, .mouseMoved, .mouseDrag] manager
      (manager.handleMouseMoveEvent live rel) := by
  have moveStart : Tells [.mouseMoveStart, .mouseDragStart, .mouseMoved, .mouseDrag] manager
      manager.startMove := tells_startMove (by decide)
  have started := moveStart.trans
    (tells_foldl (tells_startDrag (by decide)) MouseButton.values manager.startMove)
  have read := started.trans (tells_getCurrentKeymods live)
  have moved := read.trans (tells_moveMouse (by decide)
    ((MouseButton.values.foldl startDrag manager.startMove).getCurrentKeymods live).2 rel)
  exact moved.trans (tells_foldl (tells_moveDrag (by decide)) MouseButton.values _)

theorem tells_moveWheel (listed : .mouseWheelMoved ∈ types) (mods : Keymods) (y : Int) :
    Tells types manager (manager.moveWheel mods y) := by
  rw [moveWheel]
  exact tells_dispatchEvent listed

theorem tells_handleMouseWheelEvent (y : Int) :
    Tells [.mouseWheelMoveStart, .mouseWheelMoved] manager
      (manager.handleMouseWheelEvent live y) := by
  have moveStart : Tells [.mouseWheelMoveStart, .mouseWheelMoved] manager manager.startWheelMove :=
    tells_startWheelMove (by decide)
  have read := moveStart.trans (tells_getCurrentKeymods live)
  exact read.trans (tells_moveWheel (by decide) _ y)

theorem tells_holdKey (listed : .keyHold ∈ types) (manager : InputManager)
    (entry : Keycode × KeyState) : Tells types manager (manager.holdKey entry) := by
  rw [holdKey]
  split
  · exact tells_dispatchEvent listed
  · exact tells_of_log rfl

theorem tells_endMove (listed : .mouseMoveEnd ∈ types) : Tells types manager manager.endMove := by
  rw [endMove]
  split
  · split
    · exact tells_dispatchEvent listed
    · exact tells_of_log rfl
  · exact tells_of_log rfl

theorem tells_endWheelMove (listed : .mouseWheelMoveEnd ∈ types) :
    Tells types manager manager.endWheelMove := by
  rw [endWheelMove]
  split
  · split
    · exact tells_dispatchEvent listed
    · exact tells_of_log rfl
  · exact tells_of_log rfl

theorem tells_endDrag (listed : .mouseDragEnd ∈ types) (manager : InputManager)
    (button : MouseButton) : Tells types manager (manager.endDrag button) := by
  rw [endDrag]
  split
  · split
    · exact tells_dispatchEvent listed
    · exact tells_of_log rfl
  · exact tells_of_log rfl

theorem tells_holdKeys (listed : .keyHold ∈ types) (keyboardFocus : Bool) :
    Tells types manager (manager.holdKeys keyboardFocus) := by
  rw [holdKeys]
  split
  · exact tells_foldl (tells_holdKey listed) _ manager
  · exact tells_of_log rfl

/-- The end of an update holds keys and ends movements and drags. -/
theorem tells_finishUpdate (keyboardFocus mouseFocus : Bool) :
    Tells [.keyHold, .mouseMoveEnd, .mouseWheelMoveEnd, .mouseDragEnd] manager
      (manager.finishUpdate keyboardFocus mouseFocus) := by
  have held : Tells [.keyHold, .mouseMoveEnd, .mouseWheelMoveEnd, .mouseDragEnd] manager
      (manager.holdKeys keyboardFocus) := tells_holdKeys (by decide) keyboardFocus
  rw [finishUpdate, endMouse]
  split
  · have moveEnded := held.trans (tells_endMove (by decide))
    have wheelEnded := moveEnded.trans (tells_endWheelMove (by decide))
    exact wheelEnded.trans (tells_foldl (tells_endDrag (by decide)) MouseButton.values _)
  · exact held

/-! ## The table of keys -/

@[simp]
theorem keyboardState_startMove : manager.startMove.keyboardState = manager.keyboardState := by
  rw [startMove]
  split <;> rfl

@[simp]
theorem keyboardState_startDrag (manager : InputManager) (button : MouseButton) :
    (manager.startDrag button).keyboardState = manager.keyboardState := by
  rw [startDrag]
  split
  · split <;> rfl
  · rfl

@[simp]
theorem keyboardState_moveDrag (manager : InputManager) (button : MouseButton) :
    (manager.moveDrag button).keyboardState = manager.keyboardState := by
  rw [moveDrag]
  split <;> rfl

@[simp]
theorem keyboardState_moveMouse (mods : Keymods) (rel : Int × Int) :
    (manager.moveMouse mods rel).keyboardState = manager.keyboardState :=
  rfl

@[simp]
theorem keyboardState_moveWheel (mods : Keymods) (y : Int) :
    (manager.moveWheel mods y).keyboardState = manager.keyboardState :=
  rfl

@[simp]
theorem keyboardState_dispatchButton (manager : InputManager)
    (oldState newState : MouseButtonState) :
    (manager.dispatchButton oldState newState).keyboardState = manager.keyboardState := by
  rw [dispatchButton]
  split
  · split <;> rfl
  · rfl

@[simp]
theorem keyboardState_dispatchKey (manager : InputManager) (oldState newState : KeyState) :
    (manager.dispatchKey oldState newState).keyboardState = manager.keyboardState := by
  rw [dispatchKey]
  split
  · split <;> rfl
  · split <;> rfl

theorem keyed_of_same (same : after.keyboardState = before.keyboardState) (keyed : before.Keyed) :
    after.Keyed := by
  rw [Keyed, same]
  exact keyed

theorem keyed_handleMouseButtonEvent (isDown : Bool) (button : MouseButton)
    (keyed : manager.Keyed) :
    (manager.handleMouseButtonEvent live isDown button tick now).Keyed := by
  rw [handleMouseButtonEvent]
  split
  · exact keyed_of_same (keyboardState_dispatchButton _ _ _) (keyed_getCurrentKeymods live keyed)
  · exact keyed_of_same (keyboardState_dispatchButton _ _ _) keyed

theorem keyed_handleMouseMoveEvent (rel : Int × Int) (keyed : manager.Keyed) :
    (manager.handleMouseMoveEvent live rel).Keyed := by
  have startKept := (foldl_field keyboardState keyboardState_startDrag MouseButton.values
    manager.startMove).trans keyboardState_startMove
  have read := keyed_getCurrentKeymods live (keyed_of_same startKept keyed)
  have moved := keyed_of_same (keyboardState_moveMouse
    ((MouseButton.values.foldl startDrag manager.startMove).getCurrentKeymods live).2 rel) read
  have dragged := foldl_field keyboardState keyboardState_moveDrag MouseButton.values
    (((MouseButton.values.foldl startDrag manager.startMove).getCurrentKeymods live).1.moveMouse
      ((MouseButton.values.foldl startDrag manager.startMove).getCurrentKeymods live).2 rel)
  exact keyed_of_same dragged moved

theorem keyed_handleMouseWheelEvent (y : Int) (keyed : manager.Keyed) :
    (manager.handleMouseWheelEvent live y).Keyed := by
  have startKept : manager.startWheelMove.keyboardState = manager.keyboardState := by
    rw [startWheelMove]
    split <;> rfl
  have read := keyed_getCurrentKeymods live (keyed_of_same startKept keyed)
  have moved := keyed_of_same
    (keyboardState_moveWheel (manager.startWheelMove.getCurrentKeymods live).2 y) read
  exact moved

@[simp]
theorem keyboardState_holdKey (manager : InputManager) (entry : Keycode × KeyState) :
    (manager.holdKey entry).keyboardState = manager.keyboardState := by
  rw [holdKey]
  split <;> rfl

@[simp]
theorem keyboardState_endMove : manager.endMove.keyboardState = manager.keyboardState := by
  rw [endMove]
  split
  · split <;> rfl
  · rfl

@[simp]
theorem keyboardState_endWheelMove :
    manager.endWheelMove.keyboardState = manager.keyboardState := by
  rw [endWheelMove]
  split
  · split <;> rfl
  · rfl

@[simp]
theorem keyboardState_endDrag (manager : InputManager) (button : MouseButton) :
    (manager.endDrag button).keyboardState = manager.keyboardState := by
  rw [endDrag]
  split
  · split <;> rfl
  · rfl

@[simp]
theorem keyboardState_finishUpdate (keyboardFocus mouseFocus : Bool) :
    (manager.finishUpdate keyboardFocus mouseFocus).keyboardState = manager.keyboardState := by
  have held : (manager.holdKeys keyboardFocus).keyboardState = manager.keyboardState := by
    rw [holdKeys]
    split
    · exact foldl_field keyboardState keyboardState_holdKey _ manager
    · rfl
  rw [finishUpdate, endMouse]
  split
  · exact (foldl_field keyboardState keyboardState_endDrag MouseButton.values _).trans
      (keyboardState_endWheelMove.trans (keyboardState_endMove.trans held))
  · exact held

end InputManager

/-! ## Steps of an update -/

namespace InputSystem

variable {system next : InputSystem}

/-- An event is taken from the queue in an update only. -/
theorem poll_cases (stepEq : step system .poll = some next) :
    ∃ tick now queued rest, system.updating = some (tick, now) ∧ system.queue = queued :: rest ∧
      next.manager = { system.manager with
        log := system.manager.log ++ [Occurrence.polled queued] }.handleEvent system.live queued
          tick now := by
  rw [step] at stepEq
  split at stepEq
  · rename_i tick now queued rest updatingEq queueEq
    rcases stepEq with ⟨rfl⟩
    exact ⟨tick, now, queued, rest, updatingEq, queueEq, rfl⟩
  · cases stepEq

theorem exists_poll {time : UInt64 × Int} {queued : QueuedEvent} {rest : List QueuedEvent}
    (updatingEq : system.updating = some time) (queueEq : system.queue = queued :: rest) :
    ∃ next, step system .poll = some next := by
  rw [step, updatingEq, queueEq]
  exact ⟨_, rfl⟩

theorem beginUpdate_cases {tick : UInt64} {now : Int}
    (stepEq : step system (.beginUpdate tick now) = some next) :
    next.manager = { system.manager with prevMouseState := system.manager.currentMouseState } := by
  rw [step] at stepEq
  split at stepEq
  · rcases stepEq with ⟨rfl⟩
    rfl
  · cases stepEq

theorem finishUpdate_cases {keyboardFocus mouseFocus : Bool}
    (stepEq : step system (.finishUpdate keyboardFocus mouseFocus) = some next) :
    next.manager = system.manager.finishUpdate keyboardFocus mouseFocus := by
  rw [step] at stepEq
  split at stepEq
  · rcases stepEq with ⟨rfl⟩
    rfl
  · cases stepEq

end InputSystem

end VoxelEngine.Input
