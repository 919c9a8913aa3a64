import VoxelEngine.Data.HashTable
import VoxelEngine.Input.InputEvent
import VoxelEngine.Transition.Run

/-!
# The input manager

SDL gathers events in a queue and keeps the state of the keyboard as of the last event that it
gathered.  An update of the manager takes the events out of the queue one after the other, and
when there are no more it looks at what has ended.  What was taken out and what was dispatched is
recorded in a log.
-/

namespace VoxelEngine.Input

open VoxelEngine.Data VoxelEngine.Transition

/-- The events of SDL that have an effect on keys and the mouse, and all others. -/
inductive SdlEvent where
  | key (isDown : Bool) (sym : Keycode) (mod : Keymods)
  | mouseButton (isDown : Bool) (button : MouseButton)
  | mouseMotion (rel : Int × Int)
  | mouseWheel (y : Int)
  | other

/-- An event, and whether `window_of` finds its window. -/
structure QueuedEvent where
  event : SdlEvent
  windowOpen : Bool

/-- What happens in an update. -/
inductive Occurrence where
  | polled (queued : QueuedEvent)
  | dispatched (event : InputEvent)

/-- `input_manager`.  The state at the beginning of an ongoing event is all there is to it. -/
structure InputManager where
  keyboardState : HashTable Keycode KeyState
  currentMouseMove : Option MouseState
  currentMouseWheelMove : Option MouseState
  currentMouseDrag : MouseButton → Option MouseState
  currentMouseState : MouseState
  prevMouseState : MouseState
  log : List Occurrence

/-- The keys that `get_current_keymods` asks for, with their bits. -/
def modKeys : List (Keycode × Keymods) :=
  [(1073742048, 0x40), (1073742052, 0x80), (1073742049, 0x1), (1073742053, 0x2),
    (1073742050, 0x100), (1073742054, 0x200), (1073742051, 0x400), (1073742055, 0x800),
    (1073741881, 0x2000), (1073741907, 0x1000)]

namespace InputManager

/-- The state of a mouse at first. -/
def initialMouseState : MouseState :=
  ⟨fun _ => ⟨.left, kmodNone, 0, 0, false⟩, (0, 0), 0, kmodNone⟩

/-- `input_manager::instance` at first. -/
def create : InputManager :=
  ⟨HashTable.empty, none, none, fun _ => none, initialMouseState, initialMouseState, []⟩

variable (manager : InputManager)

/-- `dispatch_event` -/
def dispatchEvent (event : InputEvent) : InputManager :=
  { manager with log := manager.log ++ [.dispatched event] }

/-- `get_mutable_key_state`.  `live` is what `SDL_GetKeyboardState` tells of a key. -/
def getMutableKeyState (live : Keycode → Bool) (key : Keycode) : InputManager × KeyState :=
  match manager.keyboardState.find key with
  | some state => (manager, state)
  | none =>
      let state : KeyState := ⟨key, kmodNone, 0, 0, live key⟩
      ({ manager with keyboardState := manager.keyboardState.emplace (key, state) }, state)

/-- `is_key_pressed` -/
def isKeyPressed (live : Keycode → Bool) (key : Keycode) : InputManager × Bool :=
  let found := manager.getMutableKeyState live key
  (found.1, found.2.isDown)

/-- One use of the macro in `get_current_keymods`. -/
def addKeymod (live : Keycode → Bool) (current : InputManager × Keymods)
    (entry : Keycode × Keymods) : InputManager × Keymods :=
  let pressed := current.1.isKeyPressed live entry.1
  (pressed.1, if pressed.2 then current.2 ||| entry.2 else current.2)

/-- `get_current_keymods` -/
def getCurrentKeymods (live : Keycode → Bool) : InputManager × Keymods :=
  modKeys.foldl (addKeymod live) (manager, kmodNone)

/-- The state of a key after an event. -/
def changeKey (oldState : KeyState) (isDown : Bool) (mod : Keymods) (tick : UInt64) (now : Int) :
    KeyState :=
  if isDown ≠ oldState.isDown then
    { oldState with
      isDown := isDown
      lastChange := now
      lastChangeTick := tick
      mods := if isDown then mod else oldState.mods }
  else oldState

/-- The event that `handle_key_event` dispatches. -/
def dispatchKey (oldState newState : KeyState) : InputManager :=
  if newState.isDown then
    if !oldState.isDown then manager.dispatchEvent (.keyDown oldState newState)
    else manager.dispatchEvent (.keyType newState)
  else if oldState.isDown then manager.dispatchEvent (.keyUp oldState newState)
  else manager

/-- `handle_key_event` -/
def handleKeyEvent (live : Keycode → Bool) (isDown : Bool) (sym : Keycode) (mod : Keymods)
    (tick : UInt64) (now : Int) : InputManager :=
  let found := manager.getMutableKeyState live sym
  let newState := changeKey found.2 isDown mod tick now
  let told := found.1.dispatchKey found.2 newState
  { told with keyboardState := told.keyboardState.insertOrAssign (sym, newState) }

/-- The state of a button after an event.  The modifiers have been read for it. -/
def changeButton (oldState : MouseButtonState) (isDown : Bool) (mods : Keymods) (tick : UInt64)
    (now : Int) : MouseButtonState :=
  if isDown ≠ oldState.isDown then
    { oldState with isDown := isDown, lastChange := now, lastChangeTick := tick, mods := mods }
  else oldState

/-- The event that `handle_mouse_button_event` dispatches. -/
def dispatchButton (oldState newState : MouseButtonState) : InputManager :=
  if newState.isDown then
    if !oldState.isDown then manager.dispatchEvent (.buttonPress oldState newState)
    else manager.dispatchEvent (.buttonHold newState)
  else manager.dispatchEvent (.buttonRelease oldState newState)

/-- Assign the state of a button. -/
def setButton (button : MouseButton) (state : MouseButtonState) : InputManager :=
  { manager with
    currentMouseState :=
      { manager.currentMouseState with
        buttons := Function.update manager.currentMouseState.buttons button state } }

/-- `handle_mouse_button_event`.  The modifiers are read when the button goes down. -/
def handleMouseButtonEvent (live : Keycode → Bool) (isDown : Bool) (button : MouseButton)
    (tick : UInt64) (now : Int) : InputManager :=
  let oldState := manager.currentMouseState.buttons button
  let read :=
    if isDown && !oldState.isDown then manager.getCurrentKeymods live
    else (manager, oldState.mods)
  let newState := changeButton oldState isDown read.2 tick now
  (read.1.dispatchButton oldState newState).setButton button newState

/-- The tracker of a movement is made if there is none. -/
def startMove : InputManager :=
  match manager.currentMouseMove with
  | some _ => manager
  | none =>
      { manager with currentMouseMove := some manager.currentMouseState }.dispatchEvent
        (.mouseMoveStart manager.currentMouseState)

/-- The same for the wheel. -/
def startWheelMove : InputManager :=
  match manager.currentMouseWheelMove with
  | some _ => manager
  | none =>
      { manager with currentMouseWheelMove := some manager.currentMouseState }.dispatchEvent
        (.mouseWheelMoveStart manager.currentMouseState)

/-- The first loop of `handle_mouse_move_event`. -/
def startDrag (button : MouseButton) : InputManager :=
  if (manager.currentMouseState.buttons button).isDown then
    match manager.currentMouseDrag button with
    | some _ => manager
    | none =>
        { manager with
          currentMouseDrag :=
            Function.update manager.currentMouseDrag button (some manager.currentMouseState)
          }.dispatchEvent (.mouseDragStart button manager.currentMouseState)
  else manager

/-- The second loop of `handle_mouse_move_event`.  A drag of the button was started before. -/
def moveDrag (button : MouseButton) : InputManager :=
  if (manager.currentMouseState.buttons button).isDown then
    manager.dispatchEvent
      (.mouseDrag button ((manager.currentMouseDrag button).getD manager.currentMouseState)
        manager.prevMouseState manager.currentMouseState)
  else manager

/-- The mouse has moved, with the modifiers that were read. -/
def moveMouse (mods : Keymods) (rel : Int × Int) : InputManager :=
  let state : MouseState :=
    { manager.currentMouseState with
      position :=
        (manager.currentMouseState.position.1 + rel.1, manager.currentMouseState.position.2 + rel.2)
      mods := mods }
  { manager with currentMouseState := state }.dispatchEvent
    (.mouseMoved (manager.currentMouseMove.getD state) manager.prevMouseState state)

/-- `handle_mouse_move_event` -/
def handleMouseMoveEvent (live : Keycode → Bool) (rel : Int × Int) : InputManager :=
  let started := MouseButton.values.foldl startDrag manager.startMove
  let read := started.getCurrentKeymods live
  MouseButton.values.foldl moveDrag (read.1.moveMouse read.2 rel)

/-- The wheel has moved, with the modifiers that were read. -/
def moveWheel (mods : Keymods) (y : Int) : InputManager :=
  let state : MouseState :=
    { manager.currentMouseState with
      wheelPosition := manager.currentMouseState.wheelPosition + y
      mods := mods }
  { manager with currentMouseState := state }.dispatchEvent
    (.mouseWheelMoved (manager.currentMouseWheelMove.getD state) manager.prevMouseState state)

/-- `handle_mouse_wheel_event` -/
def handleMouseWheelEvent (live : Keycode → Bool) (y : Int) : InputManager :=
  let read := manager.startWheelMove.getCurrentKeymods live
  read.1.moveWheel read.2 y

/-- The switch of `update`, for one event that was taken from the queue. -/
def handleEvent (live : Keycode → Bool) (queued : QueuedEvent) (tick : UInt64) (now : Int) :
    InputManager :=
  if queued.windowOpen then
    match queued.event with
    | .key isDown sym mod => manager.handleKeyEvent live isDown sym mod tick now
    | .mouseButton isDown button => manager.handleMouseButtonEvent live isDown button tick now
    | .mouseMotion rel => manager.handleMouseMoveEvent live rel
    | .mouseWheel y => manager.handleMouseWheelEvent live y
    | .other => manager
  else manager

/-- Keys that are down are held. -/
def holdKey (entry : Keycode × KeyState) : InputManager :=
  if entry.2.isDown then manager.dispatchEvent (.keyHold entry.2) else manager

/-- A movement ends when the mouse has not moved since the last update. -/
def endMove : InputManager :=
  if manager.currentMouseState.position = manager.prevMouseState.position then
    match manager.currentMouseMove with
    | some beginState =>
        { manager with currentMouseMove := none }.dispatchEvent
          (.mouseMoveEnd beginState manager.currentMouseState)
    | none => manager
  else manager

/-- The same for the wheel. -/
def endWheelMove : InputManager :=
  if manager.currentMouseState.wheelPosition = manager.prevMouseState.wheelPosition then
    match manager.currentMouseWheelMove with
    | some beginState =>
        { manager with currentMouseWheelMove := none }.dispatchEvent
          (.mouseWheelMoveEnd beginState manager.currentMouseState)
    | none => manager
  else manager

/-- A drag ends when its button is not down. -/
def endDrag (button : MouseButton) : InputManager :=
  match manager.currentMouseDrag button with
  | some beginState =>
      if !(manager.currentMouseState.buttons button).isDown then
        { manager with
          currentMouseDrag := Function.update manager.currentMouseDrag button none }.dispatchEvent
          (.mouseDragEnd button beginState manager.currentMouseState)
      else manager
  | none => manager

/-- The part of `update` for the window with the keyboard focus. -/
def holdKeys (keyboardFocus : Bool) : InputManager :=
  if keyboardFocus then manager.keyboardState.entries.foldl holdKey manager else manager

/-- The part of `update` for the window with the mouse focus. -/
def endMouse (mouseFocus : Bool) : InputManager :=
  if mouseFocus then MouseButton.values.foldl endDrag manager.endMove.endWheelMove else manager

/-- The rest of `update`, after the queue was emptied. -/
def finishUpdate (keyboardFocus mouseFocus : Bool) : InputManager :=
  (manager.holdKeys keyboardFocus).endMouse mouseFocus

end InputManager

/-- The manager and SDL.  `live` is the state of the keyboard, and `updating` has the tick and the
time of the update that is going on. -/
structure InputSystem where
  manager : InputManager
  live : Keycode → Bool
  queue : List QueuedEvent
  updating : Option (UInt64 × Int)

/-- What can happen: SDL gathers an event, somebody asks for the state of a key, and the parts of
an update. -/
inductive InputAction where
  | pump (queued : QueuedEvent)
  | query (key : Keycode)
  | beginUpdate (tick : UInt64) (now : Int)
  | poll
  | finishUpdate (keyboardFocus mouseFocus : Bool)

namespace InputSystem

/-- No event was gathered.  Some keys may already be down. -/
def start (live : Keycode → Bool) : InputSystem :=
  ⟨InputManager.create, live, [], none⟩

/-- The state of the keyboard after an event. -/
def keysAfter (keys : Keycode → Bool) (event : SdlEvent) : Keycode → Bool :=
  match event with
  | .key isDown sym _ => Function.update keys sym isDown
  | _ => keys

/-- The transition relation. -/
def step : Step InputSystem InputAction
  | system, .pump queued =>
      some { system with
        live := keysAfter system.live queued.event
        queue := system.queue ++ [queued] }
  | system, .query key =>
      some { system with manager := (system.manager.getMutableKeyState system.live key).1 }
  | system, .beginUpdate tick now =>
      match system.updating with
      | none =>
          some { system with
            manager := { system.manager with
              prevMouseState := system.manager.currentMouseState }
            updating := some (tick, now) }
      | some _ => none
  | system, .poll =>
      match system.updating, system.queue with
      | some (tick, now), queued :: rest =>
          let polled :=
            { system.manager with log := system.manager.log ++ [Occurrence.polled queued] }
          some { system with
            manager := polled.handleEvent system.live queued tick now
            queue := rest }
      | _, _ => none
  | system, .finishUpdate keyboardFocus mouseFocus =>
      match system.updating, system.queue with
      | some _, [] =>
          some { system with
            manager := system.manager.finishUpdate keyboardFocus mouseFocus
            updating := none }
      | _, _ => none

end InputSystem

end VoxelEngine.Input
