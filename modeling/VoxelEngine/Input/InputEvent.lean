import Mathlib.Logic.Function.Basic

/-!
# Keys, buttons and the events about them

An event carries the states that its handlers read.  Which of them is the most recent one
depends on the kind of the event.
-/

namespace VoxelEngine.Input

/-- `SDL_Keycode` -/
abbrev Keycode := Int32

/-- `keymods` -/
abbrev Keymods := UInt32

/-- `KMOD_NONE` -/
def kmodNone : Keymods := 0

/-- `key_state` -/
structure KeyState where
  key : Keycode
  mods : Keymods
  lastChange : Int
  lastChangeTick : UInt64
  isDown : Bool

/-- `mouse_button` -/
inductive MouseButton where
  | left
  | right
  | middle
  | x1
  | x2
deriving DecidableEq

/-- `magic_enum::enum_values<mouse_button>` -/
def MouseButton.values : List MouseButton :=
  [.left, .right, .middle, .x1, .x2]

theorem MouseButton.mem_values (button : MouseButton) : button ∈ values := by
  cases button <;> decide

theorem MouseButton.nodup_values : values.Nodup := by
  decide

/-- `mouse_button_state` -/
structure MouseButtonState where
  button : MouseButton
  mods : Keymods
  lastChange : Int
  lastChangeTick : UInt64
  isDown : Bool

/-- `mouse_state` -/
structure MouseState where
  buttons : MouseButton → MouseButtonState
  position : Int × Int
  wheelPosition : Int
  mods : Keymods

/-- The types of the events that inputs can be bound to. -/
inductive EventType where
  | keyDown
  | keyUp
  | keyHold
  | keyType
  | buttonPress
  | buttonRelease
  | buttonHold
  | mouseMoveStart
  | mouseMoved
  | mouseMoveEnd
  | mouseWheelMoveStart
  | mouseWheelMoved
  | mouseWheelMoveEnd
  | mouseDragStart
  | mouseDrag
  | mouseDragEnd
deriving DecidableEq

/-- The events of `keyboard.hpp` and `mouse.hpp`, without their windows. -/
inductive InputEvent where
  | keyDown (oldState newState : KeyState)
  | keyUp (oldState newState : KeyState)
  | keyHold (state : KeyState)
  | keyType (state : KeyState)
  | buttonPress (oldState newState : MouseButtonState)
  | buttonRelease (oldState newState : MouseButtonState)
  | buttonHold (state : MouseButtonState)
  | mouseMoveStart (beginState : MouseState)
  | mouseMoved (beginState oldState newState : MouseState)
  | mouseMoveEnd (beginState endState : MouseState)
  | mouseWheelMoveStart (beginState : MouseState)
  | mouseWheelMoved (beginState oldState newState : MouseState)
  | mouseWheelMoveEnd (beginState endState : MouseState)
  | mouseDragStart (button : MouseButton) (beginState : MouseState)
  | mouseDrag (button : MouseButton) (beginState oldState newState : MouseState)
  | mouseDragEnd (button : MouseButton) (beginState endState : MouseState)

namespace InputEvent

/-- `type_hash` of an event. -/
def type : InputEvent → EventType
  | .keyDown .. => .keyDown
  | .keyUp .. => .keyUp
  | .keyHold .. => .keyHold
  | .keyType .. => .keyType
  | .buttonPress .. => .buttonPress
  | .buttonRelease .. => .buttonRelease
  | .buttonHold .. => .buttonHold
  | .mouseMoveStart .. => .mouseMoveStart
  | .mouseMoved .. => .mouseMoved
  | .mouseMoveEnd .. => .mouseMoveEnd
  | .mouseWheelMoveStart .. => .mouseWheelMoveStart
  | .mouseWheelMoved .. => .mouseWheelMoved
  | .mouseWheelMoveEnd .. => .mouseWheelMoveEnd
  | .mouseDragStart .. => .mouseDragStart
  | .mouseDrag .. => .mouseDrag
  | .mouseDragEnd .. => .mouseDragEnd

/-- `get_most_recent_state(event).mods` -/
def mods : InputEvent → Keymods
  | .keyDown _ newState | .keyUp _ newState => newState.mods
  | .keyHold state | .keyType state => state.mods
  | .buttonPress _ newState | .buttonRelease _ newState => newState.mods
  | .buttonHold state => state.mods
  | .mouseMoveStart beginState | .mouseWheelMoveStart beginState => beginState.mods
  | .mouseMoved _ _ newState | .mouseWheelMoved _ _ newState => newState.mods
  | .mouseMoveEnd _ endState | .mouseWheelMoveEnd _ endState => endState.mods
  | .mouseDragStart _ beginState => beginState.mods
  | .mouseDrag _ _ _ newState => newState.mods
  | .mouseDragEnd _ _ endState => endState.mods

/-- `get_most_recent_state(event).key` -/
def key : InputEvent → Option Keycode
  | .keyDown _ newState | .keyUp _ newState => some newState.key
  | .keyHold state | .keyType state => some state.key
  | _ => none

/-- `get_most_recent_state(event).button` of the events about buttons. -/
def button : InputEvent → Option MouseButton
  | .buttonPress _ newState | .buttonRelease _ newState => some newState.button
  | .buttonHold state => some state.button
  | _ => none

/-- The field `button` of the events about dragging. -/
def draggedButton : InputEvent → Option MouseButton
  | .mouseDragStart button _ | .mouseDrag button _ _ _ | .mouseDragEnd button _ _ => some button
  | _ => none

end InputEvent

end VoxelEngine.Input

/-!
## Inputs that can be bound

An input is one of five kinds.  Each kind lists the types of events it takes part in, and the bit
of `trigger_on` for a type is the position of the type in this list.
-/

namespace VoxelEngine.Input

/-- The classes that are derived from `binary_input` and `motion_input`. -/
inductive InputKind where
  | keyboard
  | mouseButton
  | mouseMotion
  | mouseWheelMotion
  | mouseDrag
deriving DecidableEq

/-- `event_types` of the class. -/
def InputKind.eventTypes : InputKind → List EventType
  | .keyboard => [.keyDown, .keyUp, .keyHold, .keyType]
  | .mouseButton => [.buttonPress, .buttonRelease, .buttonHold, .buttonHold]
  | .mouseMotion => [.mouseMoveStart, .mouseMoved, .mouseMoveEnd]
  | .mouseWheelMotion => [.mouseWheelMoveStart, .mouseWheelMoved, .mouseWheelMoveEnd]
  | .mouseDrag => [.mouseDragStart, .mouseDrag, .mouseDragEnd]

/-- The kind of input that a type of events belongs to. -/
def EventType.kind : EventType → InputKind
  | .keyDown | .keyUp | .keyHold | .keyType => .keyboard
  | .buttonPress | .buttonRelease | .buttonHold => .mouseButton
  | .mouseMoveStart | .mouseMoved | .mouseMoveEnd => .mouseMotion
  | .mouseWheelMoveStart | .mouseWheelMoved | .mouseWheelMoveEnd => .mouseWheelMotion
  | .mouseDragStart | .mouseDrag | .mouseDragEnd => .mouseDrag

@[simp]
theorem mem_eventTypes_iff (kind : InputKind) (type : EventType) :
    type ∈ kind.eventTypes ↔ type.kind = kind := by
  cases kind <;> cases type <;> decide

/-- Only the hold events of buttons are listed twice. -/
theorem count_eventTypes (type : EventType) :
    type.kind.eventTypes.count type = if type = .buttonHold then 2 else 1 := by
  cases type <;> decide

/-- What an input is about. -/
inductive Device where
  | keyboard (key : Keycode)
  | mouseButton (button : MouseButton)
  | mouseMotion
  | mouseWheelMotion
  | mouseDrag (button : MouseButton)

/-- `input` with the fields of `binary_input` or `motion_input`. -/
structure BindableInput where
  device : Device
  triggerOn : UInt8
  requiredMods : Keymods
  excludedMods : Keymods
  requiresMouseCapture : Bool

namespace BindableInput

/-- `input::type_hash` -/
def kind (input : BindableInput) : InputKind :=
  match input.device with
  | .keyboard _ => .keyboard
  | .mouseButton _ => .mouseButton
  | .mouseMotion => .mouseMotion
  | .mouseWheelMotion => .mouseWheelMotion
  | .mouseDrag _ => .mouseDrag

/-- `mouse_button_input(button)`, triggered on `KEY_HOLD`. -/
def mouseButtonInput (button : MouseButton) : BindableInput :=
  ⟨.mouseButton button, 4, kmodNone, kmodNone, true⟩

/-- `check_base_fields` of both base classes. -/
def checkBaseFields (mouseCapture : Bool) (input : BindableInput) (event : InputEvent) : Bool :=
  if input.requiresMouseCapture && !mouseCapture then false
  else if event.mods &&& input.requiredMods ≠ input.requiredMods then false
  else if event.mods &&& input.excludedMods ≠ kmodNone then false
  else true

/-- The comparison with `key` or `button`. -/
def isAbout (input : BindableInput) (event : InputEvent) : Bool :=
  match input.device with
  | .keyboard key => event.key == some key
  | .mouseButton button => event.button == some button
  | .mouseMotion | .mouseWheelMotion => true
  | .mouseDrag button => event.draggedButton == some button

/-- `should_trigger` of all five classes. -/
def shouldTrigger (mouseCapture : Bool) (input : BindableInput) (event : InputEvent) : Bool :=
  input.kind.eventTypes.zipIdx.any fun entry =>
    (input.triggerOn &&& (1 <<< UInt8.ofNat entry.2)) != 0 &&
      (event.type == entry.1 && input.checkBaseFields mouseCapture event && input.isAbout event)

/-- Only events of the kind of the input trigger it. -/
theorem kind_of_shouldTrigger {mouseCapture : Bool} {input : BindableInput} {event : InputEvent}
    (accepts : input.shouldTrigger mouseCapture event = true) : event.type.kind = input.kind := by
  rcases List.any_eq_true.mp accepts with ⟨entry, mem, checks⟩
  simp only [Bool.and_eq_true, beq_iff_eq] at checks
  rw [← mem_eventTypes_iff, checks.2.1.1]
  exact (List.mem_zipIdx' mem).2 ▸ List.getElem_mem _

end BindableInput

end VoxelEngine.Input
