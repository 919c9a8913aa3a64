import VoxelEngine.Data.Update
import VoxelEngine.Input.InputEvent
import VoxelEngine.Input.ManagerEvents

/-!
# Drags of one button

What the log tells about dragging with one button, whether a drag of it is going on, and whether
it is down: every handler changes these in a simple way, and for each button by itself.
-/

namespace VoxelEngine.Input

open VoxelEngine.Data VoxelEngine.Transition

/-- What happens to one button. -/
inductive DragLabel where
  | start
  | move
  | finish
  | release
deriving DecidableEq

/-- The part of an occurrence in the drags of a button.  A release counts, whether or not its
window is still open. -/
def dragLabel (button : MouseButton) : Occurrence → Option DragLabel
  | .dispatched (.mouseDragStart dragged _) => if dragged = button then some .start else none
  | .dispatched (.mouseDrag dragged _ _ _) => if dragged = button then some .move else none
  | .dispatched (.mouseDragEnd dragged _ _) => if dragged = button then some .finish else none
  | .polled ⟨.mouseButton false released, _⟩ => if released = button then some .release else none
  | _ => none

/-- The drags of a button. -/
def dragTrace (button : MouseButton) (log : List Occurrence) : List DragLabel :=
  log.filterMap (dragLabel button)

@[simp]
theorem dragTrace_append (button : MouseButton) (log later : List Occurrence) :
    dragTrace button (log ++ later) = dragTrace button log ++ dragTrace button later :=
  List.filterMap_append

/-- What matters of a button: its drags so far, whether there is a drag, and whether it is down. -/
structure DragView where
  trace : List DragLabel
  dragging : Bool
  isDown : Bool

namespace DragView

/-- A drag is started for a button that is down, if there is none. -/
def started (view : DragView) : DragView :=
  if view.isDown && !view.dragging then
    { view with trace := view.trace ++ [.start], dragging := true }
  else view

/-- A drag is moved for a button that is down. -/
def moved (view : DragView) : DragView :=
  if view.isDown then { view with trace := view.trace ++ [.move] } else view

/-- A drag is ended for a button that is not down. -/
def ended (view : DragView) : DragView :=
  if view.dragging && !view.isDown then
    { view with trace := view.trace ++ [.finish], dragging := false }
  else view

end DragView

namespace InputManager

variable {types : List EventType} {manager before middle after : InputManager}
  {live : Keycode → Bool} {tick : UInt64} {now : Int}

/-- What matters of a button in the state of the manager. -/
def dragView (manager : InputManager) (button : MouseButton) : DragView :=
  ⟨dragTrace button manager.log, (manager.currentMouseDrag button).isSome,
    (manager.currentMouseState.buttons button).isDown⟩

/-- Nothing that matters of any button has changed. -/
def SameDrags (before after : InputManager) : Prop :=
  ∀ button, after.dragView button = before.dragView button

theorem SameDrags.trans (first : SameDrags before middle) (second : SameDrags middle after) :
    SameDrags before after :=
  fun button => (second button).trans (first button)

theorem dragLabel_dispatched {event : InputEvent} (button : MouseButton)
    (sort : event.type.kind ≠ .mouseDrag) : dragLabel button (.dispatched event) = none := by
  cases event with
  | mouseDragStart dragged beginState => exact absurd rfl sort
  | mouseDrag dragged beginState oldState newState => exact absurd rfl sort
  | mouseDragEnd dragged beginState endState => exact absurd rfl sort
  | _ => rfl

/-- Events of other kinds do not matter for drags. -/
theorem dragTrace_of_tells (tells : Tells types before after)
    (others : ∀ type ∈ types, type.kind ≠ .mouseDrag) (button : MouseButton) :
    dragTrace button after.log = dragTrace button before.log := by
  rcases tells with ⟨events, logEq, each⟩
  have quiet : dragTrace button (events.map Occurrence.dispatched) = [] := by
    apply List.filterMap_eq_nil_iff.mpr
    intro occurrence mem
    rcases List.mem_map.mp mem with ⟨event, eventMem, rfl⟩
    exact dragLabel_dispatched button (others _ (each event eventMem))
  rw [logEq, dragTrace_append, quiet, List.append_nil]

theorem sameDrags_of_tells (tells : Tells types before after)
    (others : ∀ type ∈ types, type.kind ≠ .mouseDrag)
    (drags : after.currentMouseDrag = before.currentMouseDrag)
    (buttons : ∀ button, (after.currentMouseState.buttons button).isDown =
      (before.currentMouseState.buttons button).isDown) : SameDrags before after := by
  intro button
  rw [dragView, dragView, dragTrace_of_tells tells others, drags, buttons]

/-! ## Handlers that are not about drags -/

theorem sameDrags_getCurrentKeymods (live : Keycode → Bool) :
    SameDrags manager (manager.getCurrentKeymods live).1 := by
  rcases manager.getCurrentKeymods_spec live with ⟨table, tableEq, _⟩
  rw [tableEq]
  exact fun _ => rfl

theorem sameDrags_getMutableKeyState (live : Keycode → Bool) (key : Keycode) :
    SameDrags manager (manager.getMutableKeyState live key).1 := by
  rcases manager.getMutableKeyState_spec live key with ⟨table, tableEq, _⟩
  rw [tableEq]
  exact fun _ => rfl

theorem sameDrags_dispatchEvent {event : InputEvent} (sort : event.type.kind ≠ .mouseDrag) :
    SameDrags manager (manager.dispatchEvent event) := by
  apply sameDrags_of_tells (tells_dispatchEvent (List.mem_singleton.mpr rfl))
  · intro type mem
    rw [List.mem_singleton.mp mem]
    exact sort
  · rfl
  · exact fun _ => rfl

theorem sameDrags_dispatchKey (oldState newState : KeyState) :
    SameDrags manager (manager.dispatchKey oldState newState) := by
  rw [dispatchKey]
  split
  · split
    · exact sameDrags_dispatchEvent (by simp [InputEvent.type, EventType.kind])
    · exact sameDrags_dispatchEvent (by simp [InputEvent.type, EventType.kind])
  · split
    · exact sameDrags_dispatchEvent (by simp [InputEvent.type, EventType.kind])
    · exact fun _ => rfl

theorem sameDrags_handleKeyEvent (isDown : Bool) (sym : Keycode) (mod : Keymods) :
    SameDrags manager (manager.handleKeyEvent live isDown sym mod tick now) := by
  have asked := @sameDrags_getMutableKeyState manager live sym
  have told := asked.trans (sameDrags_dispatchKey (manager.getMutableKeyState live sym).2
    (changeKey (manager.getMutableKeyState live sym).2 isDown mod tick now))
  exact told

theorem sameDrags_startMove : SameDrags manager manager.startMove := by
  rw [startMove]
  split
  · exact fun _ => rfl
  · intro button
    exact sameDrags_dispatchEvent (by simp [InputEvent.type, EventType.kind]) button

theorem sameDrags_startWheelMove : SameDrags manager manager.startWheelMove := by
  rw [startWheelMove]
  split
  · exact fun _ => rfl
  · intro button
    exact sameDrags_dispatchEvent (by simp [InputEvent.type, EventType.kind]) button

theorem sameDrags_moveMouse (mods : Keymods) (rel : Int × Int) :
    SameDrags manager (manager.moveMouse mods rel) := by
  intro button
  exact sameDrags_dispatchEvent (by simp [InputEvent.type, EventType.kind]) button

theorem sameDrags_moveWheel (mods : Keymods) (y : Int) :
    SameDrags manager (manager.moveWheel mods y) := by
  intro button
  exact sameDrags_dispatchEvent (by simp [InputEvent.type, EventType.kind]) button

theorem sameDrags_handleMouseWheelEvent (y : Int) :
    SameDrags manager (manager.handleMouseWheelEvent live y) := by
  have read := (@sameDrags_startWheelMove manager).trans (sameDrags_getCurrentKeymods live)
  have moved := read.trans
    (sameDrags_moveWheel (manager.startWheelMove.getCurrentKeymods live).2 y)
  exact moved

theorem sameDrags_holdKeys (keyboardFocus : Bool) :
    SameDrags manager (manager.holdKeys keyboardFocus) := by
  have each : ∀ (manager : InputManager) (entry : Keycode × KeyState),
      (manager.holdKey entry).dragView = manager.dragView := by
    intro manager entry
    rw [holdKey]
    split
    · funext button
      exact sameDrags_dispatchEvent (by simp [InputEvent.type, EventType.kind]) button
    · rfl
  rw [holdKeys]
  split
  · exact congrFun (foldl_field dragView each _ manager)
  · exact fun _ => rfl

theorem sameDrags_endMove : SameDrags manager manager.endMove := by
  rw [endMove]
  split
  · split
    · intro button
      exact sameDrags_dispatchEvent (by simp [InputEvent.type, EventType.kind]) button
    · exact fun _ => rfl
  · exact fun _ => rfl

theorem sameDrags_endWheelMove : SameDrags manager manager.endWheelMove := by
  rw [endWheelMove]
  split
  · split
    · intro button
      exact sameDrags_dispatchEvent (by simp [InputEvent.type, EventType.kind]) button
    · exact fun _ => rfl
  · exact fun _ => rfl

/-! ## Buttons -/

@[simp]
theorem isDown_changeButton (oldState : MouseButtonState) (isDown : Bool) (mods : Keymods) :
    (changeButton oldState isDown mods tick now).isDown = isDown := by
  rw [changeButton]
  split
  · rfl
  · rename_i same
    exact (not_not.mp same).symm

theorem sameDrags_dispatchButton (oldState newState : MouseButtonState) :
    SameDrags manager (manager.dispatchButton oldState newState) := by
  rw [dispatchButton]
  split
  · split
    · exact sameDrags_dispatchEvent (by simp [InputEvent.type, EventType.kind])
    · exact sameDrags_dispatchEvent (by simp [InputEvent.type, EventType.kind])
  · exact sameDrags_dispatchEvent (by simp [InputEvent.type, EventType.kind])

theorem dragView_setButton (manager : InputManager) (changed button : MouseButton)
    (state : MouseButtonState) :
    (manager.setButton changed state).dragView button =
      if button = changed then { manager.dragView button with isDown := state.isDown }
      else manager.dragView button := by
  by_cases same : button = changed
  · simp [setButton, dragView, same]
  · simp [setButton, dragView, same]

/-- Handling an event of a button changes whether it is down, and no drag. -/
theorem dragView_handleMouseButtonEvent (isDown : Bool) (changed button : MouseButton) :
    (manager.handleMouseButtonEvent live isDown changed tick now).dragView button =
      if button = changed then { manager.dragView button with isDown := isDown }
      else manager.dragView button := by
  have afterwards : ∀ read : InputManager × Keymods, SameDrags manager read.1 →
      ((read.1.dispatchButton (manager.currentMouseState.buttons changed)
        (changeButton (manager.currentMouseState.buttons changed) isDown read.2 tick now)).setButton
          changed (changeButton (manager.currentMouseState.buttons changed) isDown read.2 tick
            now)).dragView button =
        if button = changed then { manager.dragView button with isDown := isDown }
        else manager.dragView button := by
    intro read readSame
    have told := readSame.trans (sameDrags_dispatchButton (manager.currentMouseState.buttons changed)
      (changeButton (manager.currentMouseState.buttons changed) isDown read.2 tick now))
    rw [dragView_setButton, isDown_changeButton, told button]
  rw [handleMouseButtonEvent]
  split
  · exact afterwards _ (sameDrags_getCurrentKeymods live)
  · exact afterwards _ fun _ => rfl

/-- A loop over all buttons that changes one of them at a time. -/
theorem dragView_foldl {body : InputManager → MouseButton → InputManager}
    {change : DragView → DragView}
    (own : ∀ manager button, (body manager button).dragView button =
      change (manager.dragView button))
    (elsewhere : ∀ manager visited button, button ≠ visited →
      (body manager visited).dragView button = manager.dragView button)
    (manager : InputManager) (button : MouseButton) :
    (MouseButton.values.foldl body manager).dragView button = change (manager.dragView button) := by
  rcases view_foldl_of_mem dragView elsewhere MouseButton.nodup_values (MouseButton.mem_values button)
    manager with ⟨middle, middleEq, foldEq⟩
  rw [foldEq, own, middleEq]

@[simp]
theorem dragView_startDrag (manager : InputManager) (button : MouseButton) :
    (manager.startDrag button).dragView button = (manager.dragView button).started := by
  rw [startDrag, DragView.started]
  cases down : (manager.currentMouseState.buttons button).isDown with
  | false => simp [dragView, down]
  | true =>
      cases drag : manager.currentMouseDrag button with
      | some beginState => simp [dragView, drag]
      | none => simp [dragView, dispatchEvent, dragTrace, dragLabel, down, drag]

theorem dragView_startDrag_of_ne (manager : InputManager) (visited button : MouseButton)
    (different : button ≠ visited) :
    (manager.startDrag visited).dragView button = manager.dragView button := by
  rw [startDrag]
  split
  · split
    · rfl
    · simp [dragView, dispatchEvent, dragTrace, dragLabel, different, Ne.symm different]
  · rfl

@[simp]
theorem dragView_moveDrag (manager : InputManager) (button : MouseButton) :
    (manager.moveDrag button).dragView button = (manager.dragView button).moved := by
  rw [moveDrag, DragView.moved]
  cases down : (manager.currentMouseState.buttons button).isDown with
  | false => simp [dragView, down]
  | true => simp [dragView, dispatchEvent, dragTrace, dragLabel, down]

theorem dragView_moveDrag_of_ne (manager : InputManager) (visited button : MouseButton)
    (different : button ≠ visited) :
    (manager.moveDrag visited).dragView button = manager.dragView button := by
  rw [moveDrag]
  split
  · simp [dragView, dispatchEvent, dragTrace, dragLabel, Ne.symm different]
  · rfl

@[simp]
theorem dragView_endDrag (manager : InputManager) (button : MouseButton) :
    (manager.endDrag button).dragView button = (manager.dragView button).ended := by
  rw [endDrag, DragView.ended]
  cases drag : manager.currentMouseDrag button with
  | none => simp [dragView, drag]
  | some beginState =>
      cases down : (manager.currentMouseState.buttons button).isDown with
      | true => simp [dragView, drag, down]
      | false => simp [dragView, dispatchEvent, dragTrace, dragLabel, down, drag]

theorem dragView_endDrag_of_ne (manager : InputManager) (visited button : MouseButton)
    (different : button ≠ visited) :
    (manager.endDrag visited).dragView button = manager.dragView button := by
  rw [endDrag]
  split
  · split
    · simp [dragView, dispatchEvent, dragTrace, dragLabel, different, Ne.symm different]
    · rfl
  · rfl

/-- A motion starts a drag of each button that is down, and moves it. -/
@[simp]
theorem dragView_handleMouseMoveEvent (rel : Int × Int) (button : MouseButton) :
    (manager.handleMouseMoveEvent live rel).dragView button =
      (manager.dragView button).started.moved := by
  have started := dragView_foldl dragView_startDrag dragView_startDrag_of_ne manager.startMove
  have read : SameDrags (MouseButton.values.foldl startDrag manager.startMove)
      (((MouseButton.values.foldl startDrag manager.startMove).getCurrentKeymods live).1.moveMouse
        ((MouseButton.values.foldl startDrag manager.startMove).getCurrentKeymods live).2 rel) :=
    (sameDrags_getCurrentKeymods live).trans (sameDrags_moveMouse _ rel)
  rw [handleMouseMoveEvent, dragView_foldl dragView_moveDrag dragView_moveDrag_of_ne, read button,
    started button, sameDrags_startMove button]

/-- With the mouse in a window, an update ends the drags of buttons that are not down. -/
theorem dragView_finishUpdate (keyboardFocus mouseFocus : Bool) (button : MouseButton) :
    (manager.finishUpdate keyboardFocus mouseFocus).dragView button =
      if mouseFocus then (manager.dragView button).ended else manager.dragView button := by
  have held := @sameDrags_holdKeys manager keyboardFocus
  rw [finishUpdate, endMouse]
  split
  · have ended := (held.trans sameDrags_endMove).trans sameDrags_endWheelMove
    rw [dragView_foldl dragView_endDrag dragView_endDrag_of_ne, ended button]
  · exact held button

end InputManager

end VoxelEngine.Input
