import VoxelEngine.Input.DragView

/-!
# Drags are well bracketed

The drags of a button have to follow a small machine: a start, moves, an end, and after a release
nothing but the end.  What the manager does for one button is right in every state but one: the
button was released in a drag that was not ended yet, and is down again when the mouse moves.
-/

namespace VoxelEngine.Input

open VoxelEngine.Data VoxelEngine.Transition

/-- Where the drags of a button are. -/
inductive DragPhase where
  | idle
  | dragging
  | released
deriving DecidableEq

/-- What may come next.  A release matters in a drag only. -/
def DragPhase.step : Step DragPhase DragLabel
  | .idle, .start => some .dragging
  | .idle, .release => some .idle
  | .dragging, .move => some .dragging
  | .dragging, .finish => some .idle
  | .dragging, .release => some .released
  | .released, .finish => some .idle
  | .released, .release => some .released
  | _, _ => none

/-- Where the drags of a button are after all that has happened, if it was well bracketed. -/
def dragPhase (button : MouseButton) (log : List Occurrence) : Option DragPhase :=
  run DragPhase.step .idle (dragTrace button log)

namespace DragView

/-- The phase that a trace of drags leads to. -/
def phase (view : DragView) : Option DragPhase :=
  run DragPhase.step .idle view.trace

/-- There is a drag in all phases but the first one. -/
def Sound (view : DragView) : Prop :=
  ∀ phase, view.phase = some phase → (view.dragging = false ↔ phase = .idle)

variable {view : DragView}

theorem phase_append {phase : DragPhase} (phaseEq : view.phase = some phase)
    (labels : List DragLabel) (dragging isDown : Bool) :
    (DragView.mk (view.trace ++ labels) dragging isDown).phase = run DragPhase.step phase labels :=
  run_append_of_run phaseEq labels

/-- A phase is known before one is known after. -/
theorem phase_of_append {labels : List DragLabel} {dragging isDown : Bool} {final : DragPhase}
    (finalEq : (DragView.mk (view.trace ++ labels) dragging isDown).phase = some final) :
    ∃ phase, view.phase = some phase ∧ run DragPhase.step phase labels = some final :=
  (run_append_eq_some_iff _ _ _ _ _).mp finalEq

/-- The motion of a button that is down. -/
theorem started_moved_of_isDown (down : view.isDown = true) :
    view.started.moved =
      ⟨view.trace ++ ((if view.dragging then [] else [DragLabel.start]) ++ [.move]), true,
        true⟩ := by
  rcases view with ⟨trace, dragging, isDown⟩
  cases down
  cases dragging <;> simp [started, moved]

theorem started_moved_of_not_isDown (up : view.isDown = false) : view.started.moved = view := by
  simp [started, moved, up]

/-- A motion is right unless the button is down although its drag was released. -/
theorem isSome_phase_moved_iff (sound : view.Sound) {phase : DragPhase}
    (phaseEq : view.phase = some phase) :
    view.started.moved.phase.isSome = true ↔ ¬(view.isDown = true ∧ phase = .released) := by
  have idleIff := sound phase phaseEq
  cases down : view.isDown with
  | false => simp [started_moved_of_not_isDown down, phaseEq]
  | true =>
      rw [started_moved_of_isDown down, phase_append phaseEq]
      cases phase with
      | idle =>
          rw [idleIff.mpr rfl]
          decide
      | dragging =>
          cases dragging : view.dragging with
          | false => exact absurd (idleIff.mp dragging) (by decide)
          | true => decide
      | released =>
          cases dragging : view.dragging with
          | false => exact absurd (idleIff.mp dragging) (by decide)
          | true => decide

theorem sound_moved (sound : view.Sound) : view.started.moved.Sound := by
  cases down : view.isDown with
  | false =>
      rw [started_moved_of_not_isDown down]
      exact sound
  | true =>
      rw [started_moved_of_isDown down]
      intro final finalEq
      rcases phase_of_append finalEq with ⟨phase, _, laterEq⟩
      apply iff_of_false (by simp)
      rintro rfl
      revert laterEq
      cases phase <;> cases view.dragging <;> decide

/-- Ending a drag is right in every phase with one. -/
theorem isSome_phase_ended (sound : view.Sound) {phase : DragPhase}
    (phaseEq : view.phase = some phase) : view.ended.phase.isSome = true := by
  have idleIff := sound phase phaseEq
  rw [ended]
  split
  · rename_i ends
    rw [Bool.and_eq_true] at ends
    rw [phase_append phaseEq]
    cases phase with
    | idle =>
        rw [idleIff.mpr rfl] at ends
        cases ends.1
    | dragging => rfl
    | released => rfl
  · rw [phaseEq]
    rfl

theorem sound_ended (sound : view.Sound) : view.ended.Sound := by
  rw [ended]
  split
  · intro final finalEq
    rcases phase_of_append finalEq with ⟨phase, _, laterEq⟩
    apply iff_of_true rfl
    revert laterEq
    cases phase <;> simp [run, DragPhase.step, eq_comm]
  · exact sound

/-- A release is right in every phase. -/
theorem isSome_phase_release {phase : DragPhase} (phaseEq : view.phase = some phase)
    (dragging isDown : Bool) :
    (DragView.mk (view.trace ++ [.release]) dragging isDown).phase.isSome = true := by
  rw [phase_append phaseEq]
  cases phase <;> rfl

theorem sound_release (sound : view.Sound) (isDown : Bool) :
    (DragView.mk (view.trace ++ [.release]) view.dragging isDown).Sound := by
  intro final finalEq
  rcases phase_of_append finalEq with ⟨phase, phaseEq, laterEq⟩
  change view.dragging = false ↔ _
  rw [sound phase phaseEq]
  cases phase with
  | idle =>
      rcases laterEq with ⟨rfl⟩
      exact Iff.rfl
  | dragging =>
      rcases laterEq with ⟨rfl⟩
      decide
  | released =>
      rcases laterEq with ⟨rfl⟩
      exact Iff.rfl

theorem sound_of_same (sound : view.Sound) (isDown : Bool) :
    { view with isDown := isDown }.Sound :=
  sound

/-- What handling an event does for one button. -/
def handled (view : DragView) (button : MouseButton) : QueuedEvent → DragView
  | ⟨.mouseButton isDown changed, windowOpen⟩ =>
      if button = changed then
        { trace := if isDown then view.trace else view.trace ++ [.release]
          dragging := view.dragging
          isDown := if windowOpen then isDown else view.isDown }
      else view
  | ⟨.mouseMotion _, true⟩ => view.started.moved
  | _ => view

/-- No motion moves a drag that was released. -/
def NotStale (view : DragView) : QueuedEvent → Prop
  | ⟨.mouseMotion _, true⟩ => ¬(view.isDown = true ∧ view.phase = some .released)
  | _ => True

theorem sound_handled (sound : view.Sound) (button : MouseButton) (queued : QueuedEvent) :
    (view.handled button queued).Sound := by
  rcases queued with ⟨event, windowOpen⟩
  cases event with
  | mouseButton isDown changed =>
      rw [handled]
      split
      · cases isDown with
        | true => exact sound_of_same sound _
        | false => exact sound_release sound _
      · exact sound
  | mouseMotion rel =>
      cases windowOpen with
      | true => exact sound_moved sound
      | false => exact sound
  | _ => exact sound

theorem isSome_phase_handled_iff (sound : view.Sound) (known : view.phase.isSome = true)
    (button : MouseButton) (queued : QueuedEvent) :
    (view.handled button queued).phase.isSome = true ↔ view.NotStale queued := by
  rcases Option.isSome_iff_exists.mp known with ⟨phase, phaseEq⟩
  rcases queued with ⟨event, windowOpen⟩
  cases event with
  | mouseButton isDown changed =>
      apply iff_of_true _ trivial
      rw [handled]
      split
      · cases isDown with
        | true => exact known
        | false => exact isSome_phase_release phaseEq _ _
      · exact known
  | mouseMotion rel =>
      cases windowOpen with
      | true =>
          rw [NotStale, phaseEq, Option.some.injEq]
          exact isSome_phase_moved_iff sound phaseEq
      | false => exact iff_of_true known trivial
  | _ => exact iff_of_true known trivial

end DragView

namespace InputManager

variable {manager : InputManager} {live : Keycode → Bool} {tick : UInt64} {now : Int}

/-- Taking an event from the queue matters for drags if it is a release. -/
@[simp]
theorem dragView_polled (manager : InputManager) (queued : QueuedEvent) (button : MouseButton) :
    dragView { manager with log := manager.log ++ [Occurrence.polled queued] } button =
      { manager.dragView button with
        trace := (manager.dragView button).trace ++
          (dragLabel button (.polled queued)).toList } := by
  rw [dragView, dragTrace_append]
  congr 2

theorem dragView_polled_of_none {queued : QueuedEvent} {button : MouseButton}
    (unlabelled : dragLabel button (.polled queued) = none) :
    dragView { manager with log := manager.log ++ [Occurrence.polled queued] } button =
      manager.dragView button := by
  rw [dragView_polled, unlabelled]
  exact congrArg (fun trace => DragView.mk trace _ _) (List.append_nil _)

/-- Events of buttons, whether or not their window is still open. -/
@[simp]
theorem dragView_handleButton (manager : InputManager) (isDown : Bool) (changed : MouseButton)
    (windowOpen : Bool) (button : MouseButton) :
    (handleEvent { manager with
        log := manager.log ++ [Occurrence.polled ⟨.mouseButton isDown changed, windowOpen⟩] } live
          ⟨.mouseButton isDown changed, windowOpen⟩ tick now).dragView button =
      (manager.dragView button).handled button ⟨.mouseButton isDown changed, windowOpen⟩ := by
  have polled : dragView { manager with
      log := manager.log ++ [Occurrence.polled ⟨.mouseButton isDown changed, windowOpen⟩] } button =
        if button = changed then
          { manager.dragView button with
            trace := if isDown then (manager.dragView button).trace
              else (manager.dragView button).trace ++ [.release] }
        else manager.dragView button := by
    cases isDown with
    | true =>
        rw [dragView_polled_of_none rfl]
        split <;> rfl
    | false =>
        rw [dragView_polled, dragLabel]
        by_cases same : button = changed
        · rw [if_pos same, if_pos same.symm]
          rfl
        · rw [if_neg same, if_neg (Ne.symm same)]
          exact congrArg (fun trace => DragView.mk trace _ _) (List.append_nil _)
  rw [DragView.handled, handleEvent]
  cases windowOpen with
  | true =>
      rw [if_pos rfl, dragView_handleMouseButtonEvent, polled]
      by_cases same : button = changed
      · rw [if_pos same, if_pos same, if_pos same]
        rfl
      · rw [if_neg same, if_neg same, if_neg same]
  | false =>
      rw [if_neg Bool.false_ne_true, polled]
      by_cases same : button = changed
      · rw [if_pos same, if_pos same]
        rfl
      · rw [if_neg same, if_neg same]

/-- For each button the manager does what one button needs. -/
@[simp]
theorem dragView_handleEvent (manager : InputManager) (queued : QueuedEvent)
    (button : MouseButton) :
    (handleEvent { manager with log := manager.log ++ [Occurrence.polled queued] } live queued tick
      now).dragView button = (manager.dragView button).handled button queued := by
  rcases queued with ⟨event, windowOpen⟩
  cases event with
  | mouseButton isDown changed =>
      exact manager.dragView_handleButton isDown changed windowOpen button
  | mouseMotion rel =>
      rw [handleEvent]
      cases windowOpen with
      | false => exact dragView_polled_of_none rfl
      | true =>
          rw [if_pos rfl, dragView_handleMouseMoveEvent, dragView_polled_of_none rfl]
          rfl
  | key isDown sym mod =>
      rw [handleEvent]
      cases windowOpen with
      | false => exact dragView_polled_of_none rfl
      | true =>
          rw [if_pos rfl, sameDrags_handleKeyEvent isDown sym mod button]
          exact dragView_polled_of_none rfl
  | mouseWheel y =>
      rw [handleEvent]
      cases windowOpen with
      | false => exact dragView_polled_of_none rfl
      | true =>
          rw [if_pos rfl, sameDrags_handleMouseWheelEvent y button]
          exact dragView_polled_of_none rfl
  | other =>
      rw [handleEvent]
      cases windowOpen <;> exact dragView_polled_of_none rfl

end InputManager

namespace InputSystem

variable {system next : InputSystem} {action : InputAction}

/-- What a step does for one button. -/
def viewAfter (system : InputSystem) (button : MouseButton) : InputAction → DragView
  | .poll =>
      match system.queue with
      | queued :: _ => (system.manager.dragView button).handled button queued
      | [] => system.manager.dragView button
  | .finishUpdate _ mouseFocus =>
      if mouseFocus then (system.manager.dragView button).ended
      else system.manager.dragView button
  | _ => system.manager.dragView button

/-- Each button goes its own way. -/
theorem dragView_step (stepEq : step system action = some next) (button : MouseButton) :
    next.manager.dragView button = system.viewAfter button action := by
  cases action with
  | pump queued =>
      rcases stepEq with ⟨rfl⟩
      rfl
  | query key =>
      rcases stepEq with ⟨rfl⟩
      exact InputManager.sameDrags_getMutableKeyState system.live key button
  | beginUpdate tick now =>
      rw [beginUpdate_cases stepEq]
      rfl
  | poll =>
      rcases poll_cases stepEq with ⟨tick, now, queued, rest, _, queueEq, managerEq⟩
      rw [managerEq, InputManager.dragView_handleEvent, viewAfter, queueEq]
  | finishUpdate keyboardFocus mouseFocus =>
      rw [finishUpdate_cases stepEq, InputManager.dragView_finishUpdate]
      rfl

/-- The drags of all buttons are well bracketed. -/
def WellBracketed (system : InputSystem) : Prop :=
  ∀ button, (dragPhase button system.manager.log).isSome = true

/-- No motion is handled while a button is down whose drag was released before and has not been
ended since. -/
def NoStaleDrag (system : InputSystem) : InputAction → Prop
  | .poll =>
      system.updating.isSome = true → ∀ rel rest, system.queue = ⟨.mouseMotion rel, true⟩ :: rest →
        ∀ button, ¬((system.manager.currentMouseState.buttons button).isDown = true ∧
          dragPhase button system.manager.log = some .released)
  | _ => True

/-- There is a drag exactly while one is expected. -/
def DragsSound (system : InputSystem) : Prop :=
  ∀ button, (system.manager.dragView button).Sound

theorem dragsSound_step (sound : system.DragsSound) (stepEq : step system action = some next) :
    next.DragsSound := by
  intro button
  rw [dragView_step stepEq button]
  cases action with
  | poll =>
      rw [viewAfter]
      split
      · exact DragView.sound_handled (sound button) button _
      · exact sound button
  | finishUpdate keyboardFocus mouseFocus =>
      rw [viewAfter]
      split
      · exact DragView.sound_ended (sound button)
      · exact sound button
  | _ => exact sound button

/-- The drags are well bracketed after a step exactly if those of each button are. -/
theorem wellBracketed_next_iff (stepEq : step system action = some next) :
    next.WellBracketed ↔ ∀ button, (system.viewAfter button action).phase.isSome = true := by
  constructor
  · intro bracketed button
    rw [← dragView_step stepEq button]
    exact bracketed button
  · intro each button
    have known := each button
    rw [← dragView_step stepEq button] at known
    exact known

/-- Handling a motion is all that can go wrong. -/
theorem notStale_iff {queued : QueuedEvent} {rest : List QueuedEvent}
    (updating : system.updating.isSome = true) (queueEq : system.queue = queued :: rest) :
    (∀ button, (system.manager.dragView button).NotStale queued) ↔ system.NoStaleDrag .poll := by
  rw [NoStaleDrag, queueEq]
  constructor
  · rintro each _ rel others ⟨rfl⟩
    exact each
  · intro fine button
    rcases queued with ⟨event, windowOpen⟩
    cases event with
    | mouseMotion rel =>
        cases windowOpen with
        | true => exact fine updating rel rest rfl button
        | false => trivial
    | _ => trivial

/-- A step keeps the drags well bracketed exactly if it moves no drag that was released. -/
theorem wellBracketed_step_iff (sound : system.DragsSound) (bracketed : system.WellBracketed) :
    (∀ next, step system action = some next → next.WellBracketed) ↔ system.NoStaleDrag action := by
  have unchanged : (∀ button, system.viewAfter button action = system.manager.dragView button) →
      ∀ next, step system action = some next → next.WellBracketed := by
    intro same next stepEq
    rw [wellBracketed_next_iff stepEq]
    intro button
    rw [same button]
    exact bracketed button
  cases action with
  | poll =>
      cases updatingEq : system.updating with
      | none => simp [step, NoStaleDrag, updatingEq]
      | some time =>
          cases queueEq : system.queue with
          | nil => simp [step, NoStaleDrag, updatingEq, queueEq]
          | cons queued rest =>
              rw [← notStale_iff (by rw [updatingEq]; rfl) queueEq]
              have each : ∀ button, system.viewAfter button .poll =
                  (system.manager.dragView button).handled button queued := by
                intro button
                rw [viewAfter, queueEq]
              have handled : ∀ button, (system.viewAfter button .poll).phase.isSome = true ↔
                  (system.manager.dragView button).NotStale queued := by
                intro button
                rw [each button]
                exact DragView.isSome_phase_handled_iff (sound button) (bracketed button) button queued
              simp only [← handled]
              constructor
              · intro reached
                rcases exists_poll updatingEq queueEq with ⟨next, stepEq⟩
                exact (wellBracketed_next_iff stepEq).mp (reached next stepEq)
              · intro known next stepEq
                exact (wellBracketed_next_iff stepEq).mpr known
  | finishUpdate keyboardFocus mouseFocus =>
      apply iff_of_true _ trivial
      intro next stepEq
      rw [wellBracketed_next_iff stepEq]
      intro button
      rcases Option.isSome_iff_exists.mp (bracketed button) with ⟨phase, phaseEq⟩
      rw [viewAfter]
      split
      · exact DragView.isSome_phase_ended (sound button) phaseEq
      · exact bracketed button
  | pump queued => exact iff_of_true (unchanged fun _ => rfl) trivial
  | query key => exact iff_of_true (unchanged fun _ => rfl) trivial
  | beginUpdate tick now => exact iff_of_true (unchanged fun _ => rfl) trivial

end InputSystem

/-- In every state reached the drags of each button are well bracketed: one start, moves, one end,
and after a release the end before anything else. -/
def DragsBracketed (initial : Keycode → Bool) (actions : List InputAction) : Prop :=
  ∀ before after middle, actions = before ++ after →
    run InputSystem.step (InputSystem.start initial) before = some middle → middle.WellBracketed

/-- Drags are well bracketed exactly if no motion is handled while a button is down whose drag was
released before and has not been ended since. -/
theorem dragsBracketed_iff (initial : Keycode → Bool) (actions : List InputAction) :
    DragsBracketed initial actions ↔
      Guarded InputSystem.step InputSystem.NoStaleDrag (InputSystem.start initial) actions := by
  have kept : ∀ system action next, InputSystem.DragsSound system →
      InputSystem.step system action = some next → InputSystem.DragsSound next :=
    fun _ _ _ => InputSystem.dragsSound_step
  have steps : ∀ system action, InputSystem.DragsSound system → InputSystem.WellBracketed system →
      ((∀ next, InputSystem.step system action = some next → InputSystem.WellBracketed next) ↔
        InputSystem.NoStaleDrag system action) :=
    fun _ _ => InputSystem.wellBracketed_step_iff
  apply reached_iff_guarded kept steps
  · rintro button phase ⟨rfl⟩
    exact iff_of_true rfl rfl
  · exact fun _ => rfl

/-- The left button is pressed, dragged, released, pressed again and dragged again, all before the
next update. -/
def dragAgain : List InputAction :=
  [.pump ⟨.mouseButton true .left, true⟩, .pump ⟨.mouseMotion (1, 0), true⟩,
    .pump ⟨.mouseButton false .left, true⟩, .pump ⟨.mouseButton true .left, true⟩,
    .pump ⟨.mouseMotion (1, 0), true⟩, .beginUpdate 0 0, .poll, .poll, .poll, .poll, .poll]

/-- The first drag goes on after its release. -/
theorem not_dragsBracketed_dragAgain :
    (run InputSystem.step (InputSystem.start fun _ => false) dragAgain).map
        (fun system => dragTrace .left system.manager.log) =
        some [.start, .move, .release, .move] ∧
      ¬DragsBracketed (fun _ => false) dragAgain := by
  have ran : (run InputSystem.step (InputSystem.start fun _ => false) dragAgain).map
      (fun system => dragTrace .left system.manager.log) =
        some [.start, .move, .release, .move] := by
    decide +kernel
  refine ⟨ran, ?_⟩
  intro each
  rcases Option.map_eq_some_iff.mp ran with ⟨system, systemEq, traceEq⟩
  have bracketed := each dragAgain [] system (List.append_nil _).symm systemEq .left
  rw [dragPhase, traceEq] at bracketed
  exact absurd bracketed (by decide)

end VoxelEngine.Input
