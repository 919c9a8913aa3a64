import VoxelEngine.Input.ManagerEvents

/-!
# One event for each press of a key

The log tells which keys were pressed, as SDL said, and for which keys a press was dispatched.
These agree exactly if the manager compares each press, and each repetition, with what the key was
like before it.  What it compares with is the entry of the key, or for a key without an entry the
state of the keyboard, which already has all events that SDL has gathered.
-/

namespace VoxelEngine.Input

open VoxelEngine.Data VoxelEngine.Transition

/-- The key that a `key_down_event` is about. -/
def keyDownOf : Occurrence → Option Keycode
  | .dispatched (.keyDown _ newState) => some newState.key
  | _ => none

/-- The keys of all `key_down_event`s, in order. -/
def keyDowns (log : List Occurrence) : List Keycode :=
  log.filterMap keyDownOf

/-- The keys that are held, and the presses of keys that were up. -/
structure KeyHistory where
  held : Keycode → Bool
  presses : List Keycode

/-- A press counts if its window is still open. -/
def KeyHistory.note (history : KeyHistory) : Occurrence → KeyHistory
  | .polled ⟨.key isDown sym _, windowOpen⟩ =>
      { held := Function.update history.held sym isDown
        presses :=
          if isDown && !history.held sym && windowOpen then history.presses ++ [sym]
          else history.presses }
  | _ => history

/-- What the events that were taken from the queue say. -/
def keyHistory (initial : Keycode → Bool) (log : List Occurrence) : KeyHistory :=
  log.foldl KeyHistory.note ⟨initial, []⟩

/-- Other events, and those of closed windows, are no presses. -/
theorem presses_note_of_not_key (history : KeyHistory) {queued : QueuedEvent}
    (notKey : ∀ isDown sym mod, queued ≠ ⟨.key isDown sym mod, true⟩) :
    (history.note (.polled queued)).presses = history.presses := by
  rcases queued with ⟨event, windowOpen⟩
  cases event with
  | key isDown sym mod =>
      cases windowOpen with
      | false => simp [KeyHistory.note]
      | true => exact absurd rfl (notKey isDown sym mod)
  | _ => rfl

@[simp]
theorem keyHistory_append (initial : Keycode → Bool) (log later : List Occurrence) :
    keyHistory initial (log ++ later) = later.foldl KeyHistory.note (keyHistory initial log) :=
  List.foldl_append

@[simp]
theorem keyDowns_append (log later : List Occurrence) :
    keyDowns (log ++ later) = keyDowns log ++ keyDowns later :=
  List.filterMap_append

namespace InputManager

variable {types : List EventType} {manager before after : InputManager} {live : Keycode → Bool}
  {tick : UInt64} {now : Int}

theorem keyDownOf_eq_none {event : InputEvent} (sort : event.type ≠ .keyDown) :
    keyDownOf (.dispatched event) = none := by
  cases event with
  | keyDown oldState newState => exact absurd rfl sort
  | _ => rfl

/-- Other events are no presses. -/
theorem keyDowns_of_tells (tells : Tells types before after) (others : .keyDown ∉ types) :
    keyDowns after.log = keyDowns before.log := by
  rcases tells with ⟨events, logEq, each⟩
  have quiet : keyDowns (events.map Occurrence.dispatched) = [] := by
    apply List.filterMap_eq_nil_iff.mpr
    intro occurrence mem
    rcases List.mem_map.mp mem with ⟨event, eventMem, rfl⟩
    apply keyDownOf_eq_none
    intro sort
    exact others (sort ▸ each event eventMem)
  rw [logEq, keyDowns_append, quiet, List.append_nil]

@[simp]
theorem foldl_note_dispatched (history : KeyHistory) (events : List InputEvent) :
    (events.map Occurrence.dispatched).foldl KeyHistory.note history = history := by
  induction events with
  | nil => rfl
  | cons event rest ih => exact ih

/-- What is dispatched does not tell anything about the keys. -/
theorem keyHistory_of_tells (initial : Keycode → Bool) (tells : Tells types before after) :
    keyHistory initial after.log = keyHistory initial before.log := by
  rcases tells with ⟨events, logEq, _⟩
  rw [logEq, keyHistory_append, foldl_note_dispatched]

/-- What a press of the key is compared with. -/
def recordedDown (manager : InputManager) (live : Keycode → Bool) (key : Keycode) : Bool :=
  match manager.keyboardState.find key with
  | some state => state.isDown
  | none => live key

@[simp]
theorem isDown_getMutableKeyState (manager : InputManager) (live : Keycode → Bool) (key : Keycode) :
    (manager.getMutableKeyState live key).2.isDown = manager.recordedDown live key := by
  rw [getMutableKeyState, recordedDown]
  cases manager.keyboardState.find key <;> rfl

theorem key_getMutableKeyState (keyed : manager.Keyed) (live : Keycode → Bool) (key : Keycode) :
    (manager.getMutableKeyState live key).2.key = key := by
  rw [getMutableKeyState]
  cases found : manager.keyboardState.find key with
  | none => rfl
  | some state => exact keyed key state found

@[simp]
theorem isDown_changeKey (oldState : KeyState) (isDown : Bool) (mod : Keymods) :
    (changeKey oldState isDown mod tick now).isDown = isDown := by
  rw [changeKey]
  split
  · rfl
  · rename_i same
    exact (not_not.mp same).symm

@[simp]
theorem key_changeKey (oldState : KeyState) (isDown : Bool) (mod : Keymods) :
    (changeKey oldState isDown mod tick now).key = oldState.key := by
  rw [changeKey]
  split <;> rfl

/-- A press is dispatched when a key goes down that was not down before. -/
theorem keyDowns_dispatchKey (manager : InputManager) (oldState newState : KeyState) :
    keyDowns (manager.dispatchKey oldState newState).log =
      keyDowns manager.log ++
        if newState.isDown && !oldState.isDown then [newState.key] else [] := by
  rw [dispatchKey]
  cases newState.isDown with
  | true =>
      cases oldState.isDown with
      | true => exact keyDowns_append _ _
      | false => exact keyDowns_append _ _
  | false =>
      cases oldState.isDown with
      | true => exact keyDowns_append _ _
      | false => exact (List.append_nil _).symm

theorem keyDowns_handleKeyEvent (keyed : manager.Keyed) (isDown : Bool) (sym : Keycode)
    (mod : Keymods) :
    keyDowns (manager.handleKeyEvent live isDown sym mod tick now).log =
      keyDowns manager.log ++
        if isDown && !manager.recordedDown live sym then [sym] else [] := by
  rcases manager.getMutableKeyState_spec live sym with ⟨table, tableEq, _⟩
  have logEq : (manager.getMutableKeyState live sym).1.log = manager.log := by rw [tableEq]
  have told := keyDowns_dispatchKey (manager.getMutableKeyState live sym).1
    (manager.getMutableKeyState live sym).2
    (changeKey (manager.getMutableKeyState live sym).2 isDown mod tick now)
  rw [isDown_changeKey, key_changeKey, key_getMutableKeyState keyed, isDown_getMutableKeyState,
    logEq] at told
  exact told

theorem keyed_handleKeyEvent (keyed : manager.Keyed) (isDown : Bool) (sym : Keycode)
    (mod : Keymods) : (manager.handleKeyEvent live isDown sym mod tick now).Keyed := by
  rcases manager.getMutableKeyState_spec live sym with ⟨table, tableEq, tableKeyed⟩
  intro key state found
  rw [handleKeyEvent] at found
  simp only [keyboardState_dispatchKey] at found
  rw [HashTable.find_insertOrAssign, tableEq] at found
  split at found
  · rename_i same
    rw [← Option.some.inj found, key_changeKey, key_getMutableKeyState keyed, same]
  · exact tableKeyed keyed key state found

/-- The other handlers dispatch no presses. -/
theorem handleEvent_of_not_key {queued : QueuedEvent}
    (notKey : ∀ isDown sym mod, queued ≠ ⟨.key isDown sym mod, true⟩) :
    ∃ types, .keyDown ∉ types ∧ Tells types manager (manager.handleEvent live queued tick now) := by
  rcases queued with ⟨event, windowOpen⟩
  cases windowOpen with
  | false => exact ⟨[], List.not_mem_nil, tells_of_log rfl⟩
  | true =>
      rw [handleEvent, if_pos rfl]
      cases event with
      | key isDown sym mod => exact absurd rfl (notKey isDown sym mod)
      | mouseButton isDown button =>
          exact ⟨[.buttonPress, .buttonHold, .buttonRelease], by decide,
            tells_handleMouseButtonEvent isDown button⟩
      | mouseMotion rel =>
          exact ⟨[.mouseMoveStart, .mouseDragStart, .mouseMoved, .mouseDrag], by decide,
            tells_handleMouseMoveEvent rel⟩
      | mouseWheel y =>
          exact ⟨[.mouseWheelMoveStart, .mouseWheelMoved], by decide, tells_handleMouseWheelEvent y⟩
      | other => exact ⟨[], List.not_mem_nil, tells_of_log rfl⟩

theorem keyed_handleEvent (keyed : manager.Keyed) (queued : QueuedEvent) :
    (manager.handleEvent live queued tick now).Keyed := by
  rw [handleEvent]
  split
  · split
    · exact keyed_handleKeyEvent keyed _ _ _
    · exact keyed_handleMouseButtonEvent _ _ keyed
    · exact keyed_handleMouseMoveEvent _ keyed
    · exact keyed_handleMouseWheelEvent _ keyed
    · exact keyed
  · exact keyed

end InputManager

namespace InputSystem

variable {initial : Keycode → Bool} {system next : InputSystem} {action : InputAction}

/-- The presses of keys that were up are the presses that were dispatched. -/
def KeyDownsArePresses (initial : Keycode → Bool) (system : InputSystem) : Prop :=
  keyDowns system.manager.log = (keyHistory initial system.manager.log).presses

/-- A press or repetition that is handled now is compared with whether the key was held. -/
def ComparesRight (initial : Keycode → Bool) (system : InputSystem) : InputAction → Prop
  | .poll =>
      system.updating.isSome = true → ∀ sym mod rest,
        system.queue = ⟨.key true sym mod, true⟩ :: rest →
          system.manager.recordedDown system.live sym =
            (keyHistory initial system.manager.log).held sym
  | _ => True

/-- The entries stay about their keys. -/
theorem keyed_step (keyed : system.manager.Keyed) (stepEq : step system action = some next) :
    next.manager.Keyed := by
  cases action with
  | pump queued =>
      rcases stepEq with ⟨rfl⟩
      exact keyed
  | query key =>
      rcases stepEq with ⟨rfl⟩
      rcases system.manager.getMutableKeyState_spec system.live key with ⟨table, tableEq, kept⟩
      simp only [tableEq]
      exact kept keyed
  | beginUpdate tick now =>
      rw [beginUpdate_cases stepEq]
      exact keyed
  | poll =>
      rcases poll_cases stepEq with ⟨tick, now, queued, rest, _, _, managerEq⟩
      have polledKeyed : InputManager.Keyed { system.manager with
          log := system.manager.log ++ [Occurrence.polled queued] } := keyed
      rw [managerEq]
      exact InputManager.keyed_handleEvent polledKeyed queued
  | finishUpdate keyboardFocus mouseFocus =>
      have kept := @InputManager.keyboardState_finishUpdate system.manager keyboardFocus mouseFocus
      rw [finishUpdate_cases stepEq]
      exact InputManager.keyed_of_same kept keyed

/-- As long as no key is handled, neither presses nor what is dispatched for them changes. -/
theorem keyDownsArePresses_of_tells {types : List EventType}
    (tells : InputManager.Tells types system.manager next.manager) (others : .keyDown ∉ types) :
    next.KeyDownsArePresses initial ↔ system.KeyDownsArePresses initial := by
  rw [KeyDownsArePresses, InputManager.keyDowns_of_tells tells others,
    InputManager.keyHistory_of_tells initial tells, KeyDownsArePresses]

/-- Handling an event of a key is right if it is no press or repetition, or if that is compared
with whether the key was held. -/
theorem handleKey_iff (keyed : system.manager.Keyed) (agree : system.KeyDownsArePresses initial)
    {isDown : Bool} {sym : Keycode} {mod : Keymods} {tick : UInt64} {now : Int}
    (managerEq : next.manager = { system.manager with
      log := system.manager.log ++ [Occurrence.polled ⟨.key isDown sym mod, true⟩] }.handleKeyEvent
        system.live isDown sym mod tick now) :
    next.KeyDownsArePresses initial ↔
      (isDown = true → system.manager.recordedDown system.live sym =
        (keyHistory initial system.manager.log).held sym) := by
  have polledKeyed : InputManager.Keyed { system.manager with
      log := system.manager.log ++ [Occurrence.polled ⟨.key isDown sym mod, true⟩] } := keyed
  have recorded : InputManager.recordedDown { system.manager with
      log := system.manager.log ++ [Occurrence.polled ⟨.key isDown sym mod, true⟩] } system.live sym =
        system.manager.recordedDown system.live sym := rfl
  rw [KeyDownsArePresses, managerEq, InputManager.keyDowns_handleKeyEvent polledKeyed, recorded,
    InputManager.keyHistory_of_tells initial (InputManager.tells_handleKeyEvent isDown sym mod),
    keyHistory_append, keyDowns_append, agree]
  simp only [List.foldl_cons, List.foldl_nil, KeyHistory.note, keyDowns, keyDownOf,
    List.filterMap_cons, List.filterMap_nil, List.append_nil, Bool.and_true]
  cases isDown with
  | false => simp
  | true =>
      cases system.manager.recordedDown system.live sym with
      | true => cases (keyHistory initial system.manager.log).held sym <;> simp
      | false => cases (keyHistory initial system.manager.log).held sym <;> simp

/-- The same of the step. -/
theorem handleKey_of_open (keyed : system.manager.Keyed)
    (agree : system.KeyDownsArePresses initial) {isDown : Bool} {sym : Keycode} {mod : Keymods}
    {rest : List QueuedEvent} (queueEq : system.queue = ⟨.key isDown sym mod, true⟩ :: rest)
    (stepEq : step system .poll = some next) :
    next.KeyDownsArePresses initial ↔
      (isDown = true → system.manager.recordedDown system.live sym =
        (keyHistory initial system.manager.log).held sym) := by
  rcases poll_cases stepEq with ⟨tick, now, queued, others, _, otherEq, managerEq⟩
  rw [queueEq] at otherEq
  rw [← (List.cons.inj otherEq).1, InputManager.handleEvent, if_pos rfl] at managerEq
  exact handleKey_iff keyed agree managerEq

/-- Events that are not about keys, or that are dropped, leave presses and events together. -/
theorem agree_of_not_key (agree : system.KeyDownsArePresses initial) {queued : QueuedEvent}
    {rest : List QueuedEvent} (notKey : ∀ isDown sym mod, queued ≠ ⟨.key isDown sym mod, true⟩)
    (queueEq : system.queue = queued :: rest) (stepEq : step system .poll = some next) :
    next.KeyDownsArePresses initial := by
  rcases poll_cases stepEq with ⟨tick, now, other, others, _, otherEq, managerEq⟩
  rw [queueEq] at otherEq
  rw [← (List.cons.inj otherEq).1] at managerEq
  rcases @InputManager.handleEvent_of_not_key { system.manager with
      log := system.manager.log ++ [Occurrence.polled queued] } system.live tick now queued notKey with
    ⟨types, unlisted, tells⟩
  rw [← managerEq] at tells
  rw [KeyDownsArePresses, InputManager.keyDowns_of_tells tells unlisted,
    InputManager.keyHistory_of_tells initial tells, keyHistory_append, keyDowns_append, agree]
  exact (List.append_nil _).trans (presses_note_of_not_key _ notKey).symm

/-- A step keeps presses and events together exactly if it compares right. -/
theorem keyDownsArePresses_step_iff (keyed : system.manager.Keyed)
    (agree : system.KeyDownsArePresses initial) :
    (∀ next, step system action = some next → next.KeyDownsArePresses initial) ↔
      system.ComparesRight initial action := by
  cases action with
  | pump queued =>
      apply iff_of_true _ trivial
      rintro next ⟨rfl⟩
      exact agree
  | query key =>
      apply iff_of_true _ trivial
      rintro next ⟨rfl⟩
      rcases system.manager.getMutableKeyState_spec system.live key with ⟨table, tableEq, _⟩
      rw [KeyDownsArePresses]
      simp only [tableEq]
      exact agree
  | beginUpdate tick now =>
      apply iff_of_true _ trivial
      intro next stepEq
      rw [KeyDownsArePresses, beginUpdate_cases stepEq]
      exact agree
  | finishUpdate keyboardFocus mouseFocus =>
      apply iff_of_true _ trivial
      intro next stepEq
      have tells := @InputManager.tells_finishUpdate system.manager keyboardFocus mouseFocus
      rw [← finishUpdate_cases stepEq] at tells
      exact (keyDownsArePresses_of_tells tells (by decide)).mpr agree
  | poll =>
      cases updatingEq : system.updating with
      | none => simp [step, ComparesRight, updatingEq]
      | some time =>
          cases queueEq : system.queue with
          | nil => simp [step, ComparesRight, updatingEq, queueEq]
          | cons queued rest =>
              have stepEq : step system .poll = some { system with
                  manager := { system.manager with
                    log := system.manager.log ++ [Occurrence.polled queued] }.handleEvent
                      system.live queued time.1 time.2
                  queue := rest } := by
                rw [step, updatingEq, queueEq]
              by_cases isKey : ∃ isDown sym mod, queued = ⟨.key isDown sym mod, true⟩
              · rcases isKey with ⟨isDown, sym, mod, rfl⟩
                have handled := handleKey_of_open keyed agree queueEq stepEq
                have compares : system.ComparesRight initial .poll ↔
                    (isDown = true → system.manager.recordedDown system.live sym =
                      (keyHistory initial system.manager.log).held sym) := by
                  rw [ComparesRight, updatingEq, queueEq]
                  constructor
                  · rintro right rfl
                    exact right rfl sym mod rest rfl
                  · rintro right _ sym mod rest ⟨rfl⟩
                    exact right rfl
                rw [compares, ← handled, stepEq]
                constructor
                · intro reached
                  exact reached _ rfl
                · rintro agrees next ⟨rfl⟩
                  exact agrees
              · have notKey : ∀ isDown sym mod, queued ≠ ⟨.key isDown sym mod, true⟩ :=
                  fun isDown sym mod equal => isKey ⟨isDown, sym, mod, equal⟩
                apply iff_of_true
                · intro next nextEq
                  exact agree_of_not_key agree notKey queueEq nextEq
                · intro _ sym mod others equal
                  rw [queueEq] at equal
                  exact absurd (List.cons.inj equal).1 (notKey true sym mod)

end InputSystem

/-- In every state reached, each press of a key that was up has had one `key_down_event`, and
nothing else has. -/
def OneKeyDownPerPress (initial : Keycode → Bool) (actions : List InputAction) : Prop :=
  ∀ before after middle, actions = before ++ after →
    run InputSystem.step (InputSystem.start initial) before = some middle →
      middle.KeyDownsArePresses initial

/-- There is one event for each press exactly if presses and repetitions are compared with whether
the key was held. -/
theorem oneKeyDownPerPress_iff (initial : Keycode → Bool) (actions : List InputAction) :
    OneKeyDownPerPress initial actions ↔
      Guarded InputSystem.step (InputSystem.ComparesRight initial) (InputSystem.start initial)
        actions := by
  have kept : ∀ system action next, InputManager.Keyed (InputSystem.manager system) →
      InputSystem.step system action = some next → next.manager.Keyed :=
    fun _ _ _ => InputSystem.keyed_step
  have steps : ∀ system action, InputManager.Keyed (InputSystem.manager system) →
      system.KeyDownsArePresses initial →
        ((∀ next, InputSystem.step system action = some next → next.KeyDownsArePresses initial) ↔
          system.ComparesRight initial action) :=
    fun _ _ => InputSystem.keyDownsArePresses_step_iff
  apply reached_iff_guarded kept steps
  · intro key state found
    cases found
  · rfl

/-- The first press of a key that nobody has asked for. -/
def firstPress : List InputAction :=
  [.pump ⟨.key true 119 kmodNone, true⟩, .beginUpdate 0 0, .poll]

/-- It is taken for a repetition. -/
theorem not_oneKeyDownPerPress_firstPress :
    (run InputSystem.step (InputSystem.start fun _ => false) firstPress).map
        (fun system => (keyDowns system.manager.log,
          (keyHistory (fun _ => false) system.manager.log).presses)) = some ([], [119]) ∧
      ¬OneKeyDownPerPress (fun _ => false) firstPress := by
  have ran : (run InputSystem.step (InputSystem.start fun _ => false) firstPress).map
      (fun system => (keyDowns system.manager.log,
        (keyHistory (fun _ => false) system.manager.log).presses)) = some ([], [119]) := by
    decide
  refine ⟨ran, ?_⟩
  intro each
  rcases Option.map_eq_some_iff.mp ran with ⟨system, systemEq, pair⟩
  have agree := each firstPress [] system (List.append_nil _).symm systemEq
  rw [InputSystem.KeyDownsArePresses, (Prod.mk.inj pair).1, (Prod.mk.inj pair).2] at agree
  cases agree

end VoxelEngine.Input
