import Mathlib.Data.List.Induction
import Mathlib.Tactic.IntervalCases
import VoxelEngine.Transition.Run

/-!
# From start to exit

The engine calls the game, its plugins and the handlers of its events at fixed places.  Each of
them may call `engine::exit`, which only takes down a code and a state unless it is told to exit
at once; the main function looks at that state between two rounds of its loop.  Until it starts
its loop, the engine itself overwrites the state.
-/

namespace VoxelEngine.Core

open VoxelEngine.Transition

/-- `engine::state`. -/
inductive EngineState where
  | uninitialized
  | initializing
  | running
  | exiting
  | exited
  deriving DecidableEq

/-- A call of `engine::exit`, with the calls that the handlers of `engine_exit_requested_event`
make while it dispatches that event. -/
inductive ExitCall where
  | exit (code : Int32) (immediate : Bool) (handlers : List ExitCall)

/-- Where code runs that is not the engine's own. -/
inductive Hook where
  | gamePreInit
  | preInitEvent
  | loadPlugins
  | postInitEvent
  | gamePostInit
  | gamePreLoop
  | preLoopEvent
  | beginFrame
  | updateInput
  | mainThreadTasks
  | updateInstances
  | endFrame
  | postLoopEvent
  | gamePostLoop
  | gamePreExit
  | preExitEvent
  | unloadPlugins
  | postExitEvent
  | gamePostExit
  deriving DecidableEq

/-- What the code of a hook does: its calls in order, and whether plugins are loaded after it. -/
structure HookRun where
  calls : List ExitCall
  pluginsLoaded : Bool

/-- The next hook, or the code that the process has ended with. -/
inductive Control where
  | hook (next : Hook)
  | ended (code : Int32)
  deriving DecidableEq

/-- The static members of `engine`, and where it is. -/
structure Engine where
  state : EngineState
  exitCode : Int32
  tickCount : UInt64
  control : Control

namespace Engine

mutual

/-- `engine::exit`.  The flag says that the call does not return. -/
def exit (engine : Engine) : ExitCall → Engine × Bool
  | .exit code immediate handlers =>
      match engine.callAll handlers with
      | (left, true) => (left, true)
      | (left, false) => ({ left with exitCode := code, state := .exiting }, immediate)

/-- The calls of a hook or of a handler, up to the first one that does not return. -/
def callAll (engine : Engine) : List ExitCall → Engine × Bool
  | [] => (engine, false)
  | call :: rest =>
      match engine.exit call with
      | (left, true) => (left, true)
      | (left, false) => left.callAll rest

end

/-- Control goes on to a hook. -/
def goTo (engine : Engine) (next : Hook) : Engine :=
  { engine with control := .hook next }

/-- The loop of `engine::main`.  In any other state it throws, which fails an assertion. -/
def main (engine : Engine) : Engine :=
  match engine.state with
  | .uninitialized => engine.goTo .gamePreInit
  | .running => engine.goTo .gamePreLoop
  | .exiting => engine.goTo .gamePreExit
  | .initializing | .exited => { engine with control := .ended (-1) }

/-- What `engine::init`, `engine::loop` and `engine::immediate_exit` do after a hook. -/
def proceed (engine : Engine) (pluginsLoaded : Bool) : Hook → Engine
  | .gamePreInit => engine.goTo .preInitEvent
  | .preInitEvent => { engine with state := .initializing }.goTo .loadPlugins
  | .loadPlugins => { engine with state := .running }.goTo .postInitEvent
  | .postInitEvent => engine.goTo .gamePostInit
  | .gamePostInit => engine.main
  | .gamePreLoop => engine.goTo .preLoopEvent
  | .preLoopEvent => engine.goTo .beginFrame
  | .beginFrame => engine.goTo .updateInput
  | .updateInput => engine.goTo .mainThreadTasks
  | .mainThreadTasks => engine.goTo .updateInstances
  | .updateInstances => engine.goTo .endFrame
  | .endFrame => engine.goTo .postLoopEvent
  | .postLoopEvent => engine.goTo .gamePostLoop
  | .gamePostLoop => { engine with tickCount := engine.tickCount + 1 }.main
  | .gamePreExit => engine.goTo .preExitEvent
  | .preExitEvent => engine.goTo .unloadPlugins
  | .unloadPlugins =>
      -- the assertion that no plugin remains
      if pluginsLoaded then { engine with control := .ended (-1) }
      else { engine with state := .exited }.goTo .postExitEvent
  | .postExitEvent => engine.goTo .gamePostExit
  | .gamePostExit => { engine with control := .ended engine.exitCode }

/-- The transition relation.  A call that does not return is in `engine::immediate_exit`. -/
def step : Step Engine HookRun
  | engine, hookRun =>
      match engine.control with
      | .ended _ => none
      | .hook hook =>
          match engine.callAll hookRun.calls with
          | (left, true) => some (left.goTo .gamePreExit)
          | (left, false) => some (left.proceed hookRun.pluginsLoaded hook)

/-- The state before `engine::main`, which initializes the engine first. -/
def start : Engine :=
  ⟨.uninitialized, -1, 0, .hook .gamePreInit⟩

end Engine

/-! ### What calls come to -/

mutual

/-- The codes that a call sets in the end, and whether it does not return. -/
def ExitCall.outcome : ExitCall → List Int32 × Bool
  | .exit code immediate handlers =>
      match outcomes handlers with
      | (codes, true) => (codes, true)
      | (codes, false) => (codes ++ [code], immediate)

/-- The same for calls after each other. -/
def outcomes : List ExitCall → List Int32 × Bool
  | [] => ([], false)
  | call :: rest =>
      match call.outcome with
      | (codes, true) => (codes, true)
      | (codes, false) =>
          match outcomes rest with
          | (more, stops) => (codes ++ more, stops)

end

namespace HookRun

variable (hookRun : HookRun)

/-- The codes that are set, in order. -/
def codes : List Int32 :=
  (outcomes hookRun.calls).1

/-- The code calls `engine::exit`. -/
def Requests : Prop :=
  hookRun.calls ≠ []

/-- No call has exited immediately. -/
def Returns : Prop :=
  (outcomes hookRun.calls).2 = false

instance : Decidable hookRun.Returns :=
  inferInstanceAs (Decidable ((outcomes hookRun.calls).2 = false))

end HookRun

mutual

/-- Every call sets a code, its own or that of a call that exits immediately within it. -/
theorem ExitCall.codes_ne_nil : (call : ExitCall) → call.outcome.1 ≠ []
  | .exit code immediate handlers => by
      have handlersSet := codes_ne_nil_of_stops handlers
      rw [ExitCall.outcome]
      rcases outcomesEq : outcomes handlers with ⟨codes, stops⟩
      rw [outcomesEq] at handlersSet
      cases stops with
      | true => exact handlersSet rfl
      | false => exact List.append_ne_nil_of_right_ne_nil _ (List.cons_ne_nil _ _)

/-- Calls that do not all return have set a code. -/
theorem codes_ne_nil_of_stops : (calls : List ExitCall) → (outcomes calls).2 = true →
    (outcomes calls).1 ≠ []
  | [] => nofun
  | call :: rest => by
      intro _
      have callSet := ExitCall.codes_ne_nil call
      rw [outcomes]
      rcases outcomeEq : call.outcome with ⟨codes, stops⟩
      rw [outcomeEq] at callSet
      cases stops with
      | true => exact callSet
      | false => exact List.append_ne_nil_of_left_ne_nil callSet _

end

namespace HookRun

/-- No code is set exactly if there is no call. -/
@[simp]
theorem codes_eq_nil_iff (hookRun : HookRun) : hookRun.codes = [] ↔ ¬ hookRun.Requests := by
  rw [codes, Requests, not_not]
  constructor
  · intro noCodes
    cases callsEq : hookRun.calls with
    | nil => rfl
    | cons call rest =>
        have callSet := call.codes_ne_nil
        rw [callsEq, outcomes] at noCodes
        rcases outcomeEq : call.outcome with ⟨codes, stops⟩
        rw [outcomeEq] at callSet noCodes
        cases stops with
        | true => exact absurd noCodes callSet
        | false => exact absurd (List.append_eq_nil_iff.mp noCodes).1 callSet
  · intro noCalls
    rw [noCalls, outcomes]

/-- A hook that does not return has made a call. -/
theorem requests_of_not_returns {hookRun : HookRun} (stops : ¬ hookRun.Returns) :
    hookRun.Requests := by
  intro noCalls
  apply stops
  rw [Returns, noCalls, outcomes]

end HookRun

/-- No hook of the list calls `engine::exit` exactly if none of them sets a code. -/
@[simp]
theorem flatMap_codes_eq_nil_iff (hookRuns : List HookRun) :
    hookRuns.flatMap HookRun.codes = [] ↔ ∀ hookRun ∈ hookRuns, ¬ hookRun.Requests := by
  rw [List.flatMap_eq_nil_iff]
  simp only [HookRun.codes_eq_nil_iff]

namespace Engine

/-- The engine after codes have been set. -/
def withCodes (engine : Engine) (codes : List Int32) : Engine :=
  match codes.getLast? with
  | none => engine
  | some code => { engine with exitCode := code, state := .exiting }

@[simp]
theorem withCodes_nil (engine : Engine) : engine.withCodes [] = engine :=
  rfl

@[simp]
theorem withCodes_concat (engine : Engine) (codes : List Int32) (code : Int32) :
    engine.withCodes (codes ++ [code]) = { engine with exitCode := code, state := .exiting } := by
  rw [withCodes, List.getLast?_concat]

theorem withCodes_append (engine : Engine) (codes more : List Int32) :
    (engine.withCodes codes).withCodes more = engine.withCodes (codes ++ more) := by
  induction more using List.reverseRecOn with
  | nil => rw [List.append_nil, withCodes_nil]
  | append_singleton more code _ =>
      rw [← List.append_assoc, withCodes_concat, withCodes_concat, withCodes]
      split <;> rfl

@[simp]
theorem control_withCodes (engine : Engine) (codes : List Int32) :
    (engine.withCodes codes).control = engine.control := by
  rw [withCodes]
  split <;> rfl

@[simp]
theorem tickCount_withCodes (engine : Engine) (codes : List Int32) :
    (engine.withCodes codes).tickCount = engine.tickCount := by
  rw [withCodes]
  split <;> rfl

theorem state_withCodes (engine : Engine) (codes : List Int32) :
    (engine.withCodes codes).state = if codes = [] then engine.state else .exiting := by
  induction codes using List.reverseRecOn with
  | nil => rfl
  | append_singleton codes code _ =>
      rw [withCodes_concat, if_neg (List.append_ne_nil_of_right_ne_nil _ (List.cons_ne_nil _ _))]

@[simp]
theorem exitCode_withCodes (engine : Engine) (codes : List Int32) :
    (engine.withCodes codes).exitCode = codes.getLast?.getD engine.exitCode := by
  rw [withCodes]
  split
  · rename_i none_eq
    rw [none_eq, Option.getD_none]
  · rename_i some_eq
    rw [some_eq, Option.getD_some]

mutual

/-- A call sets the last of its codes. -/
theorem exit_eq (engine : Engine) : (call : ExitCall) →
    engine.exit call = (engine.withCodes call.outcome.1, call.outcome.2)
  | .exit code immediate handlers => by
      rw [exit, callAll_eq engine handlers, ExitCall.outcome]
      rcases outcomes handlers with ⟨codes, stops⟩
      cases stops with
      | true => rfl
      | false =>
          rw [← withCodes_append]
          rfl

/-- Calls after each other set the last of all of their codes. -/
theorem callAll_eq (engine : Engine) : (calls : List ExitCall) →
    engine.callAll calls = (engine.withCodes (outcomes calls).1, (outcomes calls).2)
  | [] => rfl
  | call :: rest => by
      rw [callAll, exit_eq engine call, outcomes]
      rcases call.outcome with ⟨codes, stops⟩
      cases stops with
      | true => rfl
      | false =>
          have restEq := callAll_eq (engine.withCodes codes) rest
          simp only [restEq]
          rcases outcomes rest with ⟨more, stops⟩
          cases stops <;> rw [withCodes_append]

end

/-- One step: the code of the next hook runs, and the engine goes on from there. -/
theorem step_cases {engine next : Engine} {hookRun : HookRun}
    (stepEq : step engine hookRun = some next) :
    ∃ hook, engine.control = .hook hook ∧
      ((¬ hookRun.Returns ∧ next = (engine.withCodes hookRun.codes).goTo .gamePreExit) ∨
        (hookRun.Returns ∧
          next = (engine.withCodes hookRun.codes).proceed hookRun.pluginsLoaded hook)) := by
  rw [step] at stepEq
  split at stepEq
  · cases stepEq
  · rename_i hook controlEq
    refine ⟨hook, controlEq, ?_⟩
    rw [callAll_eq] at stepEq
    rw [HookRun.Returns, HookRun.codes]
    rcases outcomesEq : outcomes hookRun.calls with ⟨codes, stops⟩
    rw [outcomesEq] at stepEq
    cases stops with
    | true =>
        left
        exact ⟨Bool.noConfusion, (Option.some.inj stepEq).symm⟩
    | false =>
        right
        exact ⟨rfl, (Option.some.inj stepEq).symm⟩

end Engine

/-! ### The schedule -/

/-- The hooks of `engine::loop`. -/
def roundHook : Nat → Hook
  | 0 => .gamePreLoop
  | 1 => .preLoopEvent
  | 2 => .beginFrame
  | 3 => .updateInput
  | 4 => .mainThreadTasks
  | 5 => .updateInstances
  | 6 => .endFrame
  | 7 => .postLoopEvent
  | _ => .gamePostLoop

/-- The hook with a number, as long as the engine does not exit. -/
def hookAt : Nat → Hook
  | 0 => .gamePreInit
  | 1 => .preInitEvent
  | 2 => .loadPlugins
  | 3 => .postInitEvent
  | 4 => .gamePostInit
  | index + 5 => roundHook (index % 9)

/-- Where the engine is when hooks have run since it has begun to exit. -/
def shutdownControl (code : Int32) : List HookRun → Control
  | [] => .hook .gamePreExit
  | [_] => .hook .preExitEvent
  | [_, _] => .hook .unloadPlugins
  | [_, _, unload] => if unload.pluginsLoaded then .ended (-1) else .hook .postExitEvent
  | [_, _, _, _] => .hook .gamePostExit
  | _ => .ended code

/-- Nothing has asked the engine to exit so that it would.  A call counts at the next round of the
loop, and not if it is made before the plugins are loaded. -/
def GoesOn (hookRuns : List HookRun) : Prop :=
  (∀ hookRun ∈ hookRuns, hookRun.Returns) ∧
    ∀ rounds, 5 + 9 * rounds ≤ hookRuns.length →
      ∀ hookRun ∈ (hookRuns.take (5 + 9 * rounds)).drop 3, ¬ hookRun.Requests

namespace Engine

/-- Between two hooks of a round nothing happens. -/
theorem proceed_within (engine : Engine) (pluginsLoaded : Bool) {index : Nat}
    (within : index % 9 ≠ 8) :
    engine.proceed pluginsLoaded (hookAt (index + 5)) = engine.goTo (hookAt (index + 6)) := by
  have small : index % 9 < 9 := Nat.mod_lt _ (by decide)
  have nextPlace : (index + 1) % 9 = index % 9 + 1 := by omega
  have nextHook : hookAt (index + 6) = roundHook (index % 9 + 1) := congrArg roundHook nextPlace
  rw [nextHook, hookAt]
  generalize index % 9 = place at within small
  interval_cases place
  all_goals first | rfl | contradiction

/-- After the last hook of a round the main function looks at the state. -/
theorem proceed_last (engine : Engine) (pluginsLoaded : Bool) {index : Nat}
    (last : index % 9 = 8) :
    engine.proceed pluginsLoaded (hookAt (index + 5)) =
      { engine with tickCount := engine.tickCount + 1 }.main := by
  rw [hookAt, last]
  rfl

end Engine

/-- The codes that were set after the plugins had been loaded. -/
def lateCodes (hookRuns : List HookRun) : List Int32 :=
  (hookRuns.drop 3).flatMap HookRun.codes

theorem lateCodes_concat {before : List HookRun} (late : 3 ≤ before.length) (last : HookRun) :
    lateCodes (before ++ [last]) = lateCodes before ++ last.codes := by
  rw [lateCodes, List.drop_append_of_le_length late, List.flatMap_append, List.flatMap_singleton]
  rfl

/-- What one more hook does to a schedule that has not been left. -/
theorem goesOn_concat_iff {before : List HookRun} {last : HookRun} :
    GoesOn (before ++ [last]) ↔
      GoesOn before ∧ last.Returns ∧
        ∀ rounds, before.length + 1 = 5 + 9 * rounds → lateCodes (before ++ [last]) = [] := by
  have total : (before ++ [last]).length = before.length + 1 := by
    rw [List.length_append, List.length_singleton]
  constructor
  · rintro ⟨returns, quiet⟩
    refine ⟨⟨?_, ?_⟩, ?_, ?_⟩
    · intro hookRun mem
      exact returns hookRun (List.mem_append_left _ mem)
    · intro rounds done
      have := quiet rounds (by omega)
      rwa [List.take_append_of_le_length done] at this
    · exact returns last (List.mem_append_right _ List.mem_cons_self)
    · intro rounds done
      have := quiet rounds (by omega)
      rw [← done, ← total, List.take_length] at this
      exact (flatMap_codes_eq_nil_iff _).mpr this
  · rintro ⟨⟨returns, quiet⟩, lastReturns, here⟩
    constructor
    · intro hookRun mem
      rcases List.mem_append.mp mem with old | new
      · exact returns hookRun old
      · rw [List.mem_singleton.mp new]
        exact lastReturns
    · intro rounds done
      rw [total] at done
      rcases Nat.lt_or_eq_of_le done with earlier | now
      · rw [List.take_append_of_le_length (Nat.le_of_lt_succ earlier)]
        exact quiet rounds (Nat.le_of_lt_succ earlier)
      · rw [now, ← total, List.take_length]
        exact (flatMap_codes_eq_nil_iff _).mp (here rounds now.symm)

namespace Engine

/-- The engine is where the schedule says. -/
structure InService (engine : Engine) (hookRuns : List HookRun) : Prop where
  control : engine.control = .hook (hookAt hookRuns.length)
  state : 3 ≤ hookRuns.length →
    engine.state = if lateCodes hookRuns = [] then .running else .exiting
  tickCount : engine.tickCount = UInt64.ofNat ((hookRuns.length - 5) / 9)

theorem inService_start : start.InService [] where
  control := rfl
  state := fun late => absurd late (by decide)
  tickCount := rfl

variable {engine : Engine} {before : List HookRun} {last : HookRun}

/-- The state after the codes of the next hook have been set. -/
theorem InService.state_withCodes (service : engine.InService before)
    (late : 3 ≤ before.length) :
    (engine.withCodes last.codes).state =
      if lateCodes (before ++ [last]) = [] then .running else .exiting := by
  rw [Engine.state_withCodes, service.state late, lateCodes_concat late]
  by_cases quiet : last.codes = []
  · rw [if_pos quiet, quiet, List.append_nil]
  · rw [if_neg quiet, if_neg fun all => quiet (List.append_eq_nil_iff.mp all).2]

/-- The main function goes on with the loop exactly if nothing has asked to exit. -/
theorem main_of_state {hookRuns : List HookRun}
    (state : engine.state = if lateCodes hookRuns = [] then .running else .exiting) :
    engine.main =
      engine.goTo (if lateCodes hookRuns = [] then .gamePreLoop else .gamePreExit) := by
  by_cases quiet : lateCodes hookRuns = []
  · rw [if_pos quiet] at state ⊢
    rw [main, state]
  · rw [if_neg quiet] at state ⊢
    rw [main, state]

/-- A hook that is not the last one of a round or of the initialization. -/
theorem InService.within (service : engine.InService before)
    (notLast : ∀ rounds, before.length + 1 ≠ 5 + 9 * rounds) :
    ((engine.withCodes last.codes).proceed last.pluginsLoaded (hookAt before.length)).InService
      (before ++ [last]) := by
  have total : (before ++ [last]).length = before.length + 1 := by
    rw [List.length_append, List.length_singleton]
  have ticks : (engine.withCodes last.codes).tickCount =
      UInt64.ofNat ((before.length - 5) / 9) := by
    rw [tickCount_withCodes, service.tickCount]
  have late := @InService.state_withCodes _ _ last service
  rcases Nat.lt_or_ge before.length 5 with initializing | looping
  · have notFour := notLast 0
    have none_late : before.length < 3 → lateCodes (before ++ [last]) = [] := by
      intro early
      rw [lateCodes, List.drop_of_length_le (by omega), List.flatMap_nil]
    constructor
    · rw [total]
      generalize before.length = count at initializing notFour
      interval_cases count
      all_goals first | rfl | contradiction
    · rw [total]
      intro _
      generalize before.length = count at *
      interval_cases count
      · contradiction
      · contradiction
      · rw [if_pos (none_late (by decide))]
        rfl
      · exact late (by decide)
      · contradiction
    · rw [total]
      generalize before.length = count at *
      interval_cases count
      all_goals first | exact ticks | contradiction
  · rcases Nat.exists_eq_add_of_le' looping with ⟨index, lengthEq⟩
    have place : index % 9 ≠ 8 := by
      intro place
      apply notLast (index / 9 + 1)
      omega
    have sameRound : (index + 1) / 9 = index / 9 := by omega
    rw [lengthEq, proceed_within _ _ place]
    constructor
    · rw [total, lengthEq]
      rfl
    · intro _
      exact late (by omega)
    · rw [total, lengthEq, show index + 5 + 1 - 5 = index + 1 by omega, sameRound]
      rwa [lengthEq, Nat.add_sub_cancel] at ticks

/-- The engine with another number of ticks. -/
def withTicks (engine : Engine) (ticks : UInt64) : Engine :=
  { engine with tickCount := ticks }

/-- After the last hook of a round or of the initialization the main function looks at the state,
and the number of rounds is right. -/
theorem InService.toMain (service : engine.InService before) {rounds : Nat}
    (isLast : before.length + 1 = 5 + 9 * rounds) :
    (engine.withCodes last.codes).proceed last.pluginsLoaded (hookAt before.length) =
      ((engine.withCodes last.codes).withTicks (UInt64.ofNat rounds)).main := by
  have ticks := service.tickCount
  rw [← tickCount_withCodes engine last.codes] at ticks
  cases rounds with
  | zero =>
      have four : before.length = 4 := by omega
      rw [four] at ticks ⊢
      have same : (engine.withCodes last.codes).withTicks (UInt64.ofNat 0) =
          engine.withCodes last.codes := by
        rw [show UInt64.ofNat 0 = UInt64.ofNat ((4 - 5) / 9) from rfl, ← ticks, withTicks]
      rw [same]
      rfl
  | succ rounds =>
      have lengthEq : before.length = 9 * rounds + 8 + 5 := by omega
      rw [lengthEq] at ticks ⊢
      rw [proceed_last _ _ (by omega), ticks, UInt64.ofNat_add,
        show (9 * rounds + 8 + 5 - 5) / 9 = rounds by omega]
      rfl

/-- The loop goes on from there exactly if no exit was requested. -/
theorem InService.next (service : engine.InService before) {rounds : Nat}
    (isLast : before.length + 1 = 5 + 9 * rounds) :
    (lateCodes (before ++ [last]) = [] →
        ((engine.withCodes last.codes).proceed last.pluginsLoaded
          (hookAt before.length)).InService (before ++ [last])) ∧
      (lateCodes (before ++ [last]) ≠ [] →
        ((engine.withCodes last.codes).proceed last.pluginsLoaded
          (hookAt before.length)).control = .hook .gamePreExit) := by
  have total : (before ++ [last]).length = 5 + 9 * rounds := by
    rw [List.length_append, List.length_singleton, isLast]
  have state := @InService.state_withCodes _ _ last service (by omega)
  rw [service.toMain isLast,
    @main_of_state ((engine.withCodes last.codes).withTicks (UInt64.ofNat rounds)) _ state]
  constructor
  · intro quiet
    rw [if_pos quiet]
    constructor
    · rw [total, Nat.add_comm, hookAt, Nat.mul_mod_right]
      rfl
    · intro _
      exact state
    · rw [total, Nat.add_sub_cancel_left, Nat.mul_div_cancel_left _ (by decide)]
      rfl
  · intro requested
    rw [if_neg requested]
    rfl

/-- The engine has begun to exit, because of a code that was set, and runs the hooks of
`engine::immediate_exit`. -/
structure ShuttingDown (engine : Engine) (hookRuns : List HookRun) (code : Int32) : Prop where
  requested : (hookRuns.flatMap HookRun.codes).getLast? = some code
  progress : ∃ before shutdown middle, hookRuns = before ++ shutdown ∧
    run step start before = some middle ∧ middle.control = .hook .gamePreExit ∧
    (∀ hookRun ∈ shutdown, hookRun.Returns) ∧ engine.control = shutdownControl code shutdown

@[simp]
theorem exitCode_main (engine : Engine) : engine.main.exitCode = engine.exitCode := by
  rw [main]
  split <;> rfl

/-- Going on from a hook keeps the code. -/
@[simp]
theorem exitCode_proceed (engine : Engine) (pluginsLoaded : Bool) (hook : Hook) :
    (engine.proceed pluginsLoaded hook).exitCode = engine.exitCode := by
  cases hook with
  | gamePostInit => exact engine.exitCode_main
  | gamePostLoop => exact exitCode_main _
  | unloadPlugins =>
      rw [proceed]
      split <;> rfl
  | _ => rfl

/-- One step sets the last code of the hook. -/
theorem exitCode_step {next : Engine} (stepEq : step engine last = some next) :
    next.exitCode = last.codes.getLast?.getD engine.exitCode := by
  rw [← exitCode_withCodes]
  rcases step_cases stepEq with ⟨hook, -, ⟨-, rfl⟩ | ⟨-, rfl⟩⟩
  · rfl
  · exact exitCode_proceed _ _ _

/-- The code is always the last one that was set. -/
theorem exitCode_of_run {hookRuns : List HookRun} (runEq : run step start hookRuns = some engine) :
    engine.exitCode = (hookRuns.flatMap HookRun.codes).getLast?.getD (-1) := by
  induction hookRuns using List.reverseRecOn generalizing engine with
  | nil => rw [← Option.some.inj runEq]; rfl
  | append_singleton before last ih =>
      rcases (run_append_eq_some_iff _ _ _ _ _).mp runEq with ⟨middle, beforeRun, lastRun⟩
      rcases (run_cons_eq_some_iff _ _ _ _ _).mp lastRun with ⟨next, stepEq, ⟨rfl⟩⟩
      rw [exitCode_step stepEq, ih beforeRun, List.flatMap_append, List.flatMap_singleton,
        List.getLast?_append]
      cases last.codes.getLast? <;> rfl

/-- The last code after one more hook, when there was one before. -/
theorem getLast?_codes_concat {code : Int32}
    (requested : (before.flatMap HookRun.codes).getLast? = some code) :
    ((before ++ [last]).flatMap HookRun.codes).getLast? =
      some (last.codes.getLast?.getD code) := by
  rw [List.flatMap_append, List.flatMap_singleton, List.getLast?_append, requested]
  cases last.codes.getLast? <;> rfl

/-- Once the engine exits, its hooks run in their order, and an immediate exit begins again. -/
theorem ShuttingDown.step {next : Engine} {code : Int32}
    (shuttingDown : engine.ShuttingDown before code)
    (runEq : run Engine.step start before = some engine)
    (stepEq : Engine.step engine last = some next) :
    next.ShuttingDown (before ++ [last]) (last.codes.getLast?.getD code) := by
  rcases shuttingDown with ⟨requested, earlier, shutdown, middle, rfl, earlierRun, begins, returns,
    controlEq⟩
  have nextRun : run Engine.step start (earlier ++ shutdown ++ [last]) = some next := by
    rw [run_append_of_run runEq]
    exact (run_cons_eq_some_iff _ _ _ _ _).mpr ⟨next, stepEq, rfl⟩
  have nextRequested := @getLast?_codes_concat _ last _ requested
  have codeEq := exitCode_of_run nextRun
  rw [nextRequested, Option.getD_some] at codeEq
  refine ⟨nextRequested, ?_⟩
  rcases step_cases stepEq with ⟨hook, atHook, ⟨stops, rfl⟩ | ⟨lastReturns, rfl⟩⟩
  · exact ⟨_, [], _, (List.append_nil _).symm, nextRun, rfl, nofun, rfl⟩
  · refine ⟨earlier, shutdown ++ [last], middle, List.append_assoc _ _ _, earlierRun, begins, ?_,
      ?_⟩
    · intro hookRun mem
      rcases List.mem_append.mp mem with old | new
      · exact returns hookRun old
      · rw [List.mem_singleton.mp new]
        exact lastReturns
    · rw [controlEq] at atHook
      rw [exitCode_proceed] at codeEq
      match shutdown with
      | [] => cases atHook; rfl
      | [_] => cases atHook; rfl
      | [_, _] =>
          cases atHook
          rw [proceed]
          split <;> rename_i loaded
          · exact (if_pos loaded).symm
          · exact (if_neg loaded).symm
      | [_, _, unload] =>
          rw [shutdownControl] at atHook
          split at atHook
          · cases atHook
          · cases atHook
            rfl
      | [_, _, _, _] =>
          cases atHook
          rw [proceed, codeEq]
          rfl
      | _ :: _ :: _ :: _ :: _ :: _ => cases atHook

/-- The first hook that asks the engine to exit, at once or by the next round. -/
theorem InService.leaves (service : engine.InService before)
    (runEq : run Engine.step start before = some engine) {next : Engine}
    (stepEq : Engine.step engine last = some next)
    (leaves : last.Returns → ∃ rounds, before.length + 1 = 5 + 9 * rounds ∧
      lateCodes (before ++ [last]) ≠ []) :
    ∃ code, next.ShuttingDown (before ++ [last]) code := by
  have nextRun : run Engine.step start (before ++ [last]) = some next := by
    rw [run_append_of_run runEq]
    exact (run_cons_eq_some_iff _ _ _ _ _).mpr ⟨next, stepEq, rfl⟩
  have begun : (before ++ [last]).flatMap HookRun.codes ≠ [] →
      next.control = .hook .gamePreExit →
      ∃ code, next.ShuttingDown (before ++ [last]) code := by
    intro set begins
    refine ⟨_, List.getLast?_eq_some_getLast set, ?_⟩
    exact ⟨_, [], next, (List.append_nil _).symm, nextRun, begins, nofun, begins⟩
  rcases step_cases stepEq with ⟨hook, atHook, ⟨stops, rfl⟩ | ⟨returns, rfl⟩⟩
  · apply begun _ rfl
    rw [List.flatMap_append, List.flatMap_singleton]
    apply List.append_ne_nil_of_right_ne_nil
    rw [Ne, HookRun.codes_eq_nil_iff, not_not]
    exact HookRun.requests_of_not_returns stops
  · rcases leaves returns with ⟨rounds, isLast, requested⟩
    rw [service.control] at atHook
    rcases atHook with ⟨rfl⟩
    apply begun _ ((service.next isLast).2 requested)
    intro noneSet
    apply requested
    rw [flatMap_codes_eq_nil_iff] at noneSet
    rw [lateCodes, flatMap_codes_eq_nil_iff]
    exact fun hookRun mem => noneSet hookRun (List.mem_of_mem_drop mem)

/-- Any number of hooks: the engine is in service exactly as long as the schedule goes on. -/
theorem inService_or_shuttingDown {hookRuns : List HookRun}
    (runEq : run step start hookRuns = some engine) :
    (GoesOn hookRuns → engine.InService hookRuns) ∧
      (¬ GoesOn hookRuns → ∃ code, engine.ShuttingDown hookRuns code) := by
  induction hookRuns using List.reverseRecOn generalizing engine with
  | nil =>
      rw [← Option.some.inj runEq]
      refine ⟨fun _ => inService_start, ?_⟩
      intro leaves
      apply absurd _ leaves
      exact ⟨nofun, fun rounds done => absurd done (Nat.not_le_of_lt (by simp))⟩
  | append_singleton before last ih =>
      rcases (run_append_eq_some_iff _ _ _ _ _).mp runEq with ⟨middle, beforeRun, lastRun⟩
      rcases (run_cons_eq_some_iff _ _ _ _ _).mp lastRun with ⟨next, stepEq, ⟨rfl⟩⟩
      rcases ih beforeRun with ⟨serves, shutsDown⟩
      rw [goesOn_concat_iff]
      constructor
      · rintro ⟨goesOn, returns, quiet⟩
        have service := serves goesOn
        rcases step_cases stepEq with ⟨hook, atHook, ⟨stops, -⟩ | ⟨-, rfl⟩⟩
        · exact absurd returns stops
        · rw [service.control] at atHook
          rcases atHook with ⟨rfl⟩
          by_cases isLast : ∃ rounds, before.length + 1 = 5 + 9 * rounds
          · rcases isLast with ⟨rounds, isLast⟩
            exact (service.next isLast).1 (quiet rounds isLast)
          · exact service.within (not_exists.mp isLast)
      · intro leaves
        by_cases goesOn : GoesOn before
        · apply (serves goesOn).leaves beforeRun stepEq
          intro returns
          by_contra stays
          apply leaves
          refine ⟨goesOn, returns, ?_⟩
          intro rounds isLast
          by_contra requested
          exact stays ⟨rounds, isLast, requested⟩
        · rcases shutsDown goesOn with ⟨code, shuttingDown⟩
          exact ⟨_, shuttingDown.step beforeRun stepEq⟩

/-- The engine from its start to its end, whatever the code of the game and of plugins does: a
call of `engine::exit` that returns takes effect at the next round of the loop, and is lost before
the plugins have been loaded; then the hooks of the exit run in order, unless one of them exits
immediately, which begins with them again, and the process ends with the code that was set last. -/
theorem runs_until_asked {hookRuns : List HookRun} (runEq : run step start hookRuns = some engine) :
    (GoesOn hookRuns →
      engine.control = .hook (hookAt hookRuns.length) ∧
        engine.tickCount = UInt64.ofNat ((hookRuns.length - 5) / 9)) ∧
      (¬ GoesOn hookRuns →
        ∃ code, (hookRuns.flatMap HookRun.codes).getLast? = some code ∧
          ∃ before shutdown middle, hookRuns = before ++ shutdown ∧
            run step start before = some middle ∧ middle.control = .hook .gamePreExit ∧
            (∀ hookRun ∈ shutdown, hookRun.Returns) ∧
            engine.control = shutdownControl code shutdown) := by
  rcases inService_or_shuttingDown runEq with ⟨serves, shutsDown⟩
  constructor
  · intro goesOn
    exact ⟨(serves goesOn).control, (serves goesOn).tickCount⟩
  · intro leaves
    rcases shutsDown leaves with ⟨code, requested, progress⟩
    exact ⟨code, requested, progress⟩

/-- A request before the plugins are loaded, one in the first round, with another one among its
handlers, and an immediate exit while the engine exits already. -/
def exitTwice : List HookRun :=
  ⟨[.exit 3 false []], false⟩ :: List.replicate 12 ⟨[], false⟩ ++
    [⟨[.exit 5 false [.exit 4 false []]], false⟩, ⟨[.exit 7 true []], false⟩] ++
    List.replicate 5 ⟨[], false⟩

theorem runs_until_asked_exitTwice :
    ∃ code, (exitTwice.flatMap HookRun.codes).getLast? = some code ∧
      ∃ before shutdown middle, exitTwice = before ++ shutdown ∧
        run step start before = some middle ∧ middle.control = .hook .gamePreExit ∧
        (∀ hookRun ∈ shutdown, hookRun.Returns) ∧
        Control.ended 7 = shutdownControl code shutdown := by
  have runEq : run step start exitTwice = some ⟨.exited, 7, 1, .ended 7⟩ := rfl
  apply (runs_until_asked runEq).2
  intro goesOn
  have returns := goesOn.1 ⟨[.exit 7 true []], false⟩ (by simp [exitTwice])
  cases returns

end Engine

end VoxelEngine.Core
