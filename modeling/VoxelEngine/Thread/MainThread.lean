import Mathlib.Data.List.Nodup
import VoxelEngine.Thread.IoContext
import VoxelEngine.Transition.Run

/-!
# Tasks for the main thread

Any thread posts tasks to a context of the thread pool, and in every tick of the engine the main
thread runs this context.  It is never restarted: after it has run out of work once, a call only
returns, and finds all tasks that were posted before it still waiting.
-/

namespace VoxelEngine.Thread

open VoxelEngine.Transition

/-- A call of `execute_main_thread_tasks`: how many tasks were posted before, and the context as
the call found it. -/
structure MainThreadCall where
  posted : Nat
  found : IoContext Nat

/-- The part of `thread_pool` for the main thread.  Tasks are numbered as they are posted. -/
structure MainThread where
  context : IoContext Nat
  posted : Nat
  executed : List Nat
  calling : Option MainThreadCall

/-- What threads do: post a task, also from within a task, and the parts of a call. -/
inductive MainThreadAction where
  | invokeOnMain
  | executeMainThreadTasks
  | startTask (task : Nat)
  | finishTask
  | callReturns

namespace MainThread

/-- No task was posted. -/
def start : MainThread :=
  ⟨IoContext.create, 0, [], none⟩

/-- The transition relation. -/
def step : Step MainThread MainThreadAction
  | thread, .invokeOnMain =>
      some { thread with
        context := thread.context.post thread.posted
        posted := thread.posted + 1 }
  | thread, .executeMainThreadTasks =>
      match thread.calling with
      | none =>
          some { thread with
            context := thread.context.beginRun
            calling := some ⟨thread.posted, thread.context⟩ }
      | some _ => none
  | thread, .startTask task =>
      match thread.calling with
      | some _ =>
          (thread.context.startTask task).map fun context => { thread with context := context }
      | none => none
  | thread, .finishTask =>
      thread.context.finishTask.map fun finished =>
        { thread with context := finished.2, executed := thread.executed ++ [finished.1] }
  | thread, .callReturns =>
      match thread.calling with
      | some _ => if thread.context.canReturn then some { thread with calling := none } else none
      | none => none

/-- When the call returns, every task that was posted before it has been executed once. -/
def ExecutesAll (thread : MainThread) : MainThreadAction → Prop
  | .callReturns =>
      ∀ call, thread.calling = some call → thread.context.canReturn = true →
        ∀ task, task < call.posted → thread.executed.count task = 1
  | _ => True

/-- The call that returns did not find tasks waiting in a context that had been stopped. -/
def FoundRunnable (thread : MainThread) : MainThreadAction → Prop
  | .callReturns =>
      ∀ call, thread.calling = some call → thread.context.canReturn = true →
        call.found.stopped = true → call.found.waiting = []
  | _ => True

/-- What holds at all times. -/
structure Sound (thread : MainThread) : Prop where
  placed : (thread.executed ++ thread.context.pending).Perm (List.range thread.posted)
  idle : thread.calling = none → thread.context.running = none
  before : ∀ call, thread.calling = some call → call.posted ≤ thread.posted
  foundBefore : ∀ call, thread.calling = some call → ∀ task ∈ call.found.waiting,
    task < call.posted
  stuck : ∀ call, thread.calling = some call → call.found.stopped = true →
    thread.context.stopped = true ∧ thread.context.running = none ∧
      ∀ task, task < call.posted → (task ∈ thread.context.waiting ↔ task ∈ call.found.waiting)
  drained : ∀ call, thread.calling = some call → call.found.stopped = false →
    thread.context.stopped = true → thread.context.running = none ∧
      ∀ task ∈ thread.context.waiting, call.posted ≤ task

theorem sound_start : start.Sound where
  placed := List.Perm.refl _
  idle := fun _ => rfl
  before := by simp [start]
  foundBefore := by simp [start]
  stuck := by simp [start]
  drained := by simp [start]

variable {thread next : MainThread} {action : MainThreadAction}

/-- Waiting tasks were posted. -/
theorem Sound.lt_of_waiting (sound : thread.Sound) {task : Nat}
    (waiting : task ∈ thread.context.waiting) : task < thread.posted := by
  rw [← List.mem_range, ← sound.placed.mem_iff, List.mem_append]
  right
  exact List.mem_append_right _ waiting

/-- A task was executed exactly if it was posted and is not pending any more. -/
theorem Sound.count_executed_iff (sound : thread.Sound) {task : Nat}
    (posted : task < thread.posted) :
    thread.executed.count task = 1 ↔ task ∉ thread.context.pending := by
  have total := sound.placed.count_eq task
  have once : (List.range thread.posted).count task = 1 :=
    List.count_eq_one_of_mem List.nodup_range (List.mem_range.mpr posted)
  rw [List.count_append, once] at total
  rw [← List.count_eq_zero]
  omega

/-- A new task is waiting, after all others. -/
theorem Sound.invokeOnMain (sound : thread.Sound)
    (stepEq : step thread .invokeOnMain = some next) : next.Sound := by
  rcases stepEq with ⟨rfl⟩
  have waitingIff : ∀ task, task ∈ (thread.context.post thread.posted).waiting ↔
      task ∈ thread.context.waiting ∨ task = thread.posted := by
    intro task
    rw [IoContext.post, List.mem_append, List.mem_singleton]
  refine { sound with
    placed := ?_, before := fun call calling => Nat.le_succ_of_le (sound.before call calling),
    stuck := ?_, drained := ?_ }
  · rw [IoContext.pending_post, ← List.append_assoc, List.range_succ]
    exact sound.placed.append_right _
  · intro call calling found
    rcases sound.stuck call calling found with ⟨stopped, running, same⟩
    refine ⟨stopped, running, ?_⟩
    intro task early
    have different : task ≠ thread.posted :=
      Nat.ne_of_lt (Nat.lt_of_lt_of_le early (sound.before call calling))
    rw [waitingIff, ← same task early]
    exact or_iff_left different
  · intro call calling found stopped
    rcases sound.drained call calling found stopped with ⟨running, late⟩
    refine ⟨running, ?_⟩
    intro task waiting
    rcases (waitingIff task).mp waiting with old | rfl
    · exact late task old
    · exact sound.before call calling

/-- A call finds the context as it is. -/
theorem Sound.executeMainThreadTasks (sound : thread.Sound)
    (stepEq : step thread .executeMainThreadTasks = some next) : next.Sound := by
  rw [step] at stepEq
  split at stepEq
  · rename_i notCalling
    rcases stepEq with ⟨rfl⟩
    have running := sound.idle notCalling
    constructor
    · have same : thread.context.beginRun.pending = thread.context.pending := by
        rw [IoContext.pending, IoContext.pending, IoContext.running_beginRun,
          IoContext.waiting_beginRun]
      rw [same]
      exact sound.placed
    · rintro ⟨⟩
    · rintro call ⟨rfl⟩
      exact Nat.le_refl _
    · rintro call ⟨rfl⟩ task waiting
      exact sound.lt_of_waiting waiting
    · rintro call ⟨rfl⟩ found
      refine ⟨?_, ?_, ?_⟩
      · rcases thread.context.beginRun_cases with ⟨_, equal⟩ | ⟨_, equal⟩
        · rw [equal]
        · rw [equal]
          exact found
      · rw [IoContext.running_beginRun]
        exact running
      · intro task _
        rw [IoContext.waiting_beginRun]
    · rintro call ⟨rfl⟩ found stopped
      rcases thread.context.beginRun_cases with ⟨empty, equal⟩ | ⟨_, equal⟩
      · rw [equal]
        refine ⟨running, ?_⟩
        intro task waiting
        rw [empty] at waiting
        cases waiting
      · rw [equal, found] at stopped
        cases stopped
  · cases stepEq

/-- A task is started in a context that is not stopped. -/
theorem Sound.startTask (sound : thread.Sound) {task : Nat}
    (stepEq : step thread (.startTask task) = some next) : next.Sound := by
  rw [step] at stepEq
  split at stepEq
  · rename_i call calling
    rcases Option.map_eq_some_iff.mp stepEq with ⟨context, started, rfl⟩
    have pendingPerm := IoContext.pending_startTask started
    rcases IoContext.startTask_eq_some_iff.mp started with ⟨⟨notStopped, _, _⟩, contextEq⟩
    have stillRunnable : context.stopped = false := by rw [contextEq]; exact notStopped
    refine { sound with
      placed := (pendingPerm.append_left thread.executed).trans sound.placed, idle := ?_,
      stuck := ?_, drained := ?_ }
    · intro notCalling
      rw [calling] at notCalling
      cases notCalling
    · intro other otherCalling found
      rw [(sound.stuck other otherCalling found).1] at notStopped
      cases notStopped
    · intro other _ _ stopped
      rw [stillRunnable] at stopped
      cases stopped
  · cases stepEq

/-- If the context is stopped when a task returns, no task is waiting. -/
theorem Sound.finishTask (sound : thread.Sound)
    (stepEq : step thread .finishTask = some next) : next.Sound := by
  rcases Option.map_eq_some_iff.mp stepEq with ⟨⟨task, context⟩, finished, rfl⟩
  have pendingEq := IoContext.pending_finishTask finished
  rcases IoContext.finishTask_eq_some_iff.mp finished with ⟨running, contextEq⟩
  refine { sound with placed := ?_, idle := ?_, stuck := ?_, drained := ?_ }
  · have placed := sound.placed
    rw [pendingEq] at placed
    rw [List.append_assoc, List.singleton_append]
    exact placed
  · intro _
    rw [contextEq]
  · intro call calling found
    rw [(sound.stuck call calling found).2.1] at running
    cases running
  · intro call calling found stopped
    rw [contextEq] at stopped ⊢
    refine ⟨rfl, ?_⟩
    rcases Bool.or_eq_true_iff.mp stopped with before | empty
    · rw [(sound.drained call calling found before).1] at running
      cases running
    · intro other waiting
      rw [List.isEmpty_iff.mp empty] at waiting
      cases waiting

/-- A call returns as soon as its context is stopped and runs no task. -/
theorem callReturns_spec (stepEq : step thread .callReturns = some next) :
    thread.context.stopped = true ∧ thread.context.running = none ∧
      next = { thread with calling := none } := by
  rw [step] at stepEq
  split at stepEq
  · split at stepEq
    · rename_i returns
      rw [IoContext.canReturn, Bool.and_eq_true, Option.isNone_iff_eq_none] at returns
      exact ⟨returns.1, returns.2, (Option.some.inj stepEq).symm⟩
    · cases stepEq
  · cases stepEq

theorem Sound.callReturns (sound : thread.Sound)
    (stepEq : step thread .callReturns = some next) : next.Sound := by
  rcases callReturns_spec stepEq with ⟨_, running, rfl⟩
  constructor
  · exact sound.placed
  · exact fun _ => running
  · rintro call ⟨⟩
  · rintro call ⟨⟩
  · rintro call ⟨⟩
  · rintro call ⟨⟩

theorem Sound.step (sound : thread.Sound) (stepEq : step thread action = some next) :
    next.Sound := by
  cases action with
  | invokeOnMain => exact sound.invokeOnMain stepEq
  | executeMainThreadTasks => exact sound.executeMainThreadTasks stepEq
  | startTask task => exact sound.startTask stepEq
  | finishTask => exact sound.finishTask stepEq
  | callReturns => exact sound.callReturns stepEq

/-- A call executes all tasks exactly if it could: tasks that it found in a stopped context are
still waiting when it returns. -/
theorem executesAll_iff (sound : thread.Sound) :
    thread.ExecutesAll action ↔ thread.FoundRunnable action := by
  cases action with
  | callReturns =>
      constructor
      · intro all call calling returns found
        rcases sound.stuck call calling found with ⟨_, _, same⟩
        apply List.eq_nil_iff_forall_not_mem.mpr
        intro task waiting
        have early := sound.foundBefore call calling task waiting
        have posted := Nat.lt_of_lt_of_le early (sound.before call calling)
        have executed := (sound.count_executed_iff posted).mp (all call calling returns task early)
        exact executed (List.mem_append_right _ ((same task early).mpr waiting))
      · intro runnable call calling returns task early
        rw [sound.count_executed_iff (Nat.lt_of_lt_of_le early (sound.before call calling))]
        have stopped := (Bool.and_eq_true_iff.mp returns).1
        intro pending
        cases found : call.found.stopped with
        | true =>
            rcases sound.stuck call calling found with ⟨_, running, same⟩
            rw [IoContext.pending, running, Option.toList_none, List.nil_append, same task early,
              runnable call calling returns found] at pending
            cases pending
        | false =>
            rcases sound.drained call calling found stopped with ⟨running, late⟩
            rw [IoContext.pending, running, Option.toList_none, List.nil_append] at pending
            exact Nat.lt_irrefl _ (Nat.lt_of_lt_of_le early (late task pending))
  | _ => exact Iff.rfl

end MainThread

/-- Every call that returns has executed once each task that was posted before it. -/
def MainThreadTasksRun (actions : List MainThreadAction) : Prop :=
  ∀ before action after middle, actions = before ++ action :: after →
    run MainThread.step MainThread.start before = some middle → middle.ExecutesAll action

/-- Tasks for the main thread are executed in time exactly if no call that returns found tasks
waiting in a context that had run out of work before. -/
theorem mainThreadTasksRun_iff (actions : List MainThreadAction) :
    MainThreadTasksRun actions ↔
      Guarded MainThread.step MainThread.FoundRunnable MainThread.start actions := by
  have kept : ∀ thread action next, MainThread.Sound thread →
      MainThread.step thread action = some next → MainThread.Sound next :=
    fun _ _ _ sound => sound.step
  have steps : ∀ thread action, MainThread.Sound thread →
      (MainThread.ExecutesAll thread action ↔ MainThread.FoundRunnable thread action) :=
    fun _ _ => MainThread.executesAll_iff
  exact taken_iff_guarded kept steps MainThread.sound_start

/-- A tick without tasks, and a task for the second one. -/
def secondTick : List MainThreadAction :=
  [.executeMainThreadTasks, .callReturns, .invokeOnMain, .executeMainThreadTasks, .callReturns]

/-- The task is not executed. -/
theorem not_mainThreadTasksRun_secondTick : ¬MainThreadTasksRun secondTick := by
  intro runs
  have executed := runs [.executeMainThreadTasks, .callReturns, .invokeOnMain,
    .executeMainThreadTasks] .callReturns [] _ rfl rfl _ rfl rfl 0 (by decide)
  cases executed

end VoxelEngine.Thread
