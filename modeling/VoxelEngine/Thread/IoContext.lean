import Mathlib.Data.List.Perm.Basic

/-!
# Contexts that execute tasks

A context keeps the tasks that were posted to it until a thread runs it.  Running it executes
tasks, which may post others, until there is no work left; the context is stopped then, and a
stopped context executes nothing, whatever is posted to it.  Which of the waiting tasks comes
first is left open.
-/

namespace VoxelEngine.Thread

universe u

/-- A context that one thread runs. -/
structure IoContext (α : Type u) where
  waiting : List α
  running : Option α
  stopped : Bool

namespace IoContext

variable {α : Type u}

/-- A context without work. -/
def create : IoContext α :=
  ⟨[], none, false⟩

/-- `boost::asio::post` -/
def post (context : IoContext α) (task : α) : IoContext α :=
  { context with waiting := context.waiting ++ [task] }

/-- `io_context::run` begins.  A context without work is stopped at once. -/
def beginRun (context : IoContext α) : IoContext α :=
  if context.waiting.isEmpty then { context with stopped := true } else context

/-- A waiting task is executed, unless the context is stopped. -/
def startTask [DecidableEq α] (context : IoContext α) (task : α) : Option (IoContext α) :=
  if context.stopped = false ∧ context.running = none ∧ task ∈ context.waiting then
    some { context with waiting := context.waiting.erase task, running := some task }
  else none

/-- The task returns.  If no work is left, the context is stopped. -/
def finishTask (context : IoContext α) : Option (α × IoContext α) :=
  context.running.map fun task =>
    (task, { context with
      running := none
      stopped := context.stopped || context.waiting.isEmpty })

/-- `io_context::run` can return. -/
def canReturn (context : IoContext α) : Bool :=
  context.stopped && context.running.isNone

/-- The tasks that were not finished yet. -/
def pending (context : IoContext α) : List α :=
  context.running.toList ++ context.waiting

theorem pending_post (context : IoContext α) (task : α) :
    (context.post task).pending = context.pending ++ [task] :=
  (List.append_assoc _ _ _).symm

theorem beginRun_cases (context : IoContext α) :
    (context.waiting = [] ∧ context.beginRun = { context with stopped := true }) ∨
      context.waiting ≠ [] ∧ context.beginRun = context := by
  rw [beginRun]
  cases waiting : context.waiting with
  | nil => exact Or.inl ⟨rfl, rfl⟩
  | cons first rest => exact Or.inr ⟨List.cons_ne_nil _ _, rfl⟩

@[simp]
theorem waiting_beginRun (context : IoContext α) : context.beginRun.waiting = context.waiting := by
  rcases context.beginRun_cases with ⟨_, equal⟩ | ⟨_, equal⟩ <;> rw [equal]

@[simp]
theorem running_beginRun (context : IoContext α) : context.beginRun.running = context.running := by
  rcases context.beginRun_cases with ⟨_, equal⟩ | ⟨_, equal⟩ <;> rw [equal]

theorem startTask_eq_some_iff [DecidableEq α] {context next : IoContext α} {task : α} :
    context.startTask task = some next ↔
      (context.stopped = false ∧ context.running = none ∧ task ∈ context.waiting) ∧
        next = { context with waiting := context.waiting.erase task, running := some task } := by
  rw [startTask]
  split
  · rename_i ready
    rw [Option.some.injEq]
    exact ⟨fun equal => ⟨ready, equal.symm⟩, fun both => both.2.symm⟩
  · rename_i notReady
    apply iff_of_false
    · rintro ⟨⟩
    · exact fun both => notReady both.1

/-- Starting a task finishes none. -/
theorem pending_startTask [DecidableEq α] {context next : IoContext α} {task : α}
    (started : context.startTask task = some next) : next.pending.Perm context.pending := by
  rcases startTask_eq_some_iff.mp started with ⟨⟨_, running, mem⟩, rfl⟩
  rw [pending, pending, running]
  exact (List.perm_cons_erase mem).symm

theorem finishTask_eq_some_iff {context next : IoContext α} {task : α} :
    context.finishTask = some (task, next) ↔
      context.running = some task ∧
        next = { context with
          running := none, stopped := context.stopped || context.waiting.isEmpty } := by
  rw [finishTask, Option.map_eq_some_iff]
  constructor
  · rintro ⟨found, foundEq, equal⟩
    rw [Prod.mk.injEq] at equal
    exact ⟨equal.1 ▸ foundEq, equal.2.symm⟩
  · rintro ⟨running, rfl⟩
    exact ⟨task, running, rfl⟩

/-- Finishing a task finishes just this one. -/
theorem pending_finishTask {context next : IoContext α} {task : α}
    (finished : context.finishTask = some (task, next)) :
    context.pending = task :: next.pending := by
  rcases finishTask_eq_some_iff.mp finished with ⟨running, rfl⟩
  rw [pending, running]
  rfl

end IoContext

end VoxelEngine.Thread
