import VoxelEngine.Transition.Run

/-!
# The directive preprocessor

The lines of a source are handed to the state machines of the preprocessor, one line after the
other and each line to one machine after the other.  The machines are part of the preprocessor,
and so are their states when a source is done.
-/

namespace VoxelEngine.Graphics

open VoxelEngine.Transition

/-- Whether a machine takes part in what is done to a line. -/
inductive MachineState where
  | started
  | stopped
  deriving DecidableEq

/-- What the functions of a machine can change besides their arguments: its own fields, and the
part of the source that is preprocessed. -/
abbrev Reach (σ : Type) :=
  σ × List Char

/-- The functions of a machine.  They also know the original source. -/
structure DirectiveStateMachine (σ κ : Type) where
  start : List Char → List Char → Reach σ → Bool × Reach σ
  stop : List Char → List Char → Reach σ → Bool × Reach σ
  progress : List Char → List Char × κ → Reach σ → (List Char × κ) × Reach σ
  reset : List Char → Reach σ → Reach σ

/-- A machine of a preprocessor. -/
structure Directive (σ κ : Type) where
  machine : DirectiveStateMachine σ κ
  state : MachineState
  fields : σ

/-- What the machines share while a line is processed. -/
structure Shared (κ : Type) where
  parsed : List Char
  transformed : List Char
  context : κ

variable {σ κ : Type}

namespace Directive

/-- Start the machine if it is stopped and the line is the one to start at. -/
def tryStart (original : List Char) (directive : Directive σ κ) (shared : Shared κ) :
    Directive σ κ × Shared κ :=
  match directive.state with
  | .stopped =>
      let answer := directive.machine.start original shared.transformed
        (directive.fields, shared.parsed)
      ({ directive with
          state := if answer.1 then .started else .stopped
          fields := answer.2.1 },
        { shared with parsed := answer.2.2 })
  | .started => (directive, shared)

/-- Let the machine progress if it is started. -/
def tryProgress (original : List Char) (directive : Directive σ κ) (shared : Shared κ) :
    Directive σ κ × Shared κ :=
  match directive.state with
  | .stopped => (directive, shared)
  | .started =>
      let progressed := directive.machine.progress original (shared.transformed, shared.context)
        (directive.fields, shared.parsed)
      ({ directive with fields := progressed.2.1 },
        { parsed := progressed.2.2
          transformed := progressed.1.1
          context := progressed.1.2 })

/-- Stop the machine if it is started and the line is the one to stop at. -/
def tryStop (original : List Char) (directive : Directive σ κ) (shared : Shared κ) :
    Directive σ κ × Shared κ :=
  match directive.state with
  | .stopped => (directive, shared)
  | .started =>
      let answer := directive.machine.stop original shared.transformed
        (directive.fields, shared.parsed)
      ({ directive with
          state := if answer.1 then .stopped else .started
          fields := answer.2.1 },
        { shared with parsed := answer.2.2 })

/-- What is done to a line for one machine. -/
def feed (original : List Char) (directive : Directive σ κ) (shared : Shared κ) :
    Directive σ κ × Shared κ :=
  let begun := directive.tryStart original shared
  let progressed := begun.1.tryProgress original begun.2
  progressed.1.tryStop original progressed.2

end Directive

/-- What is done to a line for all machines. -/
def feedAll (original : List Char) :
    List (Directive σ κ) → Shared κ → List (Directive σ κ) × Shared κ
  | [], shared => ([], shared)
  | directive :: others, shared =>
      let fed := directive.feed original shared
      let rest := feedAll original others fed.2
      (fed.1 :: rest.1, rest.2)

/-- The machines, the part of the source that is preprocessed, and the context. -/
structure Preprocessing (σ κ : Type) where
  directives : List (Directive σ κ)
  parsed : List Char
  context : κ

/-- What is done for one line. -/
def Preprocessing.line (original : List Char) (current : Preprocessing σ κ)
    (line : List Char) : Preprocessing σ κ :=
  let fed := feedAll original current.directives ⟨current.parsed, line, current.context⟩
  { directives := fed.1
    parsed := fed.2.parsed ++ fed.2.transformed ++ ['\n']
    context := fed.2.context }

/-- What is done for all lines of a source. -/
def Preprocessing.lines (original : List Char) (current : Preprocessing σ κ)
    (lines : List (List Char)) : Preprocessing σ κ :=
  lines.foldl (line original) current

/-- Reset all machines. -/
def resetAll (original : List Char) :
    List (Directive σ κ) → List Char → List (Directive σ κ) × List Char
  | [], parsed => ([], parsed)
  | directive :: others, parsed =>
      let reset := directive.machine.reset original (directive.fields, parsed)
      let rest := resetAll original others reset.2
      ({ directive with fields := reset.1 } :: rest.1, rest.2)

/-- A source that is to be preprocessed, with its context. -/
structure SourceFile (κ : Type) where
  src : List Char
  context : κ

variable (split : List Char → List (List Char))

/-- The machines and the output when all lines of a source are done. -/
def processed (directives : List (Directive σ κ)) (source : SourceFile κ) :
    Preprocessing σ κ :=
  Preprocessing.lines source.src ⟨directives, [], source.context⟩ (split source.src)

/-- Preprocess a source. -/
def directivePreprocessor (directives : List (Directive σ κ)) (source : SourceFile κ) :
    List (Directive σ κ) × SourceFile κ :=
  let done := processed split directives source
  let reset := resetAll source.src done.directives done.parsed
  (reset.1, ⟨reset.2, done.context⟩)

/-- The preprocessor before and after a source. -/
def preprocessStep : Step (List (Directive σ κ)) (SourceFile κ) := fun directives source =>
  some (directivePreprocessor split directives source).1

/-- No machine is started. -/
def AllStopped (directives : List (Directive σ κ)) : Prop :=
  ∀ directive ∈ directives, directive.state = .stopped

/-- No machine is left started by the last line of the source. -/
def EndsStopped (directives : List (Directive σ κ)) (source : SourceFile κ) : Prop :=
  AllStopped (processed split directives source).directives

/-- The reset of each machine restores the fields that the machine has now. -/
def Restores (directives : List (Directive σ κ)) : Prop :=
  ∀ directive ∈ directives, ∀ original reach,
    (directive.machine.reset original reach).1 = directive.fields

variable {split}
variable {original : List Char} {directive : Directive σ κ} {shared : Shared κ}
  {directives fresh afterFirst afterSecond : List (Directive σ κ)}
  {first second history : List (SourceFile κ)}

/-! ## The machines of a preprocessor stay the same -/

@[simp]
theorem Directive.machine_tryStart (directive : Directive σ κ) (shared : Shared κ) :
    (directive.tryStart original shared).1.machine = directive.machine := by
  rw [tryStart]
  cases directive.state <;> rfl

@[simp]
theorem Directive.machine_tryProgress (directive : Directive σ κ) (shared : Shared κ) :
    (directive.tryProgress original shared).1.machine = directive.machine := by
  rw [tryProgress]
  cases directive.state <;> rfl

@[simp]
theorem Directive.machine_tryStop (directive : Directive σ κ) (shared : Shared κ) :
    (directive.tryStop original shared).1.machine = directive.machine := by
  rw [tryStop]
  cases directive.state <;> rfl

@[simp]
theorem Directive.machine_feed (directive : Directive σ κ) (shared : Shared κ) :
    (directive.feed original shared).1.machine = directive.machine := by
  rw [feed, machine_tryStop, machine_tryProgress, machine_tryStart]

@[simp]
theorem machines_feedAll (directives : List (Directive σ κ)) (shared : Shared κ) :
    (feedAll original directives shared).1.map Directive.machine =
      directives.map Directive.machine := by
  induction directives generalizing shared with
  | nil => rfl
  | cons directive others ih =>
      rw [feedAll, List.map_cons, List.map_cons, directive.machine_feed, ih]

@[simp]
theorem machines_lines (current : Preprocessing σ κ) (lines : List (List Char)) :
    (current.lines original lines).directives.map Directive.machine =
      current.directives.map Directive.machine := by
  induction lines generalizing current with
  | nil => rfl
  | cons line others ih =>
      have rest := ih (current.line original line)
      rw [Preprocessing.line, machines_feedAll] at rest
      exact rest

theorem allStopped_iff :
    AllStopped directives ↔ ∀ state ∈ directives.map Directive.state, state = .stopped := by
  rw [List.forall_mem_map]
  exact Iff.rfl

/-- Resetting the machines does not stop them. -/
@[simp]
theorem states_resetAll (directives : List (Directive σ κ)) (parsed : List Char) :
    (resetAll original directives parsed).1.map Directive.state =
      directives.map Directive.state := by
  induction directives generalizing parsed with
  | nil => rfl
  | cons directive others ih =>
      rw [resetAll, List.map_cons, List.map_cons, ih]

/-- Machines that are stopped are as new when they are reset. -/
theorem resetAll_eq (restores : Restores fresh) (freshStopped : AllStopped fresh)
    (stopped : AllStopped directives)
    (machines : directives.map Directive.machine = fresh.map Directive.machine)
    (parsed : List Char) : (resetAll original directives parsed).1 = fresh := by
  induction directives generalizing fresh parsed with
  | nil =>
      cases fresh with
      | nil => rfl
      | cons directive others => cases machines
  | cons directive others ih =>
      cases fresh with
      | nil => cases machines
      | cons new rest =>
          have parts := List.cons.inj machines
          have restored : (directive.machine.reset original (directive.fields, parsed)).1 =
              new.fields := by
            rw [parts.1]
            exact restores new List.mem_cons_self original (directive.fields, parsed)
          have bothStopped : directive.state = new.state :=
            (stopped directive List.mem_cons_self).trans
              (freshStopped new List.mem_cons_self).symm
          rw [resetAll, ih (fun d mem => restores d (List.mem_cons_of_mem _ mem))
            (fun d mem => freshStopped d (List.mem_cons_of_mem _ mem))
            (fun d mem => stopped d (List.mem_cons_of_mem _ mem)) parts.2]
          dsimp only
          rw [restored, bothStopped, parts.1]

/-- A source leaves the preprocessor as it was exactly if it leaves no machine started. -/
theorem preprocessor_restored_iff (restores : Restores fresh) (freshStopped : AllStopped fresh)
    {source : SourceFile κ} :
    (directivePreprocessor split fresh source).1 = fresh ↔ EndsStopped split fresh source := by
  constructor
  · intro restored
    have states := @states_resetAll σ κ source.src (processed split fresh source).directives
      (processed split fresh source).parsed
    have kept : (resetAll source.src (processed split fresh source).directives
        (processed split fresh source).parsed).1 = fresh := restored
    rw [kept] at states
    rw [EndsStopped, allStopped_iff, ← states, ← allStopped_iff]
    exact freshStopped
  · intro ends
    apply resetAll_eq restores freshStopped ends
    exact machines_lines _ _

/-- The preprocessor is as new after each source of a run exactly if no source leaves a machine
started. -/
theorem fresh_throughout_iff (restores : Restores fresh) (freshStopped : AllStopped fresh)
    (runEq : run (preprocessStep split) fresh history = some directives) :
    (∀ before after middle, history = before ++ after →
        run (preprocessStep split) fresh before = some middle → middle = fresh) ↔
      Guarded (preprocessStep split) (EndsStopped split) fresh history := by
  apply @throughout_iff_guarded _ _ _ _ (fun _ => True) (fun current => current = fresh) _ _ _ _ _
    trivial rfl runEq
  · intro _ _ _ _ _
    trivial
  · rintro current source next _ rfl stepEq
    rw [← Option.some.inj stepEq]
    exact preprocessor_restored_iff restores freshStopped

/-- Two histories of sources that leave no machine started make no difference for a source. -/
theorem output_independent (restores : Restores fresh) (freshStopped : AllStopped fresh)
    (firstEnded : Guarded (preprocessStep split) (EndsStopped split) fresh first)
    (secondEnded : Guarded (preprocessStep split) (EndsStopped split) fresh second)
    (firstRun : run (preprocessStep split) fresh first = some afterFirst)
    (secondRun : run (preprocessStep split) fresh second = some afterSecond)
    (source : SourceFile κ) :
    (directivePreprocessor split afterFirst source).2 =
      (directivePreprocessor split afterSecond source).2 := by
  have firstFresh : afterFirst = fresh :=
    (fresh_throughout_iff restores freshStopped firstRun).mpr firstEnded first [] afterFirst
      (List.append_nil _).symm firstRun
  have secondFresh : afterSecond = fresh :=
    (fresh_throughout_iff restores freshStopped secondRun).mpr secondEnded second [] afterSecond
      (List.append_nil _).symm secondRun
  rw [firstFresh, secondFresh]

/-- A machine that removes the lines from one line to another, which is left for it to stop at. -/
def blockRemover : Directive Unit Unit where
  machine :=
    { start := fun _ line reach => (line = "#begin".toList, reach)
      stop := fun _ line reach => (line = "#end".toList, reach)
      progress := fun _ line reach =>
        ((if line.1 = "#end".toList then line.1 else [], line.2), reach)
      reset := fun _ reach => reach }
  state := .stopped
  fields := ()

theorem restores_blockRemover : Restores [blockRemover] := by
  intro directive _ original reach
  rfl

theorem allStopped_blockRemover : AllStopped [blockRemover] :=
  allStopped_iff.mpr (by decide)

/-- A block that ends makes no difference for the next source. -/
theorem output_independent_block :
    (directivePreprocessor (List.splitOn '\n')
        (directivePreprocessor (List.splitOn '\n') [blockRemover]
          ⟨"#begin\n#end".toList, ()⟩).1 ⟨"a".toList, ()⟩).2 =
      (directivePreprocessor (List.splitOn '\n') [blockRemover] ⟨"a".toList, ()⟩).2 := by
  have firstRun : run (preprocessStep (List.splitOn '\n')) [blockRemover]
      [⟨"#begin\n#end".toList, ()⟩] =
      some (directivePreprocessor (List.splitOn '\n') [blockRemover]
        ⟨"#begin\n#end".toList, ()⟩).1 := rfl
  have secondRun : run (preprocessStep (List.splitOn '\n')) [blockRemover] [] =
      some [blockRemover] := rfl
  have firstEnded : Guarded (preprocessStep (List.splitOn '\n'))
      (EndsStopped (List.splitOn '\n')) [blockRemover] [⟨"#begin\n#end".toList, ()⟩] :=
    ⟨allStopped_iff.mpr (by decide), trivial⟩
  exact output_independent restores_blockRemover allStopped_blockRemover firstEnded
    (guarded_nil _ _ _) firstRun secondRun _

/-- A block that does not end with its source goes on in the next one. -/
theorem block_goes_on : Restores [blockRemover] ∧ AllStopped [blockRemover] ∧
    (directivePreprocessor (List.splitOn '\n')
        (directivePreprocessor (List.splitOn '\n') [blockRemover]
          ⟨"#begin".toList, ()⟩).1 ⟨"a".toList, ()⟩).2.src = "\n".toList ∧
      (directivePreprocessor (List.splitOn '\n') [blockRemover] ⟨"a".toList, ()⟩).2.src =
        "a\n".toList :=
  ⟨restores_blockRemover, allStopped_blockRemover, by decide, by decide⟩

end VoxelEngine.Graphics
