import VoxelEngine.Graphics.DirectivePreprocessor
import VoxelEngine.Graphics.FindDirective

/-!
# Actions for directives

An action that is added for a directive is a machine that is started and stopped by the same line.
What the action returns is not used.
-/

namespace VoxelEngine.Graphics

open VoxelEngine.Data VoxelEngine.Transition

variable {κ : Type}

/-- The machine that `add_directive` makes for a key and an action.  Its field stands for the lines
that the action was called with. -/
def actionMachine (key : List Char) : DirectiveStateMachine (List (List Char)) κ where
  start _ line reach := (startsFor key line, reach)
  stop _ _ reach := (true, reach)
  progress _ line reach := (line, (reach.1 ++ [line.1], reach.2))
  reset _ reach := reach

/-- A preprocessor with actions for some keys, and the calls of these so far. -/
def addDirectives (keys : List (List Char)) (calls : List Char → List (List Char)) :
    List (Directive (List (List Char)) κ) :=
  keys.map fun key => ⟨actionMachine key, .stopped, calls key⟩

/-- Directives are found in the lines of a source, and the action of each key is called with
exactly the lines whose word is the key. -/
def HandlesDirectives (split : List Char → List (List Char)) (source : SourceFile κ) : Prop :=
  (∀ line ∈ split source.src, ∀ word args, DirectiveLine line word args →
    findDirective line = some ⟨word, args⟩) ∧
  ∀ keys : List (List Char),
    (directivePreprocessor split (addDirectives keys fun _ => []) source).1 =
      addDirectives keys fun key =>
        (split source.src).filter fun line => directiveWord line = some key

variable {original : List Char} {split : List Char → List (List Char)}

/-- A line is only looked at. -/
theorem feed_action (key : List Char) (calls : List (List Char)) (shared : Shared κ) :
    Directive.feed original ⟨actionMachine key, .stopped, calls⟩ shared =
      (⟨actionMachine key, .stopped,
        if startsFor key shared.transformed then calls ++ [shared.transformed] else calls⟩,
        shared) := by
  rw [Directive.feed, Directive.tryStart]
  dsimp only [actionMachine]
  cases startsFor key shared.transformed with
  | false => rfl
  | true => rfl

theorem feedAll_actions (keys : List (List Char)) (calls : List Char → List (List Char))
    (shared : Shared κ) : feedAll original (addDirectives keys calls) shared =
      (addDirectives keys fun key =>
        if startsFor key shared.transformed then calls key ++ [shared.transformed] else calls key,
        shared) := by
  induction keys with
  | nil => rfl
  | cons key others ih =>
      rw [addDirectives, List.map_cons, feedAll, feed_action]
      dsimp only
      rw [addDirectives] at ih
      rw [ih]
      rfl

/-- Each action is called with the lines that start it. -/
theorem lines_actions (keys : List (List Char)) (calls : List Char → List (List Char))
    (parsed : List Char) (context : κ) (lines : List (List Char)) :
    (Preprocessing.lines original ⟨addDirectives keys calls, parsed, context⟩ lines).directives =
      addDirectives keys fun key => calls key ++ lines.filter (startsFor key) := by
  induction lines generalizing calls parsed with
  | nil =>
      simp only [List.filter_nil, List.append_nil]
      rfl
  | cons line others ih =>
      rw [Preprocessing.lines, List.foldl_cons, Preprocessing.line, feedAll_actions]
      refine (ih _ _).trans ?_
      apply List.map_congr_left
      intro key _
      dsimp only
      cases starts : startsFor key line with
      | false => simp [starts]
      | true => simp [starts]

@[simp]
theorem resetAll_actions (keys : List (List Char)) (calls : List Char → List (List Char))
    (parsed : List Char) :
    (resetAll original (addDirectives keys calls : List (Directive _ κ)) parsed).1 =
      addDirectives keys calls := by
  induction keys generalizing parsed with
  | nil => rfl
  | cons key others ih => exact congrArg (_ :: ·) (ih parsed)

/-- The calls of the actions for a source. -/
@[simp]
theorem directivePreprocessor_actions (keys : List (List Char)) (source : SourceFile κ) :
    (directivePreprocessor split (addDirectives keys fun _ => []) source).1 =
      addDirectives keys fun key => (split source.src).filter (startsFor key) := by
  rw [directivePreprocessor, processed]
  dsimp only
  rw [lines_actions, resetAll_actions]
  simp only [List.nil_append]

/-- Selections of the same members. -/
theorem filter_eq_filter_iff {α : Type} {first second : α → Bool} {members : List α} :
    members.filter first = members.filter second ↔
      ∀ member ∈ members, first member = second member := by
  constructor
  · intro same member mem
    have both : member ∈ members.filter first ↔ member ∈ members.filter second := by rw [same]
    rw [List.mem_filter, List.mem_filter, and_congr_right_iff] at both
    exact Bool.eq_iff_iff.mpr (both mem)
  · exact List.filter_congr

theorem addDirectives_eq_iff {first second : List Char → List (List Char)} :
    (∀ keys, (addDirectives keys first : List (Directive _ κ)) = addDirectives keys second) ↔
      ∀ key, first key = second key := by
  constructor
  · intro same key
    exact congrArg Directive.fields (List.cons.inj (same [key])).1
  · intro same keys
    rw [funext same]

/-- Directives are handled as it is promised exactly if in no line a letter is behind a `#`, unless
the line is a directive with nothing behind its word. -/
theorem handlesDirectives_iff {source : SourceFile κ} : HandlesDirectives split source ↔
    ∀ line ∈ split source.src, ¬HashLetter line ∨ BareDirective line := by
  rw [HandlesDirectives]
  simp only [directivePreprocessor_actions, addDirectives_eq_iff, filter_eq_filter_iff]
  constructor
  · rintro ⟨finds, starts⟩ line mem
    apply findsDirective_iff.mp
    refine ⟨finds line mem, ?_⟩
    intro key
    rw [starts key line mem, decide_eq_true_iff]
  · intro fine
    constructor
    · intro line mem
      exact (findsDirective_iff.mpr (fine line mem)).1
    · intro key line mem
      have starts := (findsDirective_iff.mpr (fine line mem)).2 key
      rw [Bool.eq_iff_iff, starts, decide_eq_true_iff]

/-- The last character of a word is lost in front of its arguments. -/
theorem not_handlesDirectives_args :
    ¬HandlesDirectives (List.splitOn '\n') (⟨"#define A".toList, ()⟩ : SourceFile Unit) := by
  rintro ⟨finds, _⟩
  have nothing : Blank [] := by
    intro c mem
    cases mem
  have space : Blank [' '] := by
    intro c mem
    rw [List.mem_singleton.mp mem]
    rfl
  have solid : "define".toList.all (!isSpace ·) = true := by decide
  have word : IsWord "define".toList := by
    refine ⟨⟨'d', rfl, rfl⟩, ?_⟩
    intro c mem
    simpa using List.all_eq_true.mp solid c mem
  have line : DirectiveLine "#define A".toList "define".toList "A".toList :=
    .intro nothing nothing word space (Or.inr ⟨List.cons_ne_nil _ _, 'A', rfl, rfl⟩)
  have found := finds _ (by decide) _ _ line
  revert found
  decide

end VoxelEngine.Graphics
