import Mathlib.Logic.Function.Basic
import Mathlib.Data.List.Nodup

/-!
# Updating a table along a list of keys

A loop over a view of a table whose body only reads and writes the entry of the
key it is visiting.  The loop is a left fold of point updates; when no key is
visited twice, its result is described entry by entry.
-/

namespace VoxelEngine.Data

universe u v

variable {α : Type u} {β : Type v} [DecidableEq α]

/-- Visit `keys` in order and replace the entry of each by `body`. -/
def updateAll (body : α → β → β) (keys : List α) (table : α → β) : α → β :=
  keys.foldl (fun current key => Function.update current key (body key (current key))) table

@[simp]
theorem updateAll_nil (body : α → β → β) (table : α → β) :
    updateAll body [] table = table :=
  rfl

@[simp]
theorem updateAll_cons (body : α → β → β) (key : α) (keys : List α) (table : α → β) :
    updateAll body (key :: keys) table =
      updateAll body keys (Function.update table key (body key (table key))) :=
  rfl

/-- Entries that are not visited stay as they are. -/
theorem updateAll_of_notMem (body : α → β → β) {keys : List α} {key : α}
    (absent : key ∉ keys) (table : α → β) :
    updateAll body keys table key = table key := by
  induction keys generalizing table with
  | nil => rfl
  | cons first rest ih =>
      rw [List.mem_cons, not_or] at absent
      rw [updateAll_cons, ih absent.2, Function.update_of_ne absent.1]

/-- Without repetitions the loop applies its body once to every visited entry. -/
theorem updateAll_apply (body : α → β → β) {keys : List α} (nodup : keys.Nodup)
    (table : α → β) (key : α) :
    updateAll body keys table key =
      if key ∈ keys then body key (table key) else table key := by
  induction keys generalizing table with
  | nil => simp
  | cons first rest ih =>
      rw [List.nodup_cons] at nodup
      rw [updateAll_cons]
      by_cases first_eq : key = first
      · subst first_eq
        rw [updateAll_of_notMem body nodup.1]
        simp
      · rw [ih nodup.2, Function.update_of_ne first_eq]
        simp [first_eq]

section Focus

variable {σ : Type v} (view : σ → α → β) {operation : σ → α → σ}

omit [DecidableEq α] in
/-- A loop whose body only shows at the key it visits does not show at other keys. -/
theorem view_foldl_of_notMem
    (elsewhere : ∀ state visited key, key ≠ visited →
      view (operation state visited) key = view state key)
    {keys : List α} {key : α} (absent : key ∉ keys) (state : σ) :
    view (keys.foldl operation state) key = view state key := by
  induction keys generalizing state with
  | nil => rfl
  | cons first rest ih =>
      rw [List.mem_cons, not_or] at absent
      rw [List.foldl_cons, ih absent.2, elsewhere state first key absent.1]

omit [DecidableEq α] in
/-- Without repetitions such a loop shows at a visited key as one visit does. -/
theorem view_foldl_of_mem
    (elsewhere : ∀ state visited key, key ≠ visited →
      view (operation state visited) key = view state key)
    {keys : List α} (nodup : keys.Nodup) {key : α} (mem : key ∈ keys) (state : σ) :
    ∃ middle, view middle key = view state key ∧
      view (keys.foldl operation state) key = view (operation middle key) key := by
  obtain ⟨before, after, rfl⟩ := List.append_of_mem mem
  rw [List.nodup_middle, List.nodup_cons, List.mem_append, not_or] at nodup
  refine ⟨before.foldl operation state, view_foldl_of_notMem view elsewhere nodup.1.1 state, ?_⟩
  rw [List.foldl_append, List.foldl_cons]
  exact view_foldl_of_notMem view elsewhere nodup.1.2 _

variable {attempt : σ → α → Option σ}

omit [DecidableEq α] in
/-- The same of a loop whose body may fail: what happens at other keys. -/
theorem view_foldlM_of_notMem
    (elsewhere : ∀ state visited next key, attempt state visited = some next →
      key ≠ visited → view next key = view state key)
    {keys : List α} {key : α} (absent : key ∉ keys) {state final : σ}
    (foldEq : keys.foldlM attempt state = some final) : view final key = view state key := by
  induction keys generalizing state with
  | nil => rw [← Option.some.inj foldEq]
  | cons first rest ih =>
      rw [List.mem_cons, not_or] at absent
      rw [List.foldlM_cons] at foldEq
      rcases Option.bind_eq_some_iff.mp foldEq with ⟨next, attemptEq, restEq⟩
      rw [ih absent.2 restEq, elsewhere state first next key attemptEq absent.1]

omit [DecidableEq α] in
/-- Without repetitions a loop that may fail shows at a visited key as one visit does. -/
theorem view_foldlM_of_mem
    (elsewhere : ∀ state visited next key, attempt state visited = some next →
      key ≠ visited → view next key = view state key)
    {keys : List α} (nodup : keys.Nodup) {key : α} (mem : key ∈ keys) {state final : σ}
    (foldEq : keys.foldlM attempt state = some final) :
    ∃ middle next, view middle key = view state key ∧ attempt middle key = some next ∧
      view final key = view next key := by
  rcases List.append_of_mem mem with ⟨before, after, rfl⟩
  rw [List.nodup_middle, List.nodup_cons, List.mem_append, not_or] at nodup
  rw [List.foldlM_append] at foldEq
  rcases Option.bind_eq_some_iff.mp foldEq with ⟨middle, beforeEq, afterEq⟩
  rw [List.foldlM_cons] at afterEq
  rcases Option.bind_eq_some_iff.mp afterEq with ⟨next, attemptEq, restEq⟩
  exact ⟨middle, next, view_foldlM_of_notMem view elsewhere nodup.1.1 beforeEq, attemptEq,
    view_foldlM_of_notMem view elsewhere nodup.1.2 restEq⟩

omit [DecidableEq α] in
/-- Such a loop does not fail if what it sees at each key lets the visit of that key pass. -/
theorem isSome_foldlM (enabled : α → β → Prop)
    (elsewhere : ∀ state visited next key, attempt state visited = some next →
      key ≠ visited → view next key = view state key)
    (passes : ∀ state key, enabled key (view state key) → (attempt state key).isSome = true)
    {keys : List α} (nodup : keys.Nodup) {state : σ}
    (each : ∀ key ∈ keys, enabled key (view state key)) :
    (keys.foldlM attempt state).isSome = true := by
  induction keys generalizing state with
  | nil => rfl
  | cons first rest ih =>
      rw [List.nodup_cons] at nodup
      rcases Option.isSome_iff_exists.mp (passes state first (each first List.mem_cons_self)) with
        ⟨next, attemptEq⟩
      rw [List.foldlM_cons, attemptEq]
      apply ih nodup.2
      intro key mem
      have key_ne : key ≠ first := by
        rintro rfl
        exact nodup.1 mem
      rw [elsewhere state first next key attemptEq key_ne]
      exact each key (List.mem_cons_of_mem _ mem)

end Focus

end VoxelEngine.Data
