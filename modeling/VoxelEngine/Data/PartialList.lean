import Mathlib.Data.List.Basic

/-!
# Lists of results that may be missing

Mapping a partial function over a list has a result if every element has one.  Changing the first
elements of a list with one value each has a result if there are not more values than elements.
-/

namespace VoxelEngine.Data

universe u v

variable {α : Type u} {β : Type v}

theorem mapM_cons_eq_some_iff {compute : α → Option β} {first : α} {rest : List α}
    {results : List β} :
    (first :: rest).mapM compute = some results ↔
      ∃ head tail, compute first = some head ∧ rest.mapM compute = some tail ∧
        head :: tail = results := by
  simp only [List.mapM_cons, Option.bind_eq_bind, Option.bind_eq_some_iff, Option.pure_def,
    Option.some.injEq]
  constructor
  · rintro ⟨head, headEq, tail, tailEq, equal⟩
    exact ⟨head, tail, headEq, tailEq, equal⟩
  · rintro ⟨head, tail, headEq, tailEq, equal⟩
    exact ⟨head, headEq, tail, tailEq, equal⟩

/-- There is a result if there is one for every element. -/
theorem exists_mapM_iff {compute : α → Option β} {elements : List α} :
    (∃ results, elements.mapM compute = some results) ↔
      ∀ element ∈ elements, ∃ result, compute element = some result := by
  induction elements with
  | nil => simp
  | cons first rest ih =>
      rw [List.forall_mem_cons, ← ih]
      simp only [mapM_cons_eq_some_iff]
      constructor
      · rintro ⟨results, head, tail, headEq, tailEq, _⟩
        exact ⟨⟨head, headEq⟩, tail, tailEq⟩
      · rintro ⟨⟨head, headEq⟩, tail, tailEq⟩
        exact ⟨head :: tail, head, tail, headEq, tailEq, rfl⟩

/-- Each result is that of the element at its place. -/
theorem getElem?_of_mapM {compute : α → Option β} {elements : List α} {results : List β}
    (mapped : elements.mapM compute = some results) (place : Nat) :
    results[place]? = elements[place]?.bind compute := by
  induction elements generalizing results place with
  | nil =>
      cases mapped
      rfl
  | cons first rest ih =>
      rcases mapM_cons_eq_some_iff.mp mapped with ⟨head, tail, headEq, tailEq, rfl⟩
      cases place with
      | zero => exact headEq.symm
      | succ place => exact ih tailEq place

theorem length_of_mapM {compute : α → Option β} {elements : List α} {results : List β}
    (mapped : elements.mapM compute = some results) : results.length = elements.length := by
  induction elements generalizing results with
  | nil =>
      cases mapped
      rfl
  | cons first rest ih =>
      rcases mapM_cons_eq_some_iff.mp mapped with ⟨head, tail, _, tailEq, rfl⟩
      rw [List.length_cons, List.length_cons, ih tailEq]

/-- If the results are known, they are those of a total function. -/
theorem mapM_eq_some_map {compute : α → Option β} {result : α → β} {elements : List α}
    (computed : ∀ element ∈ elements, compute element = some (result element)) :
    elements.mapM compute = some (elements.map result) := by
  induction elements with
  | nil => rfl
  | cons first rest ih =>
      rw [mapM_cons_eq_some_iff]
      refine ⟨result first, rest.map result, computed first List.mem_cons_self, ih ?_, rfl⟩
      exact fun element mem => computed element (List.mem_cons_of_mem first mem)

/-- Change the first elements with one value each.  There have to be as many. -/
def changeEach (change : α → β → α) : List α → List β → Option (List α)
  | elements, [] => some elements
  | [], _ :: _ => none
  | element :: elements, value :: values =>
      (changeEach change elements values).map fun changed => change element value :: changed

variable {change : α → β → α} {elements changed : List α} {values : List β}

theorem exists_changeEach_iff :
    (∃ changed, changeEach change elements values = some changed) ↔
      values.length ≤ elements.length := by
  induction elements generalizing values with
  | nil => cases values <;> simp [changeEach]
  | cons element rest ih =>
      cases values with
      | nil => simp [changeEach]
      | cons value others =>
          simp only [changeEach, Option.map_eq_some_iff, List.length_cons, Nat.succ_le_succ_iff]
          rw [← ih]
          constructor
          · rintro ⟨_, tail, tailEq, _⟩
            exact ⟨tail, tailEq⟩
          · rintro ⟨tail, tailEq⟩
            exact ⟨_, tail, tailEq, rfl⟩

theorem length_changeEach (changedEq : changeEach change elements values = some changed) :
    changed.length = elements.length := by
  induction elements generalizing values changed with
  | nil =>
      cases values with
      | nil => rw [← Option.some.inj changedEq]
      | cons value others => cases changedEq
  | cons element rest ih =>
      cases values with
      | nil => rw [← Option.some.inj changedEq]
      | cons value others =>
          rcases Option.map_eq_some_iff.mp changedEq with ⟨tail, tailEq, rfl⟩
          rw [List.length_cons, List.length_cons, ih tailEq]

/-- An element for which there is a value is changed with it. -/
theorem getElem?_changeEach (changedEq : changeEach change elements values = some changed)
    {place : Nat} {value : β} (valueEq : values[place]? = some value) :
    changed[place]? = elements[place]?.map fun element => change element value := by
  induction elements generalizing values changed place with
  | nil =>
      cases values with
      | nil => cases valueEq
      | cons first others => cases changedEq
  | cons element rest ih =>
      cases values with
      | nil => cases valueEq
      | cons first others =>
          rcases Option.map_eq_some_iff.mp changedEq with ⟨tail, tailEq, rfl⟩
          cases place with
          | zero => rw [← Option.some.inj valueEq]; rfl
          | succ place => exact ih tailEq valueEq

/-- As many values as elements replace these. -/
theorem changeEach_replace {values : List α} (length_eq : values.length = elements.length) :
    changeEach (fun _ value => value) elements values = some values := by
  induction elements generalizing values with
  | nil => rw [List.eq_nil_of_length_eq_zero length_eq]; rfl
  | cons element rest ih =>
      cases values with
      | nil => cases length_eq
      | cons value others =>
          rw [changeEach, ih (Nat.succ.inj length_eq)]
          rfl

end VoxelEngine.Data
