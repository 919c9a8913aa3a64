import Mathlib.Logic.Function.Basic

/-!
# Indices over a table

A table of records is searched through an index that leads from a key of a record to its
place in the table.  The index is right if it leads to every record that there is, and
nowhere else, so that no two records have the same key.
-/

namespace VoxelEngine.Data

universe u v w

variable {α : Type u} {β : Type v} {κ : Type w}

/-- The index leads from the key of every record to the place of the record. -/
def Indexes (table : α → Option β) (key : β → κ) (index : κ → Option α) : Prop :=
  ∀ value place, index value = some place ↔
    ∃ entry, table place = some entry ∧ key entry = value

/-- Insert into an index, which leaves an entry that exists as it is. -/
def emplace [DecidableEq κ] (index : κ → Option α) (value : κ) (place : α) : κ → Option α :=
  if (index value).isSome then index else Function.update index value (some place)

theorem emplace_of_eq_none [DecidableEq κ] {index : κ → Option α} {value : κ}
    (unused : index value = none) (place : α) :
    emplace index value place = Function.update index value (some place) := by
  rw [emplace, unused]
  rfl

namespace Indexes

variable {table : α → Option β} {key : β → κ} {index : κ → Option α} {place : α} {entry : β}

theorem index_key (indexes : Indexes table key index) (entryEq : table place = some entry) :
    index (key entry) = some place :=
  (indexes _ _).mpr ⟨entry, entryEq, rfl⟩

/-- No two places hold the same key. -/
theorem place_unique (indexes : Indexes table key index) {other : α} {second : β}
    (entryEq : table place = some entry) (secondEq : table other = some second)
    (key_eq : key second = key entry) : other = place := by
  have first := indexes.index_key entryEq
  have second := indexes.index_key secondEq
  rw [key_eq, first] at second
  exact (Option.some.inj second).symm

/-- An index does not depend on what else the records contain. -/
theorem congr {after : α → Option β}
    (same : ∀ place, (after place).map key = (table place).map key)
    (indexes : Indexes table key index) : Indexes after key index := by
  intro value place
  rw [indexes value place]
  simp only [← Option.map_eq_some_iff]
  rw [same]

variable [DecidableEq α] [DecidableEq κ]

/-- A new record whose key is not in use. -/
theorem insert (indexes : Indexes table key index) (fresh : table place = none)
    (unused : index (key entry) = none) :
    Indexes (Function.update table place (some entry)) key
      (Function.update index (key entry) (some place)) := by
  intro value other
  by_cases value_eq : value = key entry
  · subst value_eq
    rw [Function.update_self, Option.some.injEq]
    constructor
    · rintro rfl
      exact ⟨entry, Function.update_self .., rfl⟩
    · rintro ⟨found, foundEq, key_eq⟩
      by_contra other_ne
      rw [Function.update_of_ne (Ne.symm other_ne)] at foundEq
      have indexEq := indexes.index_key foundEq
      rw [key_eq, unused] at indexEq
      cases indexEq
  · rw [Function.update_of_ne value_eq, indexes value other]
    by_cases other_eq : other = place
    · subst other_eq
      rw [fresh, Function.update_self]
      constructor
      · rintro ⟨found, absurdEq, -⟩
        cases absurdEq
      · rintro ⟨found, foundEq, key_eq⟩
        cases foundEq
        exact absurd key_eq.symm value_eq
    · rw [Function.update_of_ne other_eq]

/-- A record goes, and with it its key. -/
theorem erase (indexes : Indexes table key index) (entryEq : table place = some entry) :
    Indexes (Function.update table place none) key
      (Function.update index (key entry) none) := by
  intro value other
  by_cases other_eq : other = place
  · subst other_eq
    rw [Function.update_self]
    constructor
    · intro indexEq
      by_cases value_eq : value = key entry
      · rw [value_eq, Function.update_self] at indexEq
        cases indexEq
      · rw [Function.update_of_ne value_eq, indexes] at indexEq
        rcases indexEq with ⟨found, foundEq, key_eq⟩
        rw [entryEq] at foundEq
        cases foundEq
        exact absurd key_eq.symm value_eq
    · rintro ⟨found, absurdEq, -⟩
      cases absurdEq
  · rw [Function.update_of_ne other_eq, ← indexes]
    by_cases value_eq : value = key entry
    · subst value_eq
      rw [Function.update_self, indexes.index_key entryEq, Option.some.injEq]
      constructor
      · intro absurdEq
        cases absurdEq
      · intro place_eq
        exact absurd place_eq.symm other_eq
    · rw [Function.update_of_ne value_eq]

end Indexes

end VoxelEngine.Data
