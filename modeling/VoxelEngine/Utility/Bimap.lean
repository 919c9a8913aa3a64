import VoxelEngine.Data.HashTable
import VoxelEngine.Transition.Run

/-!
# Maps in both directions

A pair is put into two maps, and each of them ignores it if the key is in use there.  The maps are
inverse to each other as long as no pair is ignored by just one of them.
-/

namespace VoxelEngine.Utility

open VoxelEngine.Data VoxelEngine.Transition

universe u v

/-- `bimap` -/
structure Bimap (K : Type u) (V : Type v) where
  left : HashTable K V
  right : HashTable V K

/-- What is done to a map. -/
inductive BimapAction (K : Type u) (V : Type v) where
  | insert (k : K) (v : V)
  | eraseKey (key : K)
  | eraseVal (val : V)
  | clear

namespace Bimap

variable {K : Type u} {V : Type v}

/-- A map without pairs. -/
def empty : Bimap K V :=
  ⟨HashTable.empty, HashTable.empty⟩

variable [DecidableEq K] [DecidableEq V]

/-- `bimap::insert` -/
def insert (map : Bimap K V) (k : K) (v : V) : Bimap K V :=
  ⟨map.left.emplace (k, v), map.right.emplace (v, k)⟩

/-- `bimap::erase_key`, for a key that is there. -/
def eraseKey (map : Bimap K V) (key : K) : Option (Bimap K V) :=
  (map.left.find key).map fun val => ⟨map.left.erase key, map.right.erase val⟩

/-- `bimap::erase_val`, for a value that is there. -/
def eraseVal (map : Bimap K V) (val : V) : Option (Bimap K V) :=
  (map.right.find val).map fun key => ⟨map.left.erase key, map.right.erase val⟩

/-- `bimap::contains_key` -/
def containsKey (map : Bimap K V) (key : K) : Bool :=
  map.left.contains key

/-- `bimap::contains_val` -/
def containsVal (map : Bimap K V) (val : V) : Bool :=
  map.right.contains val

/-- The transition relation. -/
def step : Step (Bimap K V) (BimapAction K V)
  | map, .insert k v => some (map.insert k v)
  | map, .eraseKey key => map.eraseKey key
  | map, .eraseVal val => map.eraseVal val
  | _, .clear => some empty

/-- The two maps are inverse to each other. -/
def MutuallyInverse (map : Bimap K V) : Prop :=
  ∀ k v, map.left.find k = some v ↔ map.right.find v = some k

/-- A pair that is inserted has a key and a value that are both in use, or both not. -/
def SidesAgree (map : Bimap K V) : BimapAction K V → Prop
  | .insert k v => map.containsKey k = map.containsVal v
  | _ => True

/-- The map with its sides exchanged. -/
def swap (map : Bimap K V) : Bimap V K :=
  ⟨map.right, map.left⟩

variable {map next : Bimap K V} {k : K} {v : V}

theorem MutuallyInverse.swap (inverse : map.MutuallyInverse) : map.swap.MutuallyInverse :=
  fun v k => (inverse k v).symm

theorem eraseVal_eq_swap (map : Bimap K V) (val : V) :
    map.eraseVal val = (map.swap.eraseKey val).map swap := by
  rw [eraseVal, eraseKey, Option.map_map]
  rfl

theorem mutuallyInverse_empty : (empty : Bimap K V).MutuallyInverse := by
  intro k v
  apply iff_of_false
  · rintro ⟨⟩
  · rintro ⟨⟩

/-- Erasing takes out both directions of a pair. -/
theorem MutuallyInverse.eraseKey (inverse : map.MutuallyInverse) {key : K}
    (erased : map.eraseKey key = some next) : next.MutuallyInverse := by
  rcases Option.map_eq_some_iff.mp erased with ⟨val, found, rfl⟩
  have back := (inverse key val).mp found
  intro k v
  rw [HashTable.find_erase, HashTable.find_erase]
  by_cases sameKey : k = key
  · rw [if_pos sameKey]
    apply iff_of_false
    · rintro ⟨⟩
    · split
      · rintro ⟨⟩
      · rename_i different
        intro backwards
        rw [sameKey, ← inverse, found] at backwards
        exact different (Option.some.inj backwards).symm
  · rw [if_neg sameKey, inverse]
    split
    · rename_i sameVal
      apply iff_of_false
      · intro backwards
        rw [sameVal, back] at backwards
        exact sameKey (Option.some.inj backwards).symm
      · rintro ⟨⟩
    · exact Iff.rfl

theorem MutuallyInverse.eraseVal (inverse : map.MutuallyInverse) {val : V}
    (erased : map.eraseVal val = some next) : next.MutuallyInverse := by
  rw [eraseVal_eq_swap] at erased
  rcases Option.map_eq_some_iff.mp erased with ⟨swapped, swappedErased, rfl⟩
  exact (inverse.swap.eraseKey swappedErased).swap

/-- A key that is in use keeps its value. -/
@[simp]
theorem find_left_insert (map : Bimap K V) (k key : K) (v : V) :
    (map.insert k v).left.find key =
      (map.left.find key).or (if key = k then some v else none) :=
  HashTable.find_emplace map.left (k, v) key

@[simp]
theorem find_right_insert (map : Bimap K V) (k : K) (v val : V) :
    (map.insert k v).right.find val =
      (map.right.find val).or (if val = v then some k else none) :=
  HashTable.find_emplace map.right (v, k) val

omit [DecidableEq V] in
@[simp]
theorem find_left_eq_none_iff : map.left.find k = none ↔ map.containsKey k = false := by
  rw [containsKey, HashTable.contains, Option.isSome_eq_false_iff, Option.isNone_iff_eq_none]

omit [DecidableEq K] in
@[simp]
theorem find_right_eq_none_iff : map.right.find v = none ↔ map.containsVal v = false := by
  rw [containsVal, HashTable.contains, Option.isSome_eq_false_iff, Option.isNone_iff_eq_none]

/-- If only the value of a pair is new, it leads to the key, which does not lead to it. -/
theorem not_mutuallyInverse_insert (inverse : map.MutuallyInverse)
    (usedKey : map.containsKey k = true) (unusedVal : map.containsVal v = false) :
    ¬(map.insert k v).MutuallyInverse := by
  intro still
  rcases Option.isSome_iff_exists.mp usedKey with ⟨old, oldFound⟩
  have absent := find_right_eq_none_iff.mpr unusedVal
  have backwards : (map.insert k v).right.find v = some k := by
    rw [find_right_insert, absent, if_pos rfl]
    rfl
  have forwards := (still k v).mpr backwards
  rw [find_left_insert, oldFound, Option.some_or] at forwards
  rw [Option.some.inj forwards, inverse, absent] at oldFound
  cases oldFound

@[simp]
theorem swap_insert (map : Bimap K V) (k : K) (v : V) :
    (map.insert k v).swap = map.swap.insert v k :=
  rfl

@[simp]
theorem mutuallyInverse_swap_iff :
    map.swap.MutuallyInverse ↔ map.MutuallyInverse :=
  ⟨MutuallyInverse.swap, MutuallyInverse.swap⟩

/-- A pair is ignored if both its key and its value are in use. -/
theorem insert_of_used (usedKey : map.containsKey k = true) (usedVal : map.containsVal v = true) :
    map.insert k v = map := by
  rcases Option.isSome_iff_exists.mp usedKey with ⟨oldVal, oldValFound⟩
  rcases Option.isSome_iff_exists.mp usedVal with ⟨oldKey, oldKeyFound⟩
  rw [insert, HashTable.emplace_of_find oldValFound, HashTable.emplace_of_find oldKeyFound]

/-- A pair is put in if neither its key nor its value is in use. -/
theorem MutuallyInverse.insert_of_unused (inverse : map.MutuallyInverse)
    (unusedKey : map.containsKey k = false) (unusedVal : map.containsVal v = false) :
    (map.insert k v).MutuallyInverse := by
  have absentKey := find_left_eq_none_iff.mpr unusedKey
  have absentVal := find_right_eq_none_iff.mpr unusedVal
  intro key val
  rw [find_left_insert, find_right_insert]
  by_cases sameKey : key = k
  · rw [sameKey, absentKey, if_pos rfl, Option.none_or]
    by_cases sameVal : val = v
    · rw [sameVal, absentVal, if_pos rfl, Option.none_or]
      exact iff_of_true rfl rfl
    · rw [if_neg sameVal, Option.or_none, ← inverse, absentKey]
      apply iff_of_false
      · exact fun equal => sameVal (Option.some.inj equal).symm
      · rintro ⟨⟩
  · rw [if_neg sameKey, Option.or_none]
    by_cases sameVal : val = v
    · rw [sameVal, inverse, absentVal, if_pos rfl, Option.none_or]
      apply iff_of_false
      · rintro ⟨⟩
      · exact fun equal => sameKey (Option.some.inj equal).symm
    · rw [if_neg sameVal, Option.or_none]
      exact inverse key val

/-- Inserting keeps the maps inverse exactly if both of them ignore the pair or none does. -/
theorem mutuallyInverse_insert_iff (inverse : map.MutuallyInverse) :
    (map.insert k v).MutuallyInverse ↔ map.containsKey k = map.containsVal v := by
  cases usedKey : map.containsKey k with
  | true =>
      cases usedVal : map.containsVal v with
      | true =>
          rw [insert_of_used usedKey usedVal]
          exact iff_of_true inverse rfl
      | false =>
          apply iff_of_false
          · exact not_mutuallyInverse_insert inverse usedKey usedVal
          · rintro ⟨⟩
  | false =>
      cases usedVal : map.containsVal v with
      | true =>
          apply iff_of_false
          · rw [← mutuallyInverse_swap_iff, swap_insert]
            exact not_mutuallyInverse_insert inverse.swap usedVal usedKey
          · rintro ⟨⟩
      | false => exact iff_of_true (inverse.insert_of_unused usedKey usedVal) rfl

/-- A step leads to maps that are inverse exactly if the sides agree. -/
theorem mutuallyInverse_step_iff (inverse : map.MutuallyInverse) (action : BimapAction K V) :
    (∀ next, step map action = some next → next.MutuallyInverse) ↔ map.SidesAgree action := by
  cases action with
  | insert k v =>
      rw [SidesAgree, ← mutuallyInverse_insert_iff inverse]
      constructor
      · exact fun all => all _ rfl
      · rintro still next ⟨rfl⟩
        exact still
  | eraseKey key => exact iff_of_true (fun _ erased => inverse.eraseKey erased) trivial
  | eraseVal val => exact iff_of_true (fun _ erased => inverse.eraseVal erased) trivial
  | clear =>
      apply iff_of_true _ trivial
      rintro next ⟨rfl⟩
      exact mutuallyInverse_empty

end Bimap

section Runs

variable {K : Type u} {V : Type v} [DecidableEq K] [DecidableEq V]

/-- In every state that is reached, the two maps are inverse to each other. -/
def StaysBijective (actions : List (BimapAction K V)) : Prop :=
  ∀ before after middle, actions = before ++ after →
    run Bimap.step Bimap.empty before = some middle → middle.MutuallyInverse

/-- The maps stay inverse exactly if no pair is inserted of which just the key or just the value is
in use. -/
theorem staysBijective_iff (actions : List (BimapAction K V)) :
    StaysBijective actions ↔ Guarded Bimap.step Bimap.SidesAgree Bimap.empty actions := by
  have always : ∀ (map : Bimap K V) action next, True →
      Bimap.step map action = some next → True :=
    fun _ _ _ _ _ => trivial
  have steps : ∀ (map : Bimap K V) action, True → map.MutuallyInverse →
      ((∀ next, Bimap.step map action = some next → next.MutuallyInverse) ↔
        map.SidesAgree action) :=
    fun _ action _ inverse => Bimap.mutuallyInverse_step_iff inverse action
  exact reached_iff_guarded always steps trivial Bimap.mutuallyInverse_empty

end Runs

/-- Two pairs with the same key. -/
def sharedKey : List (BimapAction Nat Nat) :=
  [.insert 1 1, .insert 1 2]

theorem not_staysBijective_sharedKey : ¬StaysBijective sharedKey := by
  intro stays
  have inverse := stays sharedKey [] _ (List.append_nil _).symm rfl
  have forwards := (inverse 1 2).mpr (by decide)
  revert forwards
  decide

end VoxelEngine.Utility
