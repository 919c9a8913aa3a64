import Mathlib.Data.List.Nodup

/-!
# Hash tables

A hash table holds its entries in some order, and no key twice.  Putting in an entry whose key is
in use changes nothing.
-/

namespace VoxelEngine.Data

universe u v w

/-- A table of values by their keys. -/
structure HashTable (κ : Type u) (β : Type v) where
  entries : List (κ × β)
  distinct : (entries.map Prod.fst).Nodup

namespace HashTable

variable {κ : Type u} {β : Type v}

/-- A table without entries. -/
def empty : HashTable κ β :=
  ⟨[], List.nodup_nil⟩

variable [DecidableEq κ]

/-- The value of a key. -/
def find (table : HashTable κ β) (key : κ) : Option β :=
  table.entries.lookup key

/-- Whether a key is in use. -/
def contains (table : HashTable κ β) (key : κ) : Bool :=
  (table.find key).isSome

/-- Values that are computed from others are found where these are. -/
theorem lookup_map {γ : Type w} (compute : κ → β → γ) (entries : List (κ × β)) (key : κ) :
    (entries.map fun entry => (entry.1, compute entry.1 entry.2)).lookup key =
      (entries.lookup key).map (compute key) := by
  induction entries with
  | nil => rfl
  | cons entry rest ih =>
      rw [List.map_cons, List.lookup_cons, List.lookup_cons, ih]
      cases same : key == entry.1 with
      | false => rfl
      | true =>
          rw [beq_iff_eq] at same
          rw [same]
          rfl

/-- Put in an entry, unless its key is in use. -/
def emplace (table : HashTable κ β) (entry : κ × β) : HashTable κ β :=
  if used : entry.1 ∈ table.entries.map Prod.fst then table
  else
    { entries := table.entries ++ [entry]
      distinct := by
        rw [List.map_append, List.map_singleton]
        exact table.distinct.append (List.nodup_singleton _)
          (List.disjoint_singleton.mpr used) }

/-- Put in an entry, and take its value if its key is in use. -/
def insertOrAssign (table : HashTable κ β) (entry : κ × β) : HashTable κ β :=
  if entry.1 ∈ table.entries.map Prod.fst then
    { entries := table.entries.map fun old => (old.1, if old.1 = entry.1 then entry.2 else old.2)
      distinct := by
        rw [List.map_map]
        exact table.distinct }
  else table.emplace entry

/-- Take out the entry of a key. -/
def erase (table : HashTable κ β) (key : κ) : HashTable κ β :=
  { entries := table.entries.filter fun entry => entry.1 ≠ key
    distinct := table.distinct.sublist (List.filter_sublist.map Prod.fst) }

/-- Put in entries one after the other. -/
def emplaceAll (table : HashTable κ β) (added : List (κ × β)) : HashTable κ β :=
  added.foldl emplace table

variable {table : HashTable κ β} {added : List (κ × β)} {entry : κ × β} {keep : κ × β → Bool}

theorem contains_eq_true_iff {key : κ} :
    table.contains key = true ↔ key ∈ table.entries.map Prod.fst := by
  rw [contains, find, ← not_iff_not, Bool.not_eq_true, Option.isSome_eq_false_iff,
    Option.isNone_iff_eq_none, List.lookup_eq_none_iff]
  simp only [List.mem_map, not_exists, not_and, bne_iff_ne, ne_eq]
  constructor
  · intro absent entry mem same
    exact absent entry mem same.symm
  · intro absent entry mem same
    exact absent entry mem same.symm

theorem entries_emplace_of_mem (used : entry.1 ∈ table.entries.map Prod.fst) :
    (table.emplace entry).entries = table.entries := by
  rw [emplace, dif_pos used]

theorem entries_emplace_of_not_mem (unused : entry.1 ∉ table.entries.map Prod.fst) :
    (table.emplace entry).entries = table.entries ++ [entry] := by
  rw [emplace, dif_neg unused]

/-- Of entries with the same key, the first one counts. -/
theorem find_emplaceAll (table : HashTable κ β) (added : List (κ × β)) (key : κ) :
    (table.emplaceAll added).find key = (table.entries ++ added).lookup key := by
  induction added generalizing table with
  | nil => rw [List.append_nil]; rfl
  | cons entry rest ih =>
      change ((table.emplace entry).emplaceAll rest).find key = _
      rw [ih]
      by_cases used : entry.1 ∈ table.entries.map Prod.fst
      · rw [entries_emplace_of_mem used, List.lookup_append, List.lookup_append]
        cases lookupEq : table.entries.lookup key with
        | some value => rfl
        | none =>
            have different : ¬(key == entry.1) = true := by
              rintro same
              rw [beq_iff_eq] at same
              rcases List.mem_map.mp used with ⟨other, otherMem, other_eq⟩
              have absent := List.lookup_eq_none_iff.mp lookupEq other otherMem
              rw [same, other_eq] at absent
              simp at absent
            rw [Option.none_or, Option.none_or, List.lookup_cons]
            simp [different]
      · rw [entries_emplace_of_not_mem used, List.append_assoc, List.singleton_append]

/-- A table whose values are computed from those of another one stays so. -/
theorem find_emplaceAll_map {γ : Type w} {compute : κ → β → γ} {computed : HashTable κ γ}
    (follows : ∀ key, computed.find key = (table.find key).map (compute key))
    (added : List (κ × β)) (key : κ) :
    (computed.emplaceAll (added.map fun entry => (entry.1, compute entry.1 entry.2))).find key =
      ((table.emplaceAll added).find key).map (compute key) := by
  have before := follows key
  rw [find, find] at before
  rw [find_emplaceAll, find_emplaceAll, List.lookup_append, List.lookup_append, lookup_map,
    before, Option.map_or]

theorem emplace_of_find {value : β} (found : table.find entry.1 = some value) :
    table.emplace entry = table := by
  have used : entry.1 ∈ table.entries.map Prod.fst := by
    rw [← contains_eq_true_iff, contains, found]
    rfl
  rw [emplace, dif_pos used]

/-- An entry that is put in is found unless its key was in use. -/
theorem find_emplace (table : HashTable κ β) (entry : κ × β) (key : κ) :
    (table.emplace entry).find key =
      (table.find key).or (if key = entry.1 then some entry.2 else none) := by
  have put := table.find_emplaceAll [entry] key
  rw [List.lookup_append] at put
  refine put.trans ?_
  congr 1
  by_cases same : key = entry.1
  · rw [if_pos same, same]
    exact List.lookup_cons_self
  · rw [if_neg same, List.lookup_cons, beq_false_of_ne same]
    rfl

/-- A value that is put in or taken is found. -/
theorem find_insertOrAssign (table : HashTable κ β) (entry : κ × β) (key : κ) :
    (table.insertOrAssign entry).find key =
      if key = entry.1 then some entry.2 else table.find key := by
  rw [insertOrAssign]
  split
  · rename_i used
    have assigned := lookup_map (fun old value => if old = entry.1 then entry.2 else value)
      table.entries key
    change List.lookup key (table.entries.map _) = _
    rw [assigned]
    by_cases same : key = entry.1
    · rw [← same] at used
      rcases Option.isSome_iff_exists.mp (contains_eq_true_iff.mpr used) with ⟨old, oldEq⟩
      rw [find] at oldEq
      rw [if_pos same, oldEq, Option.map_some, if_pos same]
    · rw [if_neg same, find]
      cases table.entries.lookup key with
      | none => rfl
      | some old => rw [Option.map_some, if_neg same]
  · rename_i unused
    rw [find_emplace]
    by_cases same : key = entry.1
    · have absent : table.find key = none := by
        rw [same, ← Option.not_isSome_iff_eq_none]
        exact fun used => unused (contains_eq_true_iff.mp used)
      rw [absent, if_pos same]
      rfl
    · rw [if_neg same, if_neg same, Option.or_none]

/-- Each entry is the one that is found by its key exactly if entries with the same key are
equal. -/
theorem lookup_each_iff :
    (∀ entry ∈ added, added.lookup entry.1 = some entry.2) ↔
      added.Pairwise fun first second => first.1 = second.1 → first.2 = second.2 := by
  constructor
  · intro each
    apply List.pairwise_of_forall_mem_list
    intro first firstMem second secondMem same
    have firstEq := each first firstMem
    rw [same, each second secondMem] at firstEq
    exact (Option.some.inj firstEq).symm
  · intro consistent
    induction added with
    | nil =>
        intro entry mem
        cases mem
    | cons first rest ih =>
        rw [List.pairwise_cons] at consistent
        intro entry mem
        rcases List.mem_cons.mp mem with rfl | later
        · exact List.lookup_cons_self
        · by_cases same : first.1 = entry.1
          · rw [← consistent.1 entry later same, ← same]
            exact List.lookup_cons_self
          · have different : (entry.1 == first.1) = false := beq_false_of_ne (Ne.symm same)
            rw [List.lookup_cons, different]
            exact ih consistent.2 entry later

/-- What is found by a key is what is stored by it. -/
theorem find_eq_some_iff {key : κ} {value : β} :
    table.find key = some value ↔ (key, value) ∈ table.entries := by
  constructor
  · intro found
    rcases List.lookup_eq_some_iff.mp found with ⟨before, after, entries_eq, _⟩
    rw [entries_eq]
    exact List.mem_append_right before List.mem_cons_self
  · intro mem
    have apart := List.pairwise_map.mp table.distinct
    have consistent : table.entries.Pairwise fun first second =>
        first.1 = second.1 → first.2 = second.2 :=
      apart.imp fun different same => absurd same different
    exact lookup_each_iff.mpr consistent (key, value) mem

/-- What was taken out is not found. -/
@[simp]
theorem find_erase (table : HashTable κ β) (erased key : κ) :
    (table.erase erased).find key = if key = erased then none else table.find key := by
  apply Option.ext
  intro value
  rw [find_eq_some_iff]
  split
  · rename_i same
    simp [erase, same]
  · rename_i different
    rw [find_eq_some_iff]
    simp [erase, different]

/-- Tables with the same values hold the same entries, in some order. -/
theorem perm_entries_iff {other : HashTable κ β} :
    table.entries.Perm other.entries ↔ ∀ key, table.find key = other.find key := by
  rw [List.perm_ext_iff_of_nodup (List.Nodup.of_map _ table.distinct)
    (List.Nodup.of_map _ other.distinct)]
  constructor
  · intro same key
    apply Option.ext
    intro value
    rw [find_eq_some_iff, find_eq_some_iff]
    exact same (key, value)
  · intro same entry
    rw [← find_eq_some_iff, ← find_eq_some_iff, same entry.1]

/-- The same entries in another order. -/
def reorder (table : HashTable κ β) (entries : List (κ × β)) (perm : entries.Perm table.entries) :
    HashTable κ β :=
  ⟨entries, (perm.map Prod.fst).nodup_iff.mpr table.distinct⟩

theorem find_reorder {entries : List (κ × β)} (perm : entries.Perm table.entries) (key : κ) :
    (table.reorder entries perm).find key = table.find key :=
  perm_entries_iff.mp perm key

theorem mem_emplaceAll (mem : entry ∈ (table.emplaceAll added).entries) :
    entry ∈ table.entries ∨ entry ∈ added := by
  induction added generalizing table with
  | nil => exact Or.inl mem
  | cons first rest ih =>
      have mem : entry ∈ ((table.emplace first).emplaceAll rest).entries := mem
      rcases ih mem with before | later
      · by_cases used : first.1 ∈ table.entries.map Prod.fst
        · rw [entries_emplace_of_mem used] at before
          exact Or.inl before
        · rw [entries_emplace_of_not_mem used, List.mem_append, List.mem_singleton] at before
          rcases before with old | rfl
          · exact Or.inl old
          · exact Or.inr List.mem_cons_self
      · exact Or.inr (List.mem_cons_of_mem _ later)

/-- Entries with keys of their own are all put in. -/
theorem entries_emplaceAll_of_nodup
    (distinct : ((table.entries ++ added).map Prod.fst).Nodup) :
    (table.emplaceAll added).entries = table.entries ++ added := by
  induction added generalizing table with
  | nil => rw [List.append_nil]; rfl
  | cons entry rest ih =>
      have unused : entry.1 ∉ table.entries.map Prod.fst := by
        rw [List.map_append, List.nodup_append'] at distinct
        intro used
        exact distinct.2.2 used List.mem_cons_self
      have next := entries_emplace_of_not_mem unused
      change ((table.emplace entry).emplaceAll rest).entries = _
      rw [ih (by rwa [next, List.append_assoc, List.singleton_append]), next, List.append_assoc,
        List.singleton_append]

/-- If only entries that do not matter are left out, then all that matter are put in. -/
theorem filter_emplaceAll
    (known : ∀ entry ∈ added, entry.1 ∈ table.entries.map Prod.fst → keep entry = false)
    (repeated : added.Pairwise fun first second => first.1 = second.1 → keep second = false) :
    (table.emplaceAll added).entries.filter keep =
      table.entries.filter keep ++ added.filter keep := by
  induction added generalizing table with
  | nil => rw [List.filter_nil, List.append_nil]; rfl
  | cons entry rest ih =>
      rw [List.pairwise_cons] at repeated
      have restKnown : ∀ other ∈ rest, other.1 ∈ (table.emplace entry).entries.map Prod.fst →
          keep other = false := by
        intro other mem key
        by_cases used : entry.1 ∈ table.entries.map Prod.fst
        · rw [entries_emplace_of_mem used] at key
          exact known other (List.mem_cons_of_mem _ mem) key
        · rw [entries_emplace_of_not_mem used, List.map_append, List.mem_append,
            List.map_singleton, List.mem_singleton] at key
          rcases key with old | same
          · exact known other (List.mem_cons_of_mem _ mem) old
          · exact repeated.1 other mem same.symm
      change ((table.emplace entry).emplaceAll rest).entries.filter keep = _
      rw [ih restKnown repeated.2]
      by_cases used : entry.1 ∈ table.entries.map Prod.fst
      · rw [entries_emplace_of_mem used,
          List.filter_cons_of_neg (by rw [known entry List.mem_cons_self used]; simp)]
      · rw [entries_emplace_of_not_mem used, List.filter_append, List.append_assoc,
          ← List.filter_append, List.singleton_append]

end HashTable

end VoxelEngine.Data
