import Mathlib.Data.List.Basic

/-!
# Counting loops over machine words

Loops over an unsigned counter that stop at a bound, or as soon as their body is done.  A
loop up to and including the greatest number does not stop by itself, because its counter
starts again from zero.
-/

namespace VoxelEngine.Data

universe u

/-- How a search ends. -/
inductive Scan (α : Type u) where
  | found (value : α)
  | exhausted
  | endless
  deriving DecidableEq

/-- The counters of a loop `for (i = first; i < stop; ++i)`. -/
def counters (first stop : UInt32) : List UInt32 :=
  (List.range (stop.toNat - first.toNat)).map fun passed => first + UInt32.ofNat passed

@[simp]
theorem mem_counters_iff {first stop index : UInt32} :
    index ∈ counters first stop ↔ first.toNat ≤ index.toNat ∧ index.toNat < stop.toNat := by
  have stop_lt := stop.toNat_lt
  have index_lt := index.toNat_lt
  simp only [counters, List.mem_map, List.mem_range]
  constructor
  · rintro ⟨passed, passed_lt, rfl⟩
    rw [UInt32.toNat_add, UInt32.toNat_ofNat']
    omega
  · rintro ⟨first_le, index_lt_stop⟩
    refine ⟨index.toNat - first.toNat, by omega, ?_⟩
    apply UInt32.toNat_inj.mp
    rw [UInt32.toNat_add, UInt32.toNat_ofNat']
    omega

variable {α : Type u}

/-- So many rounds of a search, and how it ends after them. -/
def scanFrom (body : UInt32 → Scan α) (afterwards : Scan α) : Nat → UInt32 → Scan α
  | 0, _ => afterwards
  | rounds + 1, index =>
      match body index with
      | .exhausted => scanFrom body afterwards rounds (index + 1)
      | ended => ended

/-- The search `for (i = 0; i <= last; ++i)`. -/
def scan (last : UInt32) (body : UInt32 → Scan α) : Scan α :=
  scanFrom body (if last.toNat + 1 = UInt32.size then .endless else .exhausted)
    (last.toNat + 1) 0

/-- What a search comes to, if its rounds come to an end. -/
theorem scanFrom_spec {body : UInt32 → Scan α} (returns : ∀ index, body index ≠ .endless)
    (rounds : Nat) (first : UInt32) :
    (∃ passed < rounds, ∃ value, body (first + UInt32.ofNat passed) = .found value ∧
        scanFrom body .exhausted rounds first = .found value) ∨
      (∀ passed < rounds, body (first + UInt32.ofNat passed) = .exhausted) ∧
        scanFrom body .exhausted rounds first = .exhausted := by
  induction rounds generalizing first with
  | zero => exact Or.inr ⟨fun _ none => absurd none (Nat.not_lt_zero _), rfl⟩
  | succ rounds ih =>
      have shift : ∀ passed : Nat,
          first + 1 + UInt32.ofNat passed = first + UInt32.ofNat (passed + 1) := by
        intro passed
        rw [UInt32.ofNat_add, UInt32.add_assoc, UInt32.add_comm 1]
        rfl
      have start : first + UInt32.ofNat 0 = first := UInt32.add_zero first
      cases bodyEq : body first with
      | endless => exact absurd bodyEq (returns first)
      | found value =>
          apply Or.inl
          refine ⟨0, Nat.succ_pos _, value, start.symm ▸ bodyEq, ?_⟩
          rw [scanFrom, bodyEq]
      | exhausted =>
          have scanEq : scanFrom body .exhausted (rounds + 1) first =
              scanFrom body .exhausted rounds (first + 1) := by
            rw [scanFrom, bodyEq]
          rw [scanEq]
          rcases ih (first + 1) with ⟨passed, passed_lt, value, foundEq, restEq⟩ | ⟨none, restEq⟩
          · exact Or.inl ⟨passed + 1, Nat.succ_lt_succ passed_lt, value, shift passed ▸ foundEq,
              restEq⟩
          · refine Or.inr ⟨?_, restEq⟩
            intro passed passed_lt
            cases passed with
            | zero => exact start.symm ▸ bodyEq
            | succ before => exact shift before ▸ none before (Nat.lt_of_succ_lt_succ passed_lt)

/-- A search below the greatest number finds something in one of its rounds, or ends
without having found anything in any of them. -/
theorem scan_spec (body : UInt32 → Scan α) {last : UInt32}
    (returns : ∀ index, body index ≠ .endless) (bounded : last.toNat + 1 < UInt32.size) :
    (∃ index value, index.toNat ≤ last.toNat ∧ body index = .found value ∧
        scan last body = .found value) ∨
      (∀ index : UInt32, index.toNat ≤ last.toNat → body index = .exhausted) ∧
        scan last body = .exhausted := by
  rw [scan, if_neg (Nat.ne_of_lt bounded)]
  have start : ∀ passed : Nat, (0 : UInt32) + UInt32.ofNat passed = UInt32.ofNat passed :=
    fun passed => UInt32.zero_add _
  rcases scanFrom_spec returns (last.toNat + 1) 0 with
    ⟨passed, passed_lt, value, foundEq, scanEq⟩ | ⟨none, scanEq⟩
  · rw [start] at foundEq
    refine Or.inl ⟨UInt32.ofNat passed, value, ?_, foundEq, scanEq⟩
    rw [UInt32.toNat_ofNat']
    exact Nat.le_trans (Nat.mod_le _ _) (Nat.le_of_lt_succ passed_lt)
  · refine Or.inr ⟨?_, scanEq⟩
    intro index index_le
    have here := none index.toNat (Nat.lt_succ_of_le index_le)
    rw [start, UInt32.ofNat_toNat] at here
    exact here

end VoxelEngine.Data
