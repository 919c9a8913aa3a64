import Mathlib.Data.List.Basic
import VoxelEngine.Transition.Loop

/-!
# Splitting at and replacing substrings

Both loops cut what they have dealt with off the front of the text that is left.  They end because
something is cut off in each round, unless they look for the empty string.
-/

namespace VoxelEngine.Utility

open VoxelEngine.Transition

/-- `std::string_view::find` -/
def find (delimiter : List Char) : List Char → Option Nat
  | [] => if delimiter = [] then some 0 else none
  | first :: rest =>
      if delimiter.isPrefixOf (first :: rest) then some 0 else (find delimiter rest).map (· + 1)

/-- A round of the loop of `split`: the parts so far, and the text that is left. -/
def splitRound (delimiter : List Char) :
    List (List Char) × List Char → Round (List (List Char) × List Char) (List (List Char))
  | (result, source) =>
      match find delimiter source with
      | some pos =>
          .again (result ++ [source.take (pos + delimiter.length)],
            source.drop (pos + delimiter.length))
      | none => .done (if result = [] then result else result ++ [source])

/-- A round of the loop of `replace_substring`: the result so far, and the text that is left. -/
def replaceRound (find replaceWith : List Char) :
    List Char × List Char → Round (List Char × List Char) (List Char)
  | (result, []) => .done result
  | (result, first :: rest) =>
      if find.isPrefixOf (first :: rest) then
        .again (result ++ replaceWith, (first :: rest).drop find.length)
      else .again (result ++ [first], rest)

/-- `split` returns parts that make up the source, and all but the last one end in the
delimiter. -/
def SplitsLosslessly (source delimiter : List Char) : Prop :=
  ∃ parts, Returns (splitRound delimiter) ([], source) parts ∧ parts.flatten = source ∧
    ∀ part ∈ parts.dropLast, delimiter <:+ part

/-- A string occurs in a text, beginning at some character of it. -/
def OccursAt (find source : List Char) (pos : Nat) : Prop :=
  pos < source.length ∧ find <+: source.drop pos

/-- The leftmost occurrence is replaced, and then the occurrences behind it. -/
inductive Replaced (find replaceWith : List Char) : List Char → List Char → Prop where
  | finish {source : List Char} (none : ∀ pos, ¬OccursAt find source pos) :
      Replaced find replaceWith source source
  | next {source result : List Char} {pos : Nat} (occurs : OccursAt find source pos)
      (leftmost : ∀ earlier, earlier < pos → ¬OccursAt find source earlier)
      (behind : Replaced find replaceWith (source.drop (pos + find.length)) result) :
      Replaced find replaceWith source (source.take pos ++ replaceWith ++ result)

/-- `replace_substring` returns the text with just its leftmost occurrences replaced. -/
def ReplacesLeftmost (source find replaceWith : List Char) : Prop :=
  ∃ result, Returns (replaceRound find replaceWith) ([], source) result ∧
    Replaced find replaceWith source result

/-! ## Splitting -/

section Split

variable {delimiter source : List Char}

/-- A position is found where the delimiter occurs. -/
theorem prefix_drop_of_find {pos : Nat} (found : find delimiter source = some pos) :
    delimiter <+: source.drop pos := by
  induction source generalizing pos with
  | nil =>
      rw [find] at found
      split at found
      · rename_i empty
        rw [empty]
        exact List.nil_prefix
      · cases found
  | cons first rest ih =>
      rw [find] at found
      split at found
      · rename_i here
        rw [← Option.some.inj found]
        exact List.isPrefixOf_iff_prefix.mp here
      · rcases Option.map_eq_some_iff.mp found with ⟨before, restFound, rfl⟩
        exact ih restFound

theorem infix_of_find {pos : Nat} (found : find delimiter source = some pos) :
    delimiter <:+: source :=
  (prefix_drop_of_find found).isInfix.trans (List.drop_suffix pos source).isInfix

@[simp]
theorem find_eq_none_iff : find delimiter source = none ↔ ¬delimiter <:+: source := by
  induction source with
  | nil =>
      rw [find, List.infix_nil]
      split <;> simp [*]
  | cons first rest ih =>
      rw [find, List.infix_cons_iff, not_or, ← ih, ← List.isPrefixOf_iff_prefix]
      split <;> simp [*]

/-- The part that is cut off ends in the delimiter. -/
theorem suffix_take_of_find {pos : Nat} (found : find delimiter source = some pos) :
    delimiter <:+ source.take (pos + delimiter.length) := by
  rw [List.take_add, ← List.prefix_iff_eq_take.mp (prefix_drop_of_find found)]
  exact List.suffix_append _ delimiter

theorem length_drop_lt_of_find (nonempty : delimiter ≠ []) {pos : Nat}
    (found : find delimiter source = some pos) :
    (source.drop (pos + delimiter.length)).length < source.length := by
  have fits := (prefix_drop_of_find found).length_le
  have pos_length := List.length_pos_iff.mpr nonempty
  rw [List.length_drop] at fits ⊢
  omega

/-- Once there is a part, no text is lost. -/
theorem split_spec (nonempty : delimiter ≠ []) {result : List (List Char)}
    (started : result ≠ []) (source : List Char) :
    ∃ more, Returns (splitRound delimiter) (result, source) (result ++ more) ∧
      more.flatten = source ∧ more ≠ [] ∧ ∀ part ∈ more.dropLast, delimiter <:+ part := by
  induction size_eq : source.length using Nat.strongRecOn generalizing source result with
  | ind size ih =>
      cases found : find delimiter source with
      | none =>
          have round : splitRound delimiter (result, source) = .done (result ++ [source]) := by
            rw [splitRound, found]
            simp only [if_neg started]
          refine ⟨[source], returns_of_done round, ?_, List.cons_ne_nil source [], ?_⟩
          · exact List.flatten_singleton
          · intro part mem
            cases mem
      | some pos =>
          have round : splitRound delimiter (result, source) =
              .again (result ++ [source.take (pos + delimiter.length)],
                source.drop (pos + delimiter.length)) := by
            rw [splitRound, found]
          have shorter := length_drop_lt_of_find nonempty found
          rw [size_eq] at shorter
          have startedStill : result ++ [source.take (pos + delimiter.length)] ≠ [] :=
            List.append_ne_nil_of_right_ne_nil result (List.cons_ne_nil _ [])
          rcases ih _ shorter startedStill _ rfl with ⟨more, returns, flattened, moreNonempty, ends⟩
          rw [List.append_assoc, List.singleton_append] at returns
          refine ⟨_, returns.of_again round, ?_, List.cons_ne_nil _ more, ?_⟩
          · rw [List.flatten_cons, flattened, List.take_append_drop]
          · rw [List.dropLast_cons_of_ne_nil moreNonempty, List.forall_mem_cons]
            exact ⟨suffix_take_of_find found, ends⟩

theorem not_ends_split (source : List Char) (result : List (List Char)) :
    ¬Ends (splitRound []) (result, source) := by
  apply not_ends_of_invariant fun _ => True
  · rintro ⟨result, source⟩ _
    have found : find [] source = some 0 := by
      cases source <;> rfl
    exact ⟨_, by rw [splitRound, found], trivial⟩
  · trivial

theorem splitsLosslessly_iff (source delimiter : List Char) :
    SplitsLosslessly source delimiter ↔
      delimiter ≠ [] ∧ (delimiter <:+: source ∨ source = []) := by
  constructor
  · rintro ⟨parts, returns, flattened, _⟩
    have nonempty : delimiter ≠ [] := by
      rintro rfl
      exact not_ends_split source [] returns.ends
    refine ⟨nonempty, ?_⟩
    cases found : find delimiter source with
    | some pos => exact Or.inl (infix_of_find found)
    | none =>
        have round : splitRound delimiter ([], source) = .done [] := by
          rw [splitRound, found]
          rfl
        rw [returns.unique (returns_of_done round)] at flattened
        exact Or.inr flattened.symm
  · rintro ⟨nonempty, occurs⟩
    cases found : find delimiter source with
    | none =>
        have round : splitRound delimiter ([], source) = .done [] := by
          rw [splitRound, found]
          rfl
        have source_eq : source = [] := occurs.resolve_left (find_eq_none_iff.mp found)
        refine ⟨[], returns_of_done round, source_eq.symm, ?_⟩
        intro part mem
        cases mem
    | some pos =>
        have round : splitRound delimiter ([], source) =
            .again ([source.take (pos + delimiter.length)],
              source.drop (pos + delimiter.length)) := by
          rw [splitRound, found]
          rfl
        rcases split_spec nonempty (List.cons_ne_nil (source.take (pos + delimiter.length)) [])
          (source.drop (pos + delimiter.length)) with ⟨more, returns, flattened, moreNonempty, ends⟩
        refine ⟨_, returns.of_again round, ?_, ?_⟩
        · rw [List.singleton_append, List.flatten_cons, flattened, List.take_append_drop]
        · rw [List.singleton_append, List.dropLast_cons_of_ne_nil moreNonempty,
            List.forall_mem_cons]
          exact ⟨suffix_take_of_find found, ends⟩

end Split

/-! ## Replacing -/

section Replace

variable {find replaceWith source result : List Char}

theorem not_occursAt_nil (pos : Nat) : ¬OccursAt find [] pos :=
  fun occurs => Nat.not_lt_zero pos occurs.1

theorem occursAt_zero_iff (first : Char) (rest : List Char) :
    OccursAt find (first :: rest) 0 ↔ find.isPrefixOf (first :: rest) = true := by
  rw [OccursAt, List.isPrefixOf_iff_prefix, List.drop_zero]
  exact and_iff_right (Nat.succ_pos rest.length)

theorem occursAt_succ_iff (first : Char) (rest : List Char) (pos : Nat) :
    OccursAt find (first :: rest) (pos + 1) ↔ OccursAt find rest pos := by
  rw [OccursAt, OccursAt, List.length_cons, List.drop_succ_cons, Nat.succ_lt_succ_iff]

/-- A character at which no occurrence begins is kept. -/
theorem Replaced.keep {first : Char} {rest : List Char}
    (noneHere : ¬OccursAt find (first :: rest) 0) (behind : Replaced find replaceWith rest result) :
    Replaced find replaceWith (first :: rest) (first :: result) := by
  cases behind with
  | finish none =>
      apply Replaced.finish
      intro pos
      cases pos with
      | zero => exact noneHere
      | succ pos =>
          rw [occursAt_succ_iff]
          exact none pos
  | @next _ result pos occurs leftmost behind =>
      have shifted : (first :: rest).drop (pos + 1 + find.length) =
          rest.drop (pos + find.length) := by
        rw [Nat.add_right_comm, List.drop_succ_cons]
      apply @Replaced.next find replaceWith (first :: rest) result (pos + 1)
      · rw [occursAt_succ_iff]
        exact occurs
      · intro earlier before
        cases earlier with
        | zero => exact noneHere
        | succ earlier =>
            rw [occursAt_succ_iff]
            exact leftmost earlier (Nat.lt_of_succ_lt_succ before)
      · rw [shifted]
        exact behind

/-- An occurrence at the front is replaced. -/
theorem Replaced.replace (here : OccursAt find source 0)
    (behind : Replaced find replaceWith (source.drop find.length) result) :
    Replaced find replaceWith source (replaceWith ++ result) := by
  apply @Replaced.next find replaceWith source result 0 here
  · exact fun earlier before => absurd before (Nat.not_lt_zero earlier)
  · rw [Nat.zero_add]
    exact behind

theorem replace_spec (nonempty : find ≠ []) (result source : List Char) :
    ∃ more, Returns (replaceRound find replaceWith) (result, source) (result ++ more) ∧
      Replaced find replaceWith source more := by
  induction size_eq : source.length using Nat.strongRecOn generalizing source result with
  | ind size ih =>
      cases source with
      | nil =>
          refine ⟨[], ?_, Replaced.finish not_occursAt_nil⟩
          rw [List.append_nil]
          exact returns_of_done rfl
      | cons first rest =>
          by_cases here : find.isPrefixOf (first :: rest) = true
          · have round : replaceRound find replaceWith (result, first :: rest) =
                .again (result ++ replaceWith, (first :: rest).drop find.length) := by
              rw [replaceRound, if_pos here]
            have shorter : ((first :: rest).drop find.length).length < size := by
              have pos := List.length_pos_iff.mpr nonempty
              rw [List.length_drop, size_eq]
              rw [List.length_cons] at size_eq
              omega
            rcases ih _ shorter (result ++ replaceWith) _ rfl with ⟨more, returns, replaced⟩
            rw [List.append_assoc] at returns
            have occurs := (occursAt_zero_iff first rest).mpr here
            exact ⟨_, returns.of_again round, Replaced.replace occurs replaced⟩
          · have round : replaceRound find replaceWith (result, first :: rest) =
                .again (result ++ [first], rest) := by
              rw [replaceRound, if_neg here]
            have shorter : rest.length < size := by
              rw [← size_eq, List.length_cons]
              exact Nat.lt_succ_self rest.length
            rcases ih _ shorter (result ++ [first]) _ rfl with ⟨more, returns, replaced⟩
            rw [List.append_assoc, List.singleton_append] at returns
            have noneHere : ¬OccursAt find (first :: rest) 0 := by
              rw [occursAt_zero_iff]
              exact here
            exact ⟨_, returns.of_again round, Replaced.keep noneHere replaced⟩

theorem not_ends_replace (replaceWith result : List Char) {source : List Char}
    (nonempty : source ≠ []) : ¬Ends (replaceRound [] replaceWith) (result, source) := by
  apply not_ends_of_invariant fun state => state.2 ≠ []
  · rintro ⟨result, source⟩ sourceNonempty
    rcases List.exists_cons_of_ne_nil sourceNonempty with ⟨first, rest, rfl⟩
    exact ⟨(result ++ replaceWith, first :: rest), rfl, sourceNonempty⟩
  · exact nonempty

theorem replacesLeftmost_iff (source find replaceWith : List Char) :
    ReplacesLeftmost source find replaceWith ↔ find ≠ [] ∨ source = [] := by
  constructor
  · rintro ⟨result, returns, _⟩
    by_cases empty : find = []
    · right
      rw [empty] at returns
      by_contra nonempty
      exact not_ends_replace replaceWith [] nonempty returns.ends
    · exact Or.inl empty
  · rintro (nonempty | rfl)
    · exact replace_spec nonempty [] source
    · exact ⟨[], returns_of_done rfl, Replaced.finish not_occursAt_nil⟩

end Replace

/-- Splitting loses no text exactly if the delimiter is not empty and occurs, or there is no text;
replacing replaces just the leftmost occurrences exactly if it does not look for the empty string,
or there is no text. -/
theorem substrings_iff (source delimiter find replaceWith : List Char) :
    (SplitsLosslessly source delimiter ↔
        delimiter ≠ [] ∧ (delimiter <:+: source ∨ source = [])) ∧
      (ReplacesLeftmost source find replaceWith ↔ find ≠ [] ∨ source = []) := by
  constructor
  · exact splitsLosslessly_iff source delimiter
  · exact replacesLeftmost_iff source find replaceWith

/-- A line without an end is lost when text is split into lines. -/
theorem not_splitsLosslessly_line :
    Returns (splitRound ['\n']) ([], ['a']) [] ∧ ¬SplitsLosslessly ['a'] ['\n'] := by
  constructor
  · exact returns_of_done rfl
  · rw [splitsLosslessly_iff]
    decide

end VoxelEngine.Utility
