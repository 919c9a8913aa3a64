import Mathlib.Data.List.Basic
import VoxelEngine.Transition.Loop

/-!
# Limiting the length of lines

A line is broken behind the last separator that fits, or after as many characters as are allowed
if there is none.  The search for separators begins one character too late, where a line behind it
is too long, and ends one too early, where the separator is the first character of the line.
-/

namespace VoxelEngine.Utility

open VoxelEngine.Transition

/-- Whether a line can be broken behind a position. -/
def isSeparatorAt (src separators : List Char) (i : Nat) : Bool :=
  src[i]?.any fun ch => decide (ch ∈ separators)

/-- The loop of `find_next_sep`, from some position down. -/
def searchBack (src separators : List Char) (current limit : Nat) : Nat → Nat
  | 0 => min limit src.length
  | i + 1 =>
      if current < i + 1 ∧ i + 1 < src.length then
        if isSeparatorAt src separators (i + 1) then i + 2
        else searchBack src separators current limit i
      else min limit src.length

/-- `find_next_sep` -/
def findNextSep (src separators : List Char) (current limit : Nat) : Nat :=
  searchBack src separators current limit limit

/-- The characters between two positions. -/
def stretch (src : List Char) (current next : Nat) : List Char :=
  (src.drop current).take (next - current)

/-- A round of the loop of `limit_line_length`: the result so far, and the position. -/
def limitRound (src : List Char) (maxLength : Nat) (separators : List Char) :
    List Char × Nat → Round (List Char × Nat) (List Char)
  | (result, current) =>
      if current < src.length then
        let next := findNextSep src separators current (current + maxLength)
        .again
          (result ++ stretch src current next ++ if next < src.length then ['\n'] else [], next)
      else .done result

/-- What the loop appends between two newlines that it inserts, from some position on. -/
inductive Stretches (src : List Char) (maxLength : Nat) (separators : List Char) :
    Nat → List (List Char) → Prop where
  | finish {current : Nat} (atEnd : src.length ≤ current) :
      Stretches src maxLength separators current []
  | line {current : Nat} {later : List (List Char)} (inside : current < src.length)
      (rest : Stretches src maxLength separators
        (findNextSep src separators current (current + maxLength)) later) :
      Stretches src maxLength separators current
        (stretch src current (findNextSep src separators current (current + maxLength)) :: later)

/-- The stretch ends in a separator, or it has the length that is allowed and no separator. -/
def Justified (maxLength : Nat) (separators piece : List Char) : Prop :=
  (∃ last, piece.getLast? = some last ∧ last ∈ separators) ∨
    piece.length = maxLength ∧ ∀ ch ∈ piece, ch ∉ separators

/-- No stretch is too long, and all but the last one are broken where they should be. -/
structure WellBroken (maxLength : Nat) (separators : List Char)
    (stretches : List (List Char)) : Prop where
  short : ∀ piece ∈ stretches, piece.length ≤ maxLength
  justified : ∀ piece ∈ stretches.dropLast, Justified maxLength separators piece

/-- `limit_line_length` returns the source with newlines inserted between stretches that are well
broken. -/
def LimitsLines (src : List Char) (maxLength : Nat) (separators : List Char) : Prop :=
  ∃ stretches, Stretches src maxLength separators 0 stretches ∧
    Returns (limitRound src maxLength separators) ([], 0) (['\n'].intercalate stretches) ∧
    stretches.flatten = src ∧ WellBroken maxLength separators stretches

/-- The position behind the last separator in a range, or the end of the range. -/
def LastBreak (src separators : List Char) (current limit next : Nat) : Prop :=
  (∃ i, current ≤ i ∧ i < limit ∧ isSeparatorAt src separators i = true ∧
      (∀ j, i < j → j < limit → isSeparatorAt src separators j = false) ∧ next = i + 1) ∨
    (∀ j, current ≤ j → j < limit → isSeparatorAt src separators j = false) ∧ next = limit

/-- The text from a position on fits on a line, or a full line is not followed by a separator and
is not broken behind its first character, and the same holds behind its last break. -/
inductive Breakable (src : List Char) (maxLength : Nat) (separators : List Char) :
    Nat → Prop where
  | fits {current : Nat} (short : src.length ≤ current + maxLength) :
      Breakable src maxLength separators current
  | line {current next : Nat} (long : current + maxLength < src.length)
      (notBehind : isSeparatorAt src separators (current + maxLength) = false)
      (lastBreak : LastBreak src separators current (current + maxLength) next)
      (notFirst : next = current + 1 → maxLength = 1)
      (rest : Breakable src maxLength separators next) :
      Breakable src maxLength separators current

/-! ## Searching backwards -/

section Search

variable {src separators : List Char} {current limit : Nat}

theorem findNextSep_of_ge (separators : List Char) (current : Nat) (beyond : src.length ≤ limit) :
    findNextSep src separators current limit = src.length := by
  rw [findNextSep]
  cases limit with
  | zero => rw [searchBack, Nat.min_eq_right beyond]
  | succ i =>
      rw [searchBack, if_neg, Nat.min_eq_right beyond]
      exact fun both => Nat.not_lt.mpr beyond both.2

/-- The last separator behind the first character and up to the limit is found. -/
theorem searchBack_spec (inside : limit < src.length) (start : Nat) (startLe : start ≤ limit)
    (passed : ∀ j, start < j → j ≤ limit → isSeparatorAt src separators j = false) :
    (∃ i, current < i ∧ i ≤ limit ∧ isSeparatorAt src separators i = true ∧
        (∀ j, i < j → j ≤ limit → isSeparatorAt src separators j = false) ∧
        searchBack src separators current limit start = i + 1) ∨
      (∀ j, current < j → j ≤ limit → isSeparatorAt src separators j = false) ∧
        searchBack src separators current limit start = limit := by
  induction start with
  | zero =>
      right
      constructor
      · exact fun j above => passed j (Nat.zero_lt_of_lt above)
      · rw [searchBack, Nat.min_eq_left (Nat.le_of_lt inside)]
  | succ start ih =>
      rw [searchBack]
      split
      · rename_i within
        cases separator : isSeparatorAt src separators (start + 1) with
        | true =>
            left
            exact ⟨start + 1, within.1, startLe, separator, passed, rfl⟩
        | false =>
            rw [if_neg Bool.false_ne_true]
            apply ih (Nat.le_of_succ_le startLe)
            intro j above le
            rcases Nat.lt_or_eq_of_le (Nat.succ_le_of_lt above) with later | same
            · exact passed j later le
            · rw [← same]
              exact separator
      · rename_i outside
        right
        constructor
        · intro j above le
          apply passed j _ le
          omega
        · exact Nat.min_eq_left (Nat.le_of_lt inside)

theorem findNextSep_spec (separators : List Char) (current : Nat) (inside : limit < src.length) :
    (∃ i, current < i ∧ i ≤ limit ∧ isSeparatorAt src separators i = true ∧
        (∀ j, i < j → j ≤ limit → isSeparatorAt src separators j = false) ∧
        findNextSep src separators current limit = i + 1) ∨
      (∀ j, current < j → j ≤ limit → isSeparatorAt src separators j = false) ∧
        findNextSep src separators current limit = limit := by
  apply searchBack_spec inside limit (Nat.le_refl limit)
  intro j above le
  exact absurd le (Nat.not_le.mpr above)

/-- The loop makes progress, and stays in the text. -/
theorem findNextSep_bounds (separators : List Char) {maxLength : Nat} (pos : 0 < maxLength)
    (inside : current < src.length) :
    current < findNextSep src separators current (current + maxLength) ∧
      findNextSep src separators current (current + maxLength) ≤ src.length := by
  by_cases more : current + maxLength < src.length
  · rcases findNextSep_spec separators current more with
      ⟨i, above, le, _, _, next_eq⟩ | ⟨_, next_eq⟩
    · omega
    · omega
  · rw [findNextSep_of_ge _ _ (Nat.not_lt.mp more)]
    exact ⟨inside, Nat.le_refl _⟩

end Search

/-! ## Stretches -/

section Stretches

variable {src separators : List Char} {maxLength current next : Nat} {stretches : List (List Char)}

theorem length_stretch (le : current ≤ next) (inside : next ≤ src.length) :
    (stretch src current next).length = next - current := by
  rw [stretch, List.length_take, List.length_drop]
  omega

theorem stretch_append_drop (le : current ≤ next) :
    stretch src current next ++ src.drop next = src.drop current := by
  have next_eq : next = current + (next - current) := by omega
  rw [stretch]
  nth_rewrite 2 [next_eq]
  rw [← List.drop_drop]
  exact List.take_append_drop _ _

theorem getElem?_stretch {j : Nat} (le : current ≤ j) (lt : j < next) :
    (stretch src current next)[j - current]? = src[j]? := by
  rw [stretch, List.getElem?_take_of_lt (by omega), List.getElem?_drop]
  congr 1
  omega

/-- The last character is the one before the next position. -/
theorem getLast?_stretch (lt : current < next) (inside : next ≤ src.length) :
    (stretch src current next).getLast? = src[next - 1]? := by
  rw [List.getLast?_eq_getElem?, length_stretch (Nat.le_of_lt lt) inside]
  have position : next - current - 1 = next - 1 - current := by omega
  rw [position]
  exact getElem?_stretch (by omega) (by omega)

theorem isSeparatorAt_eq_true_iff {i : Nat} :
    isSeparatorAt src separators i = true ↔ ∃ ch, src[i]? = some ch ∧ ch ∈ separators := by
  rw [isSeparatorAt]
  cases src[i]? with
  | none => simp
  | some ch => simp

/-- A stretch ends in a separator if there is one before the next position. -/
theorem ends_in_separator_iff (lt : current < next) (inside : next ≤ src.length) :
    (∃ last, (stretch src current next).getLast? = some last ∧ last ∈ separators) ↔
      isSeparatorAt src separators (next - 1) = true := by
  rw [getLast?_stretch lt inside, isSeparatorAt_eq_true_iff]

/-- A stretch has no separator if there is none at its positions. -/
theorem no_separator_iff :
    (∀ ch ∈ stretch src current next, ch ∉ separators) ↔
      ∀ j, current ≤ j → j < next → isSeparatorAt src separators j = false := by
  constructor
  · intro plain j le lt
    rw [Bool.eq_false_iff, ne_eq, isSeparatorAt_eq_true_iff]
    rintro ⟨ch, chEq, separator⟩
    rw [← getElem?_stretch le lt] at chEq
    exact plain ch (List.mem_of_getElem? chEq) separator
  · intro plain ch mem separator
    rcases List.getElem?_of_mem mem with ⟨k, kEq⟩
    have kLt : k < next - current := by
      have bound := (List.getElem?_eq_some_iff.mp kEq).1
      rw [stretch, List.length_take] at bound
      omega
    have found := @getElem?_stretch src current next (current + k) (Nat.le_add_right _ _) (by omega)
    rw [Nat.add_sub_cancel_left, kEq] at found
    have none := plain (current + k) (Nat.le_add_right _ _) (by omega)
    rw [Bool.eq_false_iff, ne_eq, isSeparatorAt_eq_true_iff] at none
    exact none ⟨ch, found.symm, separator⟩

/-- The loop cuts the text into stretches, ends, and returns them with newlines in between. -/
theorem exists_stretches (pos : 0 < maxLength) (src separators : List Char) (current : Nat) :
    ∃ stretches, Stretches src maxLength separators current stretches ∧
      (∀ result, Returns (limitRound src maxLength separators) (result, current)
        (result ++ ['\n'].intercalate stretches)) ∧
      stretches.flatten = src.drop current ∧ (stretches = [] ↔ src.length ≤ current) := by
  induction left_eq : src.length - current using Nat.strongRecOn generalizing current with
  | ind left ih =>
      by_cases inside : current < src.length
      · rcases findNextSep_bounds separators pos inside with ⟨above, bounded⟩
        rcases ih _ (by omega) (findNextSep src separators current (current + maxLength)) rfl with
          ⟨later, laterStretches, returns, flattened, last⟩
        refine ⟨_, Stretches.line inside laterStretches, ?_, ?_, ?_⟩
        · intro result
          have round : limitRound src maxLength separators (result, current) = .again
              (result ++ stretch src current
                  (findNextSep src separators current (current + maxLength)) ++
                (if findNextSep src separators current (current + maxLength) < src.length then
                  ['\n'] else []),
                findNextSep src separators current (current + maxLength)) := by
            rw [limitRound, if_pos inside]
          apply Returns.of_again round
          have joined := returns (result ++ stretch src current
              (findNextSep src separators current (current + maxLength)) ++
            (if findNextSep src separators current (current + maxLength) < src.length then
              ['\n'] else []))
          cases later with
          | nil =>
              rw [if_neg (Nat.not_lt.mpr (last.mp rfl))] at joined ⊢
              simpa using joined
          | cons second later =>
              have more : findNextSep src separators current (current + maxLength) <
                  src.length := by
                rw [← Nat.not_le, ← last]
                exact List.cons_ne_nil second later
              rw [if_pos more] at joined ⊢
              rw [List.intercalate_cons_cons]
              simpa using joined
        · rw [List.flatten_cons, flattened]
          exact stretch_append_drop (Nat.le_of_lt above)
        · apply iff_of_false (List.cons_ne_nil _ _)
          exact Nat.not_le.mpr inside
      · rw [Nat.not_lt] at inside
        refine ⟨[], Stretches.finish inside, ?_, ?_, iff_of_true rfl inside⟩
        · intro result
          rw [List.intercalate_nil, List.append_nil]
          apply returns_of_done
          rw [limitRound, if_neg (Nat.not_lt.mpr inside)]
        · rw [List.flatten_nil, List.drop_eq_nil_of_le inside]

theorem Stretches.unique {other : List (List Char)}
    (first : Stretches src maxLength separators current stretches)
    (second : Stretches src maxLength separators current other) : stretches = other := by
  induction first generalizing other with
  | finish atEnd =>
      cases second with
      | finish _ => rfl
      | line inside _ => exact absurd inside (Nat.not_lt.mpr atEnd)
  | line inside _ ih =>
      cases second with
      | finish atEnd => exact absurd inside (Nat.not_lt.mpr atEnd)
      | line _ rest => rw [ih rest]

theorem Stretches.ne_nil (cut : Stretches src maxLength separators current stretches)
    (inside : current < src.length) : stretches ≠ [] := by
  cases cut with
  | finish atEnd => exact absurd inside (Nat.not_lt.mpr atEnd)
  | line _ _ => exact List.cons_ne_nil _ _

/-- A full line that more text follows is broken as it should be exactly if no separator follows it
and it is broken behind its last separator, but not behind its first character. -/
theorem line_iff (pos : 0 < maxLength) (long : current + maxLength < src.length)
    (next_eq : findNextSep src separators current (current + maxLength) = next) :
    ((stretch src current next).length ≤ maxLength ∧
        Justified maxLength separators (stretch src current next)) ↔
      isSeparatorAt src separators (current + maxLength) = false ∧
        LastBreak src separators current (current + maxLength) next ∧
        (next = current + 1 → maxLength = 1) := by
  have inside : current < src.length := by omega
  have bounds := findNextSep_bounds separators pos inside
  rw [next_eq] at bounds
  have length_eq := length_stretch (Nat.le_of_lt bounds.1) bounds.2
  rw [length_eq, Justified, ends_in_separator_iff bounds.1 bounds.2, no_separator_iff, length_eq]
  rcases findNextSep_spec separators current long with
    ⟨i, above, le, separator, passed, found⟩ | ⟨passed, found⟩
  · rw [next_eq] at found
    rcases Nat.lt_or_eq_of_le le with before | same
    · apply iff_of_true
      · refine ⟨by omega, Or.inl ?_⟩
        rw [found, Nat.add_sub_cancel]
        exact separator
      · refine ⟨passed _ before (Nat.le_refl _), Or.inl ?_, by omega⟩
        exact ⟨i, Nat.le_of_lt above, before, separator,
          fun j later lt => passed j later (Nat.le_of_lt lt), found⟩
    -- The separator behind the full line makes the stretch one character too long.
    · apply iff_of_false
      · omega
      · rw [← same, separator]
        rintro ⟨⟨⟩, _⟩
  · rw [next_eq] at found
    have notBehind := passed (current + maxLength) (by omega) (Nat.le_refl _)
    cases first : isSeparatorAt src separators current with
    | false =>
        have plain : ∀ j, current ≤ j → j < current + maxLength →
            isSeparatorAt src separators j = false := by
          intro j le lt
          rcases Nat.lt_or_eq_of_le le with later | same
          · exact passed j later (Nat.le_of_lt lt)
          · rw [← same]
            exact first
        rw [found]
        apply iff_of_true
        · exact ⟨by omega, Or.inr ⟨by omega, plain⟩⟩
        · exact ⟨notBehind, Or.inr ⟨plain, rfl⟩, by omega⟩
    | true =>
        by_cases one : maxLength = 1
        · apply iff_of_true
          · refine ⟨by omega, Or.inl ?_⟩
            rw [found, one, Nat.add_sub_cancel]
            exact first
          · refine ⟨notBehind, Or.inl ?_, fun _ => one⟩
            exact ⟨current, Nat.le_refl _, by omega, first,
              fun j later lt => passed j later (Nat.le_of_lt lt), by omega⟩
        -- The only separator is the first character, which is not looked at.
        · have lastPlain := passed (next - 1) (by omega) (by omega)
          apply iff_of_false
          · rintro ⟨_, ends | ⟨_, plain⟩⟩
            · rw [lastPlain] at ends
              cases ends
            · rw [plain current (Nat.le_refl _) bounds.1] at first
              cases first
          · rintro ⟨_, ⟨i, _, _, separator, _, behind⟩ | ⟨plain, _⟩, _⟩
            · rw [behind, Nat.add_sub_cancel, separator] at lastPlain
              cases lastPlain
            · rw [plain current (Nat.le_refl _) (by omega)] at first
              cases first

/-- Where a line should be broken is where the loop breaks it. -/
theorem findNextSep_eq_of_lastBreak (long : current + maxLength < src.length)
    (notBehind : isSeparatorAt src separators (current + maxLength) = false)
    (lastBreak : LastBreak src separators current (current + maxLength) next)
    (notFirst : next = current + 1 → maxLength = 1) :
    findNextSep src separators current (current + maxLength) = next := by
  rcases findNextSep_spec separators current long with
    ⟨i, above, le, separator, passed, found⟩ | ⟨passed, found⟩
  · have different : i ≠ current + maxLength := by
      rintro rfl
      rw [separator] at notBehind
      cases notBehind
    rcases lastBreak with ⟨k, kLe, kLt, kSeparator, kPassed, next_eq⟩ | ⟨plain, _⟩
    · rcases Nat.lt_trichotomy i k with before | same | behind
      · rw [passed k before (Nat.le_of_lt kLt)] at kSeparator
        cases kSeparator
      · rw [found, next_eq, same]
      · rw [kPassed i behind (by omega)] at separator
        cases separator
    · rw [plain i (Nat.le_of_lt above) (by omega)] at separator
      cases separator
  · rcases lastBreak with ⟨k, kLe, kLt, kSeparator, _, next_eq⟩ | ⟨_, next_eq⟩
    · rcases Nat.lt_or_eq_of_le kLe with later | same
      · rw [passed k later (Nat.le_of_lt kLt)] at kSeparator
        cases kSeparator
      · have one := notFirst (by omega)
        omega
    · rw [found, next_eq]

theorem wellBroken_cons_iff (piece : List Char) (later : List (List Char)) :
    WellBroken maxLength separators (piece :: later) ↔
      (piece.length ≤ maxLength ∧ (later ≠ [] → Justified maxLength separators piece)) ∧
        WellBroken maxLength separators later := by
  cases later with
  | nil =>
      constructor
      · intro well
        refine ⟨⟨well.short piece List.mem_cons_self, fun some => absurd rfl some⟩, ?_, ?_⟩
        · rintro _ ⟨⟩
        · rintro _ ⟨⟩
      · rintro ⟨⟨short, _⟩, _⟩
        constructor
        · intro other mem
          rw [List.mem_singleton.mp mem]
          exact short
        · rintro _ ⟨⟩
  | cons second later =>
      constructor
      · intro well
        have short := List.forall_mem_cons.mp well.short
        have justified := well.justified
        rw [List.dropLast_cons_cons, List.forall_mem_cons] at justified
        exact ⟨⟨short.1, fun _ => justified.1⟩, short.2, justified.2⟩
      · rintro ⟨⟨short, justified⟩, well⟩
        constructor
        · exact List.forall_mem_cons.mpr ⟨short, well.short⟩
        · rw [List.dropLast_cons_cons, List.forall_mem_cons]
          exact ⟨justified (List.cons_ne_nil second later), well.justified⟩

/-- The stretches are well broken exactly if the text is breakable. -/
theorem Stretches.wellBroken_iff (pos : 0 < maxLength)
    (cut : Stretches src maxLength separators current stretches) :
    WellBroken maxLength separators stretches ↔ Breakable src maxLength separators current := by
  induction cut with
  | finish atEnd =>
      apply iff_of_true
      · constructor
        · rintro _ ⟨⟩
        · rintro _ ⟨⟩
      · exact Breakable.fits (Nat.le_add_right_of_le atEnd)
  | @line current later inside rest ih =>
      have bounds := findNextSep_bounds separators pos inside
      rw [wellBroken_cons_iff, ih]
      by_cases long : current + maxLength < src.length
      · have exactly := line_iff pos long
          (rfl : findNextSep src separators current (current + maxLength) = _)
        constructor
        · rintro ⟨⟨short, justified⟩, breakable⟩
          have more := short
          rw [length_stretch (Nat.le_of_lt bounds.1) bounds.2] at more
          have continues := rest.ne_nil (by omega)
          rcases exactly.mp ⟨short, justified continues⟩ with ⟨notBehind, lastBreak, notFirst⟩
          exact Breakable.line long notBehind lastBreak notFirst breakable
        · intro breakable
          cases breakable with
          | fits short => exact absurd long (Nat.not_lt.mpr short)
          | line _ notBehind lastBreak notFirst breakable =>
              have next_eq := findNextSep_eq_of_lastBreak long notBehind lastBreak notFirst
              rw [← next_eq] at lastBreak notFirst breakable
              rcases exactly.mpr ⟨notBehind, lastBreak, notFirst⟩ with ⟨short, justified⟩
              exact ⟨⟨short, fun _ => justified⟩, breakable⟩
      · rw [Nat.not_lt] at long
        have last := findNextSep_of_ge separators current long
        apply iff_of_true _ (Breakable.fits long)
        rw [length_stretch (Nat.le_of_lt bounds.1) bounds.2]
        rw [last] at rest ⊢
        refine ⟨⟨by omega, ?_⟩, Breakable.fits (Nat.le_add_right _ _)⟩
        intro continues
        cases rest with
        | finish _ => exact absurd rfl continues
        | line beyond _ => exact absurd beyond (Nat.lt_irrefl _)

end Stretches

/-- Lines are limited as they should be exactly if no full line is followed by a separator or has
its only separator at its front. -/
theorem limitsLines_iff (src : List Char) (maxLength : Nat) (separators : List Char)
    (pos : 0 < maxLength) :
    LimitsLines src maxLength separators ↔ Breakable src maxLength separators 0 := by
  rcases exists_stretches pos src separators 0 with ⟨stretches, cut, returns, flattened, _⟩
  rw [← cut.wellBroken_iff pos]
  constructor
  · rintro ⟨other, otherCut, _, _, well⟩
    rw [cut.unique otherCut]
    exact well
  · intro well
    have whole := returns []
    rw [List.nil_append] at whole
    exact ⟨stretches, cut, whole, flattened, well⟩

/-- Two words are broken behind the space between them. -/
theorem limitsLines_words : LimitsLines ['a', ' ', 'b'] 2 [' '] := by
  have breakable : Breakable ['a', ' ', 'b'] 2 [' '] 0 := by
    apply @Breakable.line _ _ _ 0 2
    · decide
    · decide
    · exact Or.inl ⟨1, by decide, by decide, by decide, by omega, rfl⟩
    · decide
    · exact Breakable.fits (by decide)
  exact (limitsLines_iff ['a', ' ', 'b'] 2 [' '] (by decide)).mpr breakable

/-- The space behind two letters makes the line too long. -/
theorem not_limitsLines_space : ¬LimitsLines ['a', 'b', ' ', 'c'] 2 [' '] := by
  rintro ⟨stretches, cut, _, _, well⟩
  cases cut with
  | finish atEnd => exact absurd atEnd (by decide)
  | line _ _ =>
      have short := well.short _ List.mem_cons_self
      revert short
      decide

end VoxelEngine.Utility
