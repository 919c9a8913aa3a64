import Mathlib.Data.List.Basic

/-!
# Escaping characters

Escaping puts a backslash in front of each character of a set.  Unescaping takes out each
backslash in front of such a character, also one that was itself unescaped just before.
-/

namespace VoxelEngine.Utility

/-- The character that escapes others. -/
def backslash : Char :=
  '\\'

/-- `escape_chars` -/
def escapeChars (str chars : List Char) : List Char :=
  str.flatMap fun ch => if ch ∈ chars then [backslash, ch] else [ch]

/-- `unescape_chars` -/
def unescapeChars : List Char → List Char → List Char
  | [], _ => []
  | ch :: rest, chars =>
      if ch = backslash ∧ rest.head?.any (fun next => decide (next ∈ chars)) = true then
        unescapeChars rest chars
      else ch :: unescapeChars rest chars

/-- No backslash is directly followed by a character of the set. -/
def NothingEscaped (str chars : List Char) : Prop :=
  ∀ next ∈ chars, ¬[backslash, next] <:+: str

variable {str chars : List Char} {ch next : Char}

theorem escapeChars_cons_of_mem (special : ch ∈ chars) (rest : List Char) :
    escapeChars (ch :: rest) chars = backslash :: ch :: escapeChars rest chars := by
  rw [escapeChars, List.flatMap_cons, if_pos special]
  rfl

theorem escapeChars_cons_of_not_mem (plain : ch ∉ chars) (rest : List Char) :
    escapeChars (ch :: rest) chars = ch :: escapeChars rest chars := by
  rw [escapeChars, List.flatMap_cons, if_neg plain]
  rfl

/-- A backslash in front of a character of the set is taken out. -/
theorem unescapeChars_backslash (special : next ∈ chars) (rest : List Char) :
    unescapeChars (backslash :: next :: rest) chars = unescapeChars (next :: rest) chars := by
  rw [unescapeChars, if_pos]
  exact ⟨rfl, decide_eq_true special⟩

theorem unescapeChars_cons_of_ne (different : ch ≠ backslash) (rest : List Char) :
    unescapeChars (ch :: rest) chars = ch :: unescapeChars rest chars := by
  rw [unescapeChars, if_neg]
  exact fun both => different both.1

theorem any_head?_eq_true_iff {rest : List Char} :
    rest.head?.any (fun next => decide (next ∈ chars)) = true ↔
      ∃ next ∈ chars, ∃ tail, rest = next :: tail := by
  cases rest with
  | nil => simp
  | cons next tail =>
      rw [List.head?_cons, Option.any_some, decide_eq_true_eq]
      constructor
      · exact fun special => ⟨next, special, tail, rfl⟩
      · rintro ⟨other, special, _, equal⟩
        rw [(List.cons.inj equal).1]
        exact special

theorem unescapeChars_cons_of_head? {rest : List Char}
    (plain : ∀ next, rest.head? = some next → next ∉ chars) (ch : Char) :
    unescapeChars (ch :: rest) chars = ch :: unescapeChars rest chars := by
  rw [unescapeChars, if_neg]
  rintro ⟨_, escaped⟩
  rcases any_head?_eq_true_iff.mp escaped with ⟨next, special, tail, rfl⟩
  exact plain next rfl special

theorem head?_escapeChars (str chars : List Char) :
    (escapeChars str chars).head? =
      str.head?.map fun ch => if ch ∈ chars then backslash else ch := by
  cases str with
  | nil => rfl
  | cons ch rest =>
      by_cases special : ch ∈ chars
      · rw [escapeChars_cons_of_mem special, List.head?_cons, List.head?_cons, Option.map_some,
          if_pos special]
      · rw [escapeChars_cons_of_not_mem special, List.head?_cons, List.head?_cons, Option.map_some,
          if_neg special]

/-- If the backslash is not escaped itself, unescaping undoes escaping. -/
theorem unescapeChars_escapeChars_of_not_mem (plain : backslash ∉ chars) (str : List Char) :
    unescapeChars (escapeChars str chars) chars = str := by
  induction str with
  | nil => rfl
  | cons ch rest ih =>
      by_cases special : ch ∈ chars
      · have different : ch ≠ backslash := by
          rintro rfl
          exact plain special
        rw [escapeChars_cons_of_mem special, unescapeChars_backslash special,
          unescapeChars_cons_of_ne different, ih]
      · have headPlain : ∀ next, (escapeChars rest chars).head? = some next → next ∉ chars := by
          intro next head
          rw [head?_escapeChars] at head
          rcases Option.map_eq_some_iff.mp head with ⟨first, _, rfl⟩
          split
          · exact plain
          · assumption
        rw [escapeChars_cons_of_not_mem special, unescapeChars_cons_of_head? headPlain, ih]

/-- If the backslash is escaped itself, escaping makes no difference to unescaping. -/
theorem unescapeChars_escapeChars_of_mem (special : backslash ∈ chars) (str : List Char) :
    unescapeChars (escapeChars str chars) chars = unescapeChars str chars := by
  induction str with
  | nil => rfl
  | cons ch rest ih =>
      by_cases isSpecial : ch ∈ chars
      · rw [escapeChars_cons_of_mem isSpecial, unescapeChars_backslash isSpecial]
        -- The backslash of the source is kept or taken out as if it had not been escaped.
        have sameHead : ((escapeChars rest chars).head?.any fun next => decide (next ∈ chars)) =
            rest.head?.any fun next => decide (next ∈ chars) := by
          rw [head?_escapeChars]
          cases rest.head? with
          | none => rfl
          | some next =>
              rw [Option.map_some, Option.any_some, Option.any_some]
              split
              · rename_i nextSpecial
                rw [decide_eq_true special, decide_eq_true nextSpecial]
              · rfl
        rw [unescapeChars, unescapeChars, sameHead, ih]
      · have different : ch ≠ backslash := by
          rintro rfl
          exact isSpecial special
        rw [escapeChars_cons_of_not_mem isSpecial, unescapeChars_cons_of_ne different,
          unescapeChars_cons_of_ne different, ih]

theorem length_unescapeChars_le (str chars : List Char) :
    (unescapeChars str chars).length ≤ str.length := by
  induction str with
  | nil => exact Nat.le_refl 0
  | cons ch rest ih =>
      rw [unescapeChars]
      split
      · exact Nat.le_succ_of_le ih
      · exact Nat.succ_le_succ ih

theorem nothingEscaped_cons_iff (ch : Char) (rest : List Char) :
    NothingEscaped (ch :: rest) chars ↔
      ¬(ch = backslash ∧ rest.head?.any (fun next => decide (next ∈ chars)) = true) ∧
        NothingEscaped rest chars := by
  simp only [NothingEscaped, List.infix_cons_iff, not_or, forall_and]
  apply and_congr_left
  intro _
  constructor
  · rintro none ⟨rfl, special⟩
    rcases any_head?_eq_true_iff.mp special with ⟨next, mem, tail, rfl⟩
    exact none next mem ⟨tail, rfl⟩
  · rintro none next special ⟨tail, equal⟩
    rw [List.cons_append, List.cons.injEq] at equal
    rcases equal with ⟨rfl, rfl⟩
    exact none ⟨rfl, decide_eq_true special⟩

/-- Unescaping changes nothing exactly if there is nothing to be taken out. -/
@[simp]
theorem unescapeChars_eq_self_iff (str chars : List Char) :
    unescapeChars str chars = str ↔ NothingEscaped str chars := by
  induction str with
  | nil =>
      apply iff_of_true rfl
      intro next _ infixNil
      cases List.infix_nil.mp infixNil
  | cons ch rest ih =>
      rw [nothingEscaped_cons_iff, unescapeChars]
      split
      · rename_i escaped
        apply iff_of_false
        · intro equal
          have shorter := length_unescapeChars_le rest chars
          rw [equal] at shorter
          exact Nat.not_succ_le_self rest.length shorter
        · exact fun both => both.1 escaped
      · rename_i kept
        rw [List.cons.injEq, ih]
        exact ⟨fun both => ⟨kept, both.2⟩, fun both => ⟨rfl, both.2⟩⟩

/-- Unescaping undoes escaping exactly if the backslash is not in the set, or no backslash is
directly followed by a character of the set. -/
theorem unescapeChars_escapeChars_iff (str chars : List Char) :
    unescapeChars (escapeChars str chars) chars = str ↔
      backslash ∉ chars ∨ NothingEscaped str chars := by
  by_cases special : backslash ∈ chars
  · rw [unescapeChars_escapeChars_of_mem special, unescapeChars_eq_self_iff]
    exact (or_iff_right (not_not_intro special)).symm
  · exact iff_of_true (unescapeChars_escapeChars_of_not_mem special str) (Or.inl special)

/-- Of two backslashes one is left. -/
theorem unescapeChars_escapeChars_two_backslashes :
    unescapeChars (escapeChars ['\\', '\\'] ['\\']) ['\\'] ≠ ['\\', '\\'] := by
  decide

end VoxelEngine.Utility
