import VoxelEngine.Graphics.BindingGenerator

/-!
# What the autobinding preprocessor reads

The scanner takes a source apart into characters and keywords.  A keyword is taken up wherever its
letters begin, except in the word behind another keyword, and is left as it is at the very end.
The source that results has layouts in the places of the keywords that are taken up.
-/

namespace VoxelEngine.Graphics.Autobinding

open VoxelEngine.Data VoxelEngine.Transition

/-- A part of a source. -/
inductive Piece (α : Type) where
  | char (c : Char)
  | keyword (keyword : Keyword) (value : α)
  deriving DecidableEq

namespace Piece

variable {α β : Type}

/-- The part as it is in the source. -/
def source : Piece α → List Char
  | char c => [c]
  | keyword kind _ => kind.text

/-- The part with a layout in the place of a keyword. -/
def layout : Piece Nat → List Char
  | char c => [c]
  | keyword kind binding => kind.replacement binding

def map (change : Keyword → α → β) : Piece α → Piece β
  | char c => char c
  | keyword kind value => keyword kind (change kind value)

end Piece

/-- The whitespace behind a keyword. -/
def blankOf (after : List Char) : List Char :=
  after.takeWhile isSpace

/-- The word that is taken for the name behind a keyword. -/
def wordOf (after : List Char) : List Char :=
  (after.dropWhile isSpace).takeWhile (!isSpace ·)

/-- What is left behind that word. -/
def restOf (after : List Char) : List Char :=
  (after.dropWhile isSpace).dropWhile (!isSpace ·)

/-- What the scanner takes a source for, with what is behind each keyword. -/
inductive Reads : List Char → List (Piece (List Char)) → Prop where
  | nil : Reads [] []
  | char {c : Char} {rest : List Char} {pieces : List (Piece (List Char))}
      (noToken : beginToken (c :: rest) = none) (others : Reads rest pieces) :
      Reads (c :: rest) (.char c :: pieces)
  | cut (keyword : Keyword) : Reads keyword.text (keyword.text.map .char)
  | directive (keyword : Keyword) {after : List Char} {pieces : List (Piece (List Char))}
      (nonempty : after ≠ []) (others : Reads (restOf after) pieces) :
      Reads (keyword.text ++ after)
        (.keyword keyword after :: ((blankOf after ++ wordOf after).map .char ++ pieces))

/-- Number the keywords of a source. -/
def numbered (data : AutobindingData) :
    List (Piece (List Char)) → List (Piece Nat) × AutobindingData
  | [] => ([], data)
  | .char c :: pieces => (.char c :: (numbered data pieces).1, (numbered data pieces).2)
  | .keyword keyword after :: pieces =>
      (.keyword keyword (data.bind keyword (wordOf after)).1 ::
          (numbered (data.bind keyword (wordOf after)).2 pieces).1,
        (numbered (data.bind keyword (wordOf after)).2 pieces).2)

/-- The source with the layouts. -/
def layouts (pieces : List (Piece Nat)) : List Char :=
  pieces.flatMap Piece.layout

variable {keyword : Keyword} {after rest text : List Char} {c : Char}
  {pieces : List (Piece (List Char))} {data : AutobindingData}

/-! ## Keywords -/

@[simp]
theorem length_text (keyword : Keyword) : tokenValue (some keyword) = keyword.text.length := by
  cases keyword <;> rfl

/-- The letters of at most one keyword begin in any place. -/
theorem keyword_unique {other : Keyword} (first : keyword.text <+: text)
    (second : other.text <+: text) : keyword = other := by
  rcases List.prefix_or_prefix_of_prefix first second with within | within
  · revert within
    cases keyword <;> cases other <;> decide
  · revert within
    cases keyword <;> cases other <;> decide

@[simp]
theorem beginToken_eq_some_iff : beginToken text = some keyword ↔ keyword.text <+: text := by
  rw [beginToken]
  constructor
  · intro tokenEq
    split_ifs at tokenEq with constant ssbo ubo
    · cases tokenEq
      exact constant
    · cases tokenEq
      exact ssbo
    · cases tokenEq
      exact ubo
  · intro isPrefix
    split_ifs with constant ssbo ubo
    · rw [keyword_unique constant isPrefix]
    · rw [keyword_unique ssbo isPrefix]
    · rw [keyword_unique ubo isPrefix]
    · cases keyword
      · exact absurd isPrefix ubo
      · exact absurd isPrefix ssbo
      · exact absurd isPrefix constant

@[simp]
theorem beginToken_text (keyword : Keyword) (after : List Char) :
    beginToken (keyword.text ++ after) = some keyword :=
  beginToken_eq_some_iff.mpr (List.prefix_append _ _)

/-! ## Texts behind a keyword -/

@[simp]
theorem blankOf_append (after : List Char) :
    blankOf after ++ wordOf after ++ restOf after = after := by
  rw [List.append_assoc, blankOf, wordOf, restOf, List.takeWhile_append_dropWhile,
    List.takeWhile_append_dropWhile]

theorem length_restOf_le (after : List Char) : (restOf after).length ≤ after.length := by
  have whole := congrArg List.length (blankOf_append after)
  rw [List.length_append] at whole
  omega

/-- Each source is read in some way. -/
theorem exists_reads (text : List Char) : ∃ pieces, Reads text pieces := by
  induction bound : text.length using Nat.strongRecOn generalizing text with
  | ind length ih =>
      cases tokenEq : beginToken text with
      | none =>
          cases text with
          | nil => exact ⟨[], .nil⟩
          | cons c rest =>
              rw [List.length_cons] at bound
              rcases ih rest.length (by omega) rest rfl with ⟨pieces, reads⟩
              exact ⟨_, .char tokenEq reads⟩
      | some keyword =>
          rcases beginToken_eq_some_iff.mp tokenEq with ⟨after, rfl⟩
          by_cases empty : after = []
          · subst empty
            rw [List.append_nil]
            exact ⟨_, .cut keyword⟩
          · have rest_le := length_restOf_le after
            have positive : 0 < keyword.text.length := by cases keyword <;> decide
            rw [List.length_append] at bound
            rcases ih (restOf after).length (by omega) (restOf after) rfl with ⟨pieces, reads⟩
            exact ⟨_, .directive keyword empty reads⟩

/-! ## Numbers -/

theorem numbered_chars (text : List Char) :
    numbered data (text.map .char ++ pieces) =
      (text.map .char ++ (numbered data pieces).1, (numbered data pieces).2) := by
  induction text with
  | nil => rfl
  | cons c rest ih =>
      rw [List.map_cons, List.cons_append, numbered, ih]
      rfl

@[simp]
theorem layouts_chars (text : List Char) (others : List (Piece Nat)) :
    layouts (text.map .char ++ others) = text ++ layouts others := by
  induction text with
  | nil => rfl
  | cons c rest ih =>
      rw [List.cons_append, ← ih]
      rfl

theorem layouts_cons (piece : Piece Nat) (others : List (Piece Nat)) :
    layouts (piece :: others) = piece.layout ++ layouts others :=
  List.flatMap_cons

/-! ## Rounds of the scanner -/

namespace Scanner

variable {out : List Char} {start : Nat}

/-- The scanner behind the part of the source that is settled, without a token. -/
def behind (out rest : List Char) (start : Nat) (data : AutobindingData) : Scanner :=
  ⟨out ++ rest, none, start, out.length, data⟩

theorem round_behind (nonempty : rest ≠ []) :
    (behind out rest start data).round = .again (behind out rest start data).begin := by
  have positive := List.length_pos_iff.mpr nonempty
  have before_end : out.length < (out ++ rest).length := by
    rw [List.length_append]
    omega
  exact if_pos before_end

theorem begin_behind : (behind out rest start data).begin =
    { src := out ++ rest
      currentToken := beginToken (rest.dropWhile isSpace)
      directiveStart := out.length + (rest.takeWhile isSpace).length
      currentChar := out.length + (rest.takeWhile isSpace).length +
        tokenValue (beginToken (rest.dropWhile isSpace))
      data := data } := by
  rw [begin, behind]
  dsimp only
  rw [List.drop_left, eatWhitespace]

theorem returns_behind_nil :
    Returns round (behind out [] start data) (out, data) := by
  apply returns_of_done
  rw [round, if_neg]
  · rw [behind, List.append_nil]
  · rw [behind, List.append_nil]
    exact Nat.lt_irrefl _

/-- Whitespace in front of something is skipped together with it. -/
theorem returns_behind_space (space : isSpace c = true)
    {result : List Char × AutobindingData}
    (returns : ∀ start, Returns round (behind (out ++ [c]) rest start data) result) :
    Returns round (behind out (c :: rest) start data) result := by
  cases rest with
  | nil =>
      have settled := (returns 0).unique returns_behind_nil
      subst settled
      apply Returns.of_again (round_behind (List.cons_ne_nil _ _))
      apply returns_of_done
      have past : (out ++ [c]).length ≤ out.length + ([c].takeWhile isSpace).length +
          tokenValue (beginToken ([c].dropWhile isSpace)) := by
        rw [List.takeWhile_cons_of_pos space, List.length_append]
        exact Nat.le_add_right _ _
      rw [begin_behind]
      exact if_neg (Nat.not_lt.mpr past)
  | cons next rest =>
      apply (returns start).of_round_eq
      rw [round_behind (List.cons_ne_nil _ _), round_behind (List.cons_ne_nil _ _), begin_behind,
        begin_behind]
      simp only [List.append_assoc, List.singleton_append, List.dropWhile_cons_of_pos space,
        List.takeWhile_cons_of_pos space, List.length_append, List.length_cons, List.length_nil]
      simp only [Nat.zero_add, Nat.add_assoc, Nat.add_comm 1]

/-- A character at which no keyword begins is passed. -/
theorem returns_behind_char (noToken : beginToken (c :: rest) = none)
    {result : List Char × AutobindingData}
    (returns : ∀ start, Returns round (behind (out ++ [c]) rest start data) result) :
    Returns round (behind out (c :: rest) start data) result := by
  by_cases space : isSpace c = true
  · exact returns_behind_space space returns
  · apply Returns.of_again (round_behind (List.cons_ne_nil _ _))
    rw [begin_behind, List.dropWhile_cons_of_neg space, List.takeWhile_cons_of_neg space, noToken]
    have next := returns (out.length + 0)
    rw [behind, List.append_assoc, List.length_append] at next
    exact next

/-- The scanner behind a keyword that is not settled. -/
def holding (out : List Char) (keyword : Keyword) (after : List Char) (data : AutobindingData) :
    Scanner :=
  ⟨out ++ (keyword.text ++ after), some keyword, out.length, out.length + keyword.text.length,
    data⟩

@[simp]
theorem begin_behind_keyword :
    (behind out (keyword.text ++ after) start data).begin = holding out keyword after data := by
  have untouched : (keyword.text ++ after).dropWhile isSpace = keyword.text ++ after := by
    cases keyword <;> rfl
  have nothing : (keyword.text ++ after).takeWhile isSpace = [] := by
    cases keyword <;> rfl
  rw [begin_behind, untouched, nothing, beginToken_text, length_text]
  rfl

/-- A keyword with nothing behind it is left as it is. -/
theorem returns_behind_cut :
    Returns round (behind out keyword.text start data) (out ++ keyword.text, data) := by
  have nonempty : keyword.text ≠ [] := by cases keyword <;> decide
  have begun : (behind out keyword.text start data).begin = holding out keyword [] data := by
    rw [← begin_behind_keyword, List.append_nil]
  apply Returns.of_again (round_behind nonempty)
  rw [begun]
  apply returns_of_done
  rw [round, if_neg]
  · rw [holding, List.append_nil]
  · rw [holding, List.append_nil, List.length_append]
    exact Nat.lt_irrefl _

/-- The word behind a keyword is taken for its name, and a layout is put in its place. -/
theorem round_holding (nonempty : after ≠ []) :
    (holding out keyword after data).round =
      .again (behind
        (out ++ (keyword.replacement (data.bind keyword (wordOf after)).1 ++
          (blankOf after ++ wordOf after)))
        (restOf after) out.length (data.bind keyword (wordOf after)).2) := by
  have positive := List.length_pos_iff.mpr nonempty
  have before_end : out.length + keyword.text.length < (out ++ (keyword.text ++ after)).length := by
    rw [List.length_append, List.length_append]
    omega
  have erased : (out ++ (keyword.text ++ after)).drop (out.length + keyword.text.length) =
      after := by
    rw [← List.append_assoc, ← List.length_append, List.drop_left]
  have round_eq : (holding out keyword after data).round =
      .again ((holding out keyword after data).finish keyword) := if_pos before_end
  rw [round_eq, finish, behind]
  dsimp only [holding]
  rw [erased, eatWhitespace, eatWord, replaceBeforeCurrent]
  dsimp only
  rw [length_text, erased, List.take_left]
  change Round.again (Scanner.mk
    (out ++ keyword.replacement (data.bind keyword (wordOf after)).1 ++ after) none out.length
    (out.length + keyword.text.length + (blankOf after).length + (wordOf after).length -
      keyword.text.length + (keyword.replacement (data.bind keyword (wordOf after)).1).length)
    (data.bind keyword (wordOf after)).2) = _
  generalize keyword.replacement (data.bind keyword (wordOf after)).1 = layout
  have edited : out ++ layout ++ after =
      out ++ (layout ++ (blankOf after ++ wordOf after)) ++ restOf after := by
    rw [List.append_assoc, List.append_assoc, List.append_assoc, blankOf_append]
  have position : out.length + keyword.text.length + (blankOf after).length +
      (wordOf after).length - keyword.text.length + layout.length =
      (out ++ (layout ++ (blankOf after ++ wordOf after))).length := by
    rw [List.length_append, List.length_append, List.length_append]
    omega
  rw [edited, position]

/-- The scanner settles all that is read, in one way. -/
theorem returns_of_reads (reads : Reads text pieces) (out : List Char) (start : Nat)
    (data : AutobindingData) :
    Returns round (behind out text start data)
      (out ++ layouts (numbered data pieces).1, (numbered data pieces).2) := by
  induction reads generalizing out start data with
  | nil =>
      rw [numbered, layouts, List.flatMap_nil, List.append_nil]
      exact returns_behind_nil
  | @char c rest pieces noToken others ih =>
      apply returns_behind_char noToken
      intro start
      have next := ih (out ++ [c]) start data
      rw [List.append_assoc] at next
      exact next
  | cut keyword =>
      have chars := @numbered_chars [] data keyword.text
      rw [List.append_nil] at chars
      rw [chars, layouts_chars]
      change Returns round _ (out ++ (keyword.text ++ []), data)
      rw [List.append_nil]
      exact returns_behind_cut
  | @directive keyword after pieces nonempty others ih =>
      have some_text : keyword.text ++ after ≠ [] := by
        intro empty
        exact nonempty (List.append_eq_nil_iff.mp empty).2
      apply Returns.of_again (round_behind some_text)
      rw [begin_behind_keyword]
      apply Returns.of_again (round_holding nonempty)
      have next := ih
        (out ++ (keyword.replacement (data.bind keyword (wordOf after)).1 ++
          (blankOf after ++ wordOf after)))
        out.length (data.bind keyword (wordOf after)).2
      rw [numbered, numbered_chars, layouts_cons, layouts_chars, Piece.layout]
      rw [List.append_assoc, List.append_assoc] at next
      exact next

end Scanner

/-- A source is preprocessed in the way in which it is read. -/
theorem returns_initial (reads : Reads text pieces) (data : AutobindingData) :
    Returns Scanner.round (Scanner.initial data text)
      (layouts (numbered data pieces).1, (numbered data pieces).2) :=
  Scanner.returns_of_reads reads [] 0 data

end VoxelEngine.Graphics.Autobinding
