import VoxelEngine.Graphics.ShaderWords

/-!
# What the layouts of a source tell

The numbers of the layouts, and which keywords they stand for, can be read off the source before
and after it is preprocessed.
-/

namespace VoxelEngine.Graphics.Autobinding

open VoxelEngine.Data VoxelEngine.Transition

/-- The source without the layouts. -/
def sourceText {α : Type} (pieces : List (Piece α)) : List Char :=
  pieces.flatMap Piece.source

/-- The text that goes with each keyword is the one behind it. -/
def Follows : List (Piece (List Char)) → Prop
  | [] => True
  | .char _ :: pieces => Follows pieces
  | .keyword _ after :: pieces => after = sourceText pieces ∧ Follows pieces

variable {keyword other : Keyword} {after rest text : List Char} {c : Char} {joined : Bool}
  {number another : Nat} {pieces first second : List (Piece (List Char))} {data : AutobindingData}

/-! ## Layouts -/

/-- A number ends where there is no digit. -/
@[simp]
theorem takeWhile_toDigits (number : Nat) (rest : List Char) :
    (Nat.toDigits 10 number ++ ')' :: rest).takeWhile Char.isDigit = Nat.toDigits 10 number := by
  rw [List.takeWhile_append_of_pos, List.takeWhile_cons_of_neg (by decide), List.append_nil]
  intro digit mem
  exact Nat.isDigit_of_mem_toDigits (by decide) (by decide) mem

theorem toDigits_append_inj {more : List Char}
    (same : Nat.toDigits 10 number ++ ')' :: rest = Nat.toDigits 10 another ++ ')' :: more) :
    number = another ∧ rest = more := by
  have digits := congrArg (List.takeWhile Char.isDigit) same
  rw [takeWhile_toDigits, takeWhile_toDigits] at digits
  rw [digits, List.append_cancel_left_eq, List.cons.injEq] at same
  have numbers := congrArg (fun digits => Nat.ofDigitChars 10 digits 0) digits
  rw [Nat.ofDigitChars_toDigits (by decide) (by decide),
    Nat.ofDigitChars_toDigits (by decide) (by decide)] at numbers
  exact ⟨numbers, same.2⟩

theorem exists_layoutEnd (keyword : Keyword) : ∃ more, keyword.layoutEnd = ')' :: more := by
  refine ⟨keyword.layoutEnd.tail, ?_⟩
  cases keyword <;> decide

/-- The number of a layout can be read off the source. -/
theorem replacement_append_inj {more : List Char}
    (same : keyword.replacement number ++ rest = keyword.replacement another ++ more) :
    number = another ∧ rest = more := by
  rcases exists_layoutEnd keyword with ⟨ending, endEq⟩
  rw [Keyword.replacement, Keyword.replacement, endEq] at same
  simp only [List.append_assoc, List.append_cancel_left_eq, List.cons_append] at same
  rcases toDigits_append_inj same with ⟨numbers, texts⟩
  exact ⟨numbers, List.append_cancel_left texts⟩

/-- A layout begins with a letter that no keyword begins with. -/
@[simp]
theorem head?_replacement_append (keyword : Keyword) (number : Nat) (rest : List Char) :
    (keyword.replacement number ++ rest).head? = some 'l' := by
  have start : keyword.layoutStart = 'l' :: keyword.layoutStart.tail := by
    cases keyword <;> decide
  rw [Keyword.replacement, start]
  rfl

theorem head?_text_append (keyword : Keyword) (rest : List Char) :
    (keyword.text ++ rest).head? ≠ some 'l' := by
  have nonempty : keyword.text ≠ [] := by
    cases keyword <;> decide
  rw [List.head?_append_of_ne_nil _ nonempty]
  cases keyword <;> decide

theorem source_ne_nil {α : Type} (piece : Piece α) : piece.source ≠ [] := by
  cases piece with
  | char c => exact List.cons_ne_nil _ _
  | keyword kind value =>
      rw [Piece.source]
      cases kind <;> decide

theorem sourceText_cons {α : Type} (piece : Piece α) (pieces : List (Piece α)) :
    sourceText (piece :: pieces) = piece.source ++ sourceText pieces :=
  List.flatMap_cons

@[simp]
theorem sourceText_eq_nil_iff {α : Type} {pieces : List (Piece α)} :
    sourceText pieces = [] ↔ pieces = [] := by
  cases pieces with
  | nil => exact iff_of_true rfl rfl
  | cons piece others =>
      rw [sourceText_cons, List.append_eq_nil_iff]
      constructor
      · rintro ⟨empty, _⟩
        exact absurd empty (source_ne_nil piece)
      · intro impossible
        cases impossible

/-- The source before and after it is preprocessed determines the pieces and their numbers. -/
theorem pieces_inj {first second : List (Piece Nat)}
    (sameSource : sourceText first = sourceText second)
    (sameLayouts : layouts first = layouts second) : first = second := by
  induction first generalizing second with
  | nil =>
      exact (sourceText_eq_nil_iff.mp sameSource.symm).symm
  | cons piece others ih =>
      cases second with
      | nil => exact sourceText_eq_nil_iff.mp sameSource
      | cons another more =>
          rw [sourceText_cons, sourceText_cons] at sameSource
          rw [layouts_cons, layouts_cons] at sameLayouts
          cases piece with
          | char c =>
              cases another with
              | char d =>
                  have texts := List.cons.inj sameSource
                  rw [texts.1, ih texts.2 (List.cons.inj sameLayouts).2]
              | keyword kind number =>
                  have letter := congrArg List.head? sameLayouts
                  rw [Piece.layout, Piece.layout, head?_replacement_append] at letter
                  cases letter
                  exact absurd (congrArg List.head? sameSource).symm (head?_text_append kind _)
          | keyword kind number =>
              cases another with
              | char d =>
                  have letter := congrArg List.head? sameLayouts
                  rw [Piece.layout, Piece.layout, head?_replacement_append] at letter
                  cases letter
                  exact absurd (congrArg List.head? sameSource) (head?_text_append kind _)
              | keyword otherKind otherNumber =>
                  rw [Piece.source, Piece.source] at sameSource
                  have begins : otherKind.text <+: kind.text ++ sourceText others := by
                    rw [sameSource]
                    exact List.prefix_append _ _
                  have same := keyword_unique (List.prefix_append _ _) begins
                  subst same
                  rw [List.append_cancel_left_eq] at sameSource
                  rcases replacement_append_inj sameLayouts with ⟨numbers, texts⟩
                  rw [numbers, ih sameSource texts]

/-! ## The texts behind the keywords -/

@[simp]
theorem sourceText_chars (text : List Char) : sourceText (text.map .char ++ pieces) =
    text ++ sourceText pieces := by
  induction text with
  | nil => rfl
  | cons c others ih =>
      rw [List.map_cons, List.cons_append, sourceText_cons, ih]
      rfl

@[simp]
theorem follows_chars (text : List Char) : Follows (text.map .char ++ pieces) ↔ Follows pieces := by
  induction text with
  | nil => exact Iff.rfl
  | cons c others ih => exact ih

theorem Reads.sourceText (reads : Reads text pieces) : sourceText pieces = text := by
  induction reads with
  | nil => rfl
  | char noToken others ih =>
      rw [sourceText_cons, ih]
      rfl
  | cut keyword =>
      have whole := @sourceText_chars [] keyword.text
      rw [List.append_nil] at whole
      rw [whole]
      exact List.append_nil _
  | @directive keyword after pieces nonempty others ih =>
      rw [sourceText_cons, sourceText_chars, ih, blankOf_append]
      rfl

theorem Reads.follows (reads : Reads text pieces) : Follows pieces := by
  induction reads with
  | nil => trivial
  | char noToken others ih => exact ih
  | cut keyword =>
      rw [← List.append_nil (keyword.text.map _), follows_chars]
      trivial
  | @directive keyword after pieces nonempty others ih =>
      constructor
      · rw [sourceText_chars, others.sourceText, blankOf_append]
      · exact (follows_chars _).mpr ih

theorem drop_text_length (keyword : Keyword) (c : Char) (rest : List Char) :
    (c :: rest).drop keyword.text.length = rest.drop (keyword.text.length - 1) := by
  cases keyword <;> rfl

@[simp]
theorem sourceText_piecesFrom (skipped : Nat) (joined : Bool) (text : List Char) :
    sourceText (piecesFrom skipped joined text) = text.drop skipped := by
  induction text generalizing skipped joined with
  | nil => cases skipped <;> rfl
  | cons c rest ih =>
      cases skipped with
      | succ skipped =>
          rw [piecesFrom, ih]
          rfl
      | zero =>
          cases alone : standAlone joined (c :: rest) with
          | none =>
              rw [piecesFrom_char alone, sourceText_cons, ih]
              rfl
          | some keyword =>
              rcases (standAlone_eq_some_iff.mp alone).2 with ⟨after, _, textEq⟩
              rw [piecesFrom, alone]
              dsimp only
              rw [sourceText_cons, ih, ← drop_text_length keyword c, List.drop_zero, textEq,
                List.drop_left]
              rfl

theorem follows_piecesFrom (skipped : Nat) (joined : Bool) (text : List Char) :
    Follows (piecesFrom skipped joined text) := by
  induction text generalizing skipped joined with
  | nil => cases skipped <;> trivial
  | cons c rest ih =>
      cases skipped with
      | succ skipped => exact ih skipped true
      | zero =>
          cases alone : standAlone joined (c :: rest) with
          | none =>
              rw [piecesFrom_char alone]
              exact ih 0 _
          | some keyword =>
              rw [piecesFrom, alone]
              constructor
              · rw [sourceText_piecesFrom, drop_text_length]
              · exact ih _ true

/-- Numbers for all pieces of a source. -/
def valued {α : Type} (value : Keyword → List Char → α) (pieces : List (Piece (List Char))) :
    List (Piece α) :=
  pieces.map (.map value)

@[simp]
theorem sourceText_valued {α : Type} (value : Keyword → List Char → α)
    (pieces : List (Piece (List Char))) : sourceText (valued value pieces) = sourceText pieces := by
  induction pieces with
  | nil => rfl
  | cons piece others ih =>
      rw [valued, List.map_cons, sourceText_cons, sourceText_cons]
      cases piece <;> exact congrArg _ ih

@[simp]
theorem sourceText_numbered (data : AutobindingData) (pieces : List (Piece (List Char))) :
    sourceText (numbered data pieces).1 = sourceText pieces := by
  induction pieces generalizing data with
  | nil => rfl
  | cons piece others ih =>
      cases piece with
      | char c =>
          rw [numbered, sourceText_cons, sourceText_cons, ih]
          rfl
      | keyword kind after =>
          rw [numbered, sourceText_cons, sourceText_cons, ih]
          rfl

/-- Pieces with the same keywords, whatever numbers these have, are the same. -/
theorem eq_of_numbered_eq_valued {value : Keyword → List Char → Nat} (firstFollows : Follows first)
    (secondFollows : Follows second) (same : (numbered data first).1 = valued value second) :
    first = second := by
  induction first generalizing second data with
  | nil =>
      cases second with
      | nil => rfl
      | cons piece others => cases same
  | cons piece others ih =>
      cases second with
      | nil => cases piece <;> cases same
      | cons another more =>
          rw [valued, List.map_cons] at same
          cases piece with
          | char c =>
              cases another with
              | char d =>
                  have parts := List.cons.inj same
                  have rests : others = more := ih firstFollows secondFollows parts.2
                  cases parts.1
                  rw [rests]
              | keyword kind after => cases (List.cons.inj same).1
          | keyword kind after =>
              cases another with
              | char d => cases (List.cons.inj same).1
              | keyword otherKind behind =>
                  have parts := List.cons.inj same
                  have kinds : kind = otherKind := by
                    injection parts.1
                  have rests := ih firstFollows.2 secondFollows.2 parts.2
                  rw [kinds, firstFollows.1, secondFollows.1, rests]

/-- The source that results tells how a source was read. -/
theorem reads_eq_of_layouts_eq {value : Keyword → List Char → Nat} (reads : Reads text pieces)
    (same : layouts (numbered data pieces).1 = layouts (valued value (piecesFrom 0 joined text))) :
    pieces = piecesFrom 0 joined text ∧
      (numbered data pieces).1 = valued value (piecesFrom 0 joined text) := by
  have sources : sourceText (numbered data pieces).1 =
      sourceText (valued value (piecesFrom 0 joined text)) := by
    rw [sourceText_numbered, sourceText_valued, reads.sourceText, sourceText_piecesFrom]
    rfl
  have numbers := pieces_inj sources same
  exact ⟨eq_of_numbered_eq_valued reads.follows (follows_piecesFrom 0 joined text) numbers, numbers⟩

end VoxelEngine.Graphics.Autobinding
