import VoxelEngine.Graphics.BindingScan

/-!
# Keywords as words

A keyword stands for a layout where it is a word by itself.  This is how a source is understood
in which some letters of an identifier are those of a keyword, and in which a name ends with the
last character of its identifier.
-/

namespace VoxelEngine.Graphics.Autobinding

open VoxelEngine.Data VoxelEngine.Transition

/-- The characters of identifiers. -/
def isIdentifier (c : Char) : Bool :=
  c.isAlphanum ∨ c = '_'

/-- A text that does not continue an identifier in front of it. -/
def Apart (text : List Char) : Prop :=
  ∀ c ∈ text.head?, isIdentifier c = false

instance : (text : List Char) → Decidable (Apart text)
  | [] => isTrue (by simp [Apart])
  | c :: rest => decidable_of_iff (isIdentifier c = false) (by simp [Apart])

/-- The keyword that a text begins with as a word by itself, unless there is a part of an
identifier in front of the text. -/
def standAlone (joined : Bool) (text : List Char) : Option Keyword :=
  match beginToken text with
  | some keyword =>
      if joined = false ∧ Apart (text.drop keyword.text.length) then some keyword else none
  | none => none

/-- The characters of a source and the keywords in it that stand alone, behind some letters that
are skipped. -/
def piecesFrom : Nat → Bool → List Char → List (Piece (List Char))
  | _, _, [] => []
  | skipped + 1, _, _ :: rest => piecesFrom skipped true rest
  | 0, joined, c :: rest =>
      match standAlone joined (c :: rest) with
      | some keyword =>
          .keyword keyword ((c :: rest).drop keyword.text.length) ::
            piecesFrom (keyword.text.length - 1) true rest
      | none => .char c :: piecesFrom 0 (isIdentifier c) rest

/-- A keyword that stands alone, and the text behind it. -/
structure Declaration where
  keyword : Keyword
  after : List Char

def Piece.declaration : Piece (List Char) → Option Declaration
  | .char _ => none
  | .keyword kind after => some ⟨kind, after⟩

/-- The declarations of a source, in order. -/
def declarations (src : List Char) : List Declaration :=
  (piecesFrom 0 false src).filterMap Piece.declaration

/-- The identifier behind some whitespace. -/
def identifier (text : List Char) : List Char :=
  (text.dropWhile isSpace).takeWhile isIdentifier

namespace Declaration

def counter (declaration : Declaration) : Counter :=
  declaration.keyword.counter

/-- The name that is declared.  The name of a constant stands behind its type. -/
def name (declaration : Declaration) : List Char :=
  match declaration.keyword with
  | .constant => identifier ((declaration.after.dropWhile isSpace).dropWhile isIdentifier)
  | _ => identifier declaration.after

/-- What the preprocessor keeps a number for. -/
def key (declaration : Declaration) : Keyword × List Char :=
  (declaration.keyword, wordOf declaration.after)

end Declaration

/-- Numbers for the names that each counter counts. -/
abbrev Numbering :=
  Counter → List Char → Nat

/-- The source with a layout in the place of each keyword that stands alone. -/
def annotate (numbering : Numbering) (src : List Char) : List Char :=
  layouts ((piecesFrom 0 false src).map
    (.map fun keyword after => numbering keyword.counter (Declaration.name ⟨keyword, after⟩)))

/-- The sources that are understood as they are meant.  A keyword in them stands alone, apart from
one at the very end of a source, which must not.  There is something behind each keyword, and none
in the word behind another one. -/
inductive Legible : Bool → List Char → Prop where
  | nil (joined : Bool) : Legible joined []
  | char {joined : Bool} {c : Char} {rest : List Char}
      (noKeyword : beginToken (c :: rest) = none) (others : Legible (isIdentifier c) rest) :
      Legible joined (c :: rest)
  | glued (keyword : Keyword) : Legible true keyword.text
  | declaration (keyword : Keyword) {after : List Char} (nonempty : after ≠ [])
      (apart : Apart after) (plain : declarations (wordOf after) = [])
      (others : Legible false (restOf after)) : Legible false (keyword.text ++ after)

variable {keyword : Keyword} {after rest text : List Char} {c : Char} {joined : Bool}
  {pieces : List (Piece (List Char))} {data : AutobindingData}

/-! ## Characters -/

theorem isIdentifier_of_isSpace (space : isSpace c = true) : isIdentifier c = false := by
  rw [isIdentifier, decide_eq_false_iff_not, isAlphanum_of_isSpace space]
  rintro (letter | rfl)
  · cases letter
  · revert space
    decide

theorem isIdentifier_of_mem_text (mem : c ∈ keyword.text) : isIdentifier c = true := by
  have each : keyword.text.all isIdentifier = true := by
    cases keyword <;> decide
  exact List.all_eq_true.mp each c mem

theorem apart_restOf (after : List Char) : Apart (restOf after) := by
  intro c mem
  have stopped := List.head?_dropWhile_not (!isSpace ·) (after.dropWhile isSpace)
  rw [Option.mem_def, restOf] at mem
  rw [mem] at stopped
  apply isIdentifier_of_isSpace
  simpa using stopped

theorem apart_wordOf (apart : Apart after) (empty : blankOf after = []) :
    Apart (wordOf after) := by
  intro c mem
  apply apart c
  rw [← blankOf_append after, empty, List.nil_append]
  exact List.mem_head?_append_of_mem_head? mem

/-- A keyword does not reach into a text that stands apart. -/
theorem text_isPrefix_append_iff (apart : Apart rest) :
    keyword.text <+: text ++ rest ↔ keyword.text <+: text := by
  constructor
  · intro begins
    rcases List.prefix_or_prefix_of_prefix begins (List.prefix_append text rest) with
      within | ⟨more, textEq⟩
    · exact within
    · cases more with
      | nil =>
          rw [List.append_nil] at textEq
          exact textEq ▸ List.prefix_rfl
      | cons c others =>
          rw [← textEq, List.prefix_append_right_inj] at begins
          rcases begins with ⟨behind, rfl⟩
          have outside : isIdentifier c = false := apart c rfl
          have inside : isIdentifier c = true := by
            apply @isIdentifier_of_mem_text keyword
            rw [← textEq]
            exact List.mem_append_right _ List.mem_cons_self
          rw [inside] at outside
          cases outside
  · intro begins
    exact begins.trans (List.prefix_append _ _)

theorem standAlone_eq_some_iff : standAlone joined text = some keyword ↔
    joined = false ∧ ∃ after, Apart after ∧ text = keyword.text ++ after := by
  rw [standAlone]
  constructor
  · intro alone
    cases tokenEq : beginToken text with
    | none =>
        rw [tokenEq] at alone
        cases alone
    | some other =>
        rw [tokenEq] at alone
        rcases beginToken_eq_some_iff.mp tokenEq with ⟨after, rfl⟩
        dsimp only at alone
        rw [List.drop_left] at alone
        split_ifs at alone with condition
        cases alone
        exact ⟨condition.1, after, condition.2, rfl⟩
  · rintro ⟨rfl, after, apart, rfl⟩
    rw [beginToken_text]
    dsimp only
    rw [List.drop_left, if_pos ⟨rfl, apart⟩]

/-- Whether a keyword stands alone does not depend on a text that stands apart. -/
theorem standAlone_append (apart : Apart rest) :
    standAlone joined (text ++ rest) = standAlone joined text := by
  apply Option.ext
  intro keyword
  rw [standAlone_eq_some_iff, standAlone_eq_some_iff]
  apply and_congr_right'
  constructor
  · rintro ⟨after, afterApart, textEq⟩
    have begins : keyword.text <+: text ++ rest := textEq ▸ List.prefix_append _ _
    rcases (text_isPrefix_append_iff apart).mp begins with ⟨within, rfl⟩
    rw [List.append_assoc, List.append_cancel_left_eq] at textEq
    refine ⟨within, ?_, rfl⟩
    cases within with
    | nil =>
        intro c mem
        cases mem
    | cons c others =>
        rw [← textEq] at afterApart
        exact afterApart
  · rintro ⟨after, afterApart, rfl⟩
    refine ⟨after ++ rest, ?_, List.append_assoc _ _ _⟩
    cases after with
    | nil => exact apart
    | cons c others => exact afterApart

theorem standAlone_of_apart (apart : Apart text) : standAlone joined text = none := by
  cases alone : standAlone joined text with
  | none => rfl
  | some keyword =>
      rcases (standAlone_eq_some_iff.mp alone).2 with ⟨after, _, rfl⟩
      cases textEq : keyword.text with
      | nil => cases keyword <;> cases textEq
      | cons first others =>
          have inside : isIdentifier first = true :=
            isIdentifier_of_mem_text (textEq ▸ List.mem_cons_self)
          rw [textEq] at apart
          rw [apart first rfl] at inside
          cases inside

theorem standAlone_of_not_alone (notAlone : ¬(joined = false ∧ Apart after)) :
    standAlone joined (keyword.text ++ after) = none := by
  cases alone : standAlone joined (keyword.text ++ after) with
  | none => rfl
  | some other =>
      rcases standAlone_eq_some_iff.mp alone with ⟨separate, behind, apart, textEq⟩
      have same : keyword = other :=
        keyword_unique (List.prefix_append _ after) (textEq ▸ List.prefix_append _ behind)
      subst same
      rw [List.append_cancel_left_eq] at textEq
      subst textEq
      exact absurd ⟨separate, apart⟩ notAlone

/-! ## Pieces -/

@[simp]
theorem piecesFrom_skip (text rest : List Char) :
    piecesFrom text.length true (text ++ rest) = piecesFrom 0 true rest := by
  induction text with
  | nil => rfl
  | cons c others ih =>
      rw [List.length_cons, List.cons_append, piecesFrom]
      exact ih

theorem piecesFrom_char (alone : standAlone joined (c :: rest) = none) :
    piecesFrom 0 joined (c :: rest) = .char c :: piecesFrom 0 (isIdentifier c) rest := by
  rw [piecesFrom, alone]

theorem piecesFrom_keyword (apart : Apart after) :
    piecesFrom 0 false (keyword.text ++ after) =
      .keyword keyword after :: piecesFrom 0 true after := by
  have alone : standAlone false (keyword.text ++ after) = some keyword :=
    standAlone_eq_some_iff.mpr ⟨rfl, after, apart, rfl⟩
  have behind : (keyword.text ++ after).drop keyword.text.length = after := List.drop_left
  cases textEq : keyword.text with
  | nil => cases keyword <;> cases textEq
  | cons c others =>
      rw [textEq, List.cons_append] at alone
      rw [textEq, List.cons_append] at behind
      rw [List.cons_append, piecesFrom, alone]
      dsimp only
      rw [textEq, behind, List.length_cons, Nat.add_sub_cancel, piecesFrom_skip]

/-- A part of an identifier in front of a text that stands apart does not matter. -/
theorem piecesFrom_of_apart (apart : Apart text) :
    piecesFrom 0 joined text = piecesFrom 0 false text := by
  cases text with
  | nil => cases joined <;> rfl
  | cons c rest =>
      rw [piecesFrom_char (standAlone_of_apart apart), piecesFrom_char (standAlone_of_apart apart)]

/-- A text in which nothing is declared is passed character by character. -/
theorem piecesFrom_append_iff (apart : Apart rest) :
    text.map .char ++ pieces = piecesFrom 0 joined (text ++ rest) ↔
      (piecesFrom 0 joined text).filterMap Piece.declaration = [] ∧
        pieces = piecesFrom 0 false rest := by
  induction text generalizing joined with
  | nil =>
      rw [List.map_nil, List.nil_append, List.nil_append, piecesFrom_of_apart apart]
      constructor
      · intro same
        exact ⟨by cases joined <;> rfl, same⟩
      · exact And.right
  | cons c others ih =>
      have settled : standAlone joined (c :: (others ++ rest)) =
          standAlone joined (c :: others) := by
        rw [← List.cons_append, standAlone_append apart]
      cases alone : standAlone joined (c :: others) with
      | none =>
          rw [List.cons_append, piecesFrom_char (settled.trans alone), piecesFrom_char alone,
            List.map_cons, List.cons_append, List.cons.injEq, List.filterMap_cons_none rfl, ← ih]
          exact and_iff_right rfl
      | some keyword =>
          rw [List.cons_append, piecesFrom, settled, alone, piecesFrom, alone]
          constructor
          · intro same
            cases same
          · rintro ⟨nothing, _⟩
            cases nothing

/-- Nothing is declared by whitespace. -/
theorem declares_blank {blank : List Char} (space : ∀ c ∈ blank, isSpace c = true)
    (apart : blank = [] → joined = true → Apart text) :
    (piecesFrom 0 joined (blank ++ text)).filterMap Piece.declaration = declarations text := by
  induction blank generalizing joined with
  | nil =>
      cases joined with
      | false => rfl
      | true => rw [List.nil_append, piecesFrom_of_apart (apart rfl rfl), declarations]
  | cons c others ih =>
      have outside := isIdentifier_of_isSpace (space c List.mem_cons_self)
      have alone : standAlone joined (c :: (others ++ text)) = none := by
        apply standAlone_of_apart
        rintro first ⟨⟩
        exact outside
      rw [List.cons_append, piecesFrom_char alone, List.filterMap_cons_none rfl, outside]
      apply ih
      · intro next mem
        exact space next (List.mem_cons_of_mem _ mem)
      · intro _ contradiction
        cases contradiction

/-! ## Legible sources -/

theorem legible_char_iff (noKeyword : beginToken (c :: rest) = none) :
    Legible joined (c :: rest) ↔ Legible (isIdentifier c) rest := by
  constructor
  · intro legible
    generalize textEq : c :: rest = text at legible
    cases legible with
    | nil => cases textEq
    | char _ others =>
        cases textEq
        exact others
    | glued keyword =>
        have token := beginToken_text keyword []
        rw [List.append_nil, ← textEq, noKeyword] at token
        cases token
    | declaration keyword =>
        rw [textEq, beginToken_text] at noKeyword
        cases noKeyword
  · exact .char noKeyword

@[simp]
theorem legible_text_iff : Legible joined keyword.text ↔ joined = true := by
  constructor
  · intro legible
    have token := beginToken_text keyword []
    rw [List.append_nil] at token
    generalize textEq : keyword.text = text at legible token
    cases legible with
    | nil => cases token
    | char noKeyword others =>
        rw [noKeyword] at token
        cases token
    | glued keyword => rfl
    | @declaration other after nonempty apart plain others =>
        rw [beginToken_text] at token
        cases token
        exact absurd (List.self_eq_append_right.mp textEq) nonempty
  · rintro rfl
    exact .glued keyword

theorem legible_keyword_iff (nonempty : after ≠ []) : Legible joined (keyword.text ++ after) ↔
    joined = false ∧ Apart after ∧ declarations (wordOf after) = [] ∧
      Legible false (restOf after) := by
  constructor
  · intro legible
    have token := beginToken_text keyword after
    generalize textEq : keyword.text ++ after = text at legible token
    cases legible with
    | nil => cases token
    | char noKeyword others =>
        rw [noKeyword] at token
        cases token
    | glued other =>
        have same := beginToken_text other []
        rw [List.append_nil, token] at same
        cases same
        exact absurd (List.append_right_eq_self.mp textEq) nonempty
    | @declaration other behind _ apart plain others =>
        rw [beginToken_text] at token
        cases token
        rw [List.append_cancel_left_eq] at textEq
        subst textEq
        exact ⟨rfl, apart, plain, others⟩
  · rintro ⟨rfl, apart, plain, others⟩
    exact .declaration keyword nonempty apart plain others

/-- A source is read as it is meant exactly if it is legible. -/
theorem reads_eq_piecesFrom_iff (reads : Reads text pieces) :
    pieces = piecesFrom 0 joined text ↔ Legible joined text := by
  induction reads generalizing joined with
  | nil => exact iff_of_true (by cases joined <;> rfl) (.nil joined)
  | @char c rest pieces noToken others ih =>
      have alone : standAlone joined (c :: rest) = none := by rw [standAlone, noToken]
      rw [piecesFrom_char alone, legible_char_iff noToken, ← ih, List.cons.injEq]
      exact and_iff_right rfl
  | cut keyword =>
      rw [legible_text_iff]
      cases joined <;> cases keyword <;> decide
  | @directive keyword after pieces nonempty others ih =>
      rw [legible_keyword_iff nonempty]
      by_cases alone : joined = false ∧ Apart after
      · rcases alone with ⟨rfl, apart⟩
        have behind : piecesFrom 0 true after =
            piecesFrom 0 true (blankOf after ++ wordOf after ++ restOf after) := by
          rw [blankOf_append]
        have named : (piecesFrom 0 true (blankOf after ++ wordOf after)).filterMap
            Piece.declaration = declarations (wordOf after) := by
          apply declares_blank
          · exact fun c mem => List.mem_takeWhile_imp mem
          · intro empty _
            exact apart_wordOf apart empty
        rw [piecesFrom_keyword apart, List.cons.injEq, behind,
          piecesFrom_append_iff (apart_restOf after), named, ih]
        constructor
        · rintro ⟨_, plain, others⟩
          exact ⟨rfl, apart, plain, others⟩
        · rintro ⟨_, _, plain, others⟩
          exact ⟨rfl, plain, others⟩
      · apply iff_of_false
        · intro same
          have none : standAlone joined (keyword.text ++ after) = none :=
            standAlone_of_not_alone alone
          cases textEq : keyword.text ++ after with
          | nil =>
              rw [textEq] at same
              cases joined <;> cases same
          | cons c rest =>
              rw [textEq] at none same
              rw [piecesFrom_char none] at same
              cases same
        · rintro ⟨separate, apart, _⟩
          exact alone ⟨separate, apart⟩

end VoxelEngine.Graphics.Autobinding
