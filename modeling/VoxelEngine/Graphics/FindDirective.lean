import Mathlib.Tactic.SplitIfs
import VoxelEngine.Data.Characters

/-!
# Finding directives

A directive is a line that begins with `#` and a word.  The line is read character by character,
and the positions at which the word and the arguments begin and end are kept.
-/

namespace VoxelEngine.Graphics

open VoxelEngine.Data

/-- What the loop over a line looks for next. -/
inductive FindState where
  | noToken
  | startingKey
  | parsingKey
  | startingArgs
  | parsingArgs
  deriving DecidableEq

/-- A directive with its word. -/
structure DirectiveToken where
  key : List Char
  args : List Char
  deriving DecidableEq

/-- The variables of `find_directive`. -/
structure DirectiveScan where
  state : FindState
  tokenBegin : Nat
  tokenEnd : Nat
  argsBegin : Nat

namespace DirectiveScan

/-- One round of the loop.  It is left when the arguments begin. -/
def next (scan : DirectiveScan) (it : Nat) (c : Char) : DirectiveScan :=
  match scan.state with
  | .noToken => if c = '#' then { scan with state := .startingKey } else scan
  | .startingKey =>
      if c.isAlpha then { scan with state := .parsingKey, tokenBegin := it } else scan
  | .parsingKey =>
      if isSpace c then { scan with state := .startingArgs, tokenEnd := it - 1 } else scan
  | .startingArgs =>
      if c.isAlphanum then { scan with state := .parsingArgs, argsBegin := it } else scan
  | .parsingArgs => scan

/-- The rounds for the characters from some position on. -/
def readFrom (scan : DirectiveScan) (it : Nat) : List Char → DirectiveScan
  | [] => scan
  | c :: rest => (scan.next it c).readFrom (it + 1) rest

end DirectiveScan

/-- `find_directive`. -/
def findDirective (line : List Char) : Option DirectiveToken :=
  let scan := DirectiveScan.readFrom ⟨.noToken, line.length, line.length, line.length⟩ 0 line
  if scan.tokenBegin = line.length then none
  else
    some
      { key := (line.take scan.tokenEnd).drop scan.tokenBegin
        args := line.drop scan.argsBegin }

/-- The text behind the `#` that a line begins with. -/
def behindHash (line : List Char) : Option (List Char) :=
  match line.dropWhile isSpace with
  | '#' :: rest => some (rest.dropWhile isSpace)
  | _ => none

/-- The word of a directive, if a line is one. -/
def directiveWord (line : List Char) : Option (List Char) :=
  match behindHash line with
  | some (letter :: rest) =>
      if letter.isAlpha then some (letter :: rest.takeWhile (!isSpace ·)) else none
  | _ => none

/-- A text of whitespace only. -/
def Blank (text : List Char) : Prop :=
  ∀ c ∈ text, isSpace c = true

/-- The words of directives. -/
def IsWord (word : List Char) : Prop :=
  (∃ letter ∈ word.head?, letter.isAlpha = true) ∧ ∀ c ∈ word, isSpace c = false

/-- A directive with its word and its arguments, which there need not be. -/
inductive DirectiveLine : List Char → List Char → List Char → Prop where
  | intro {indent gap word blank args : List Char} (indentBlank : Blank indent)
      (gapBlank : Blank gap) (isWord : IsWord word) (blankBlank : Blank blank)
      (argument : args = [] ∨ blank ≠ [] ∧ ∃ c ∈ args.head?, c.isAlphanum = true) :
      DirectiveLine (indent ++ '#' :: (gap ++ (word ++ (blank ++ args)))) word args

/-- The line starts the machine that was added for a key. -/
def startsFor (key line : List Char) : Bool :=
  match findDirective line with
  | some directive => directive.key = key
  | none => false

/-- Directives are found in a line as it is promised. -/
def FindsDirective (line : List Char) : Prop :=
  (∀ word args, DirectiveLine line word args → findDirective line = some ⟨word, args⟩) ∧
    ∀ key, startsFor key line = true ↔ directiveWord line = some key

/-- There is a letter somewhere behind a `#`. -/
def HashLetter (line : List Char) : Prop :=
  ∃ before after, line = before ++ '#' :: after ∧ ∃ c ∈ after, c.isAlpha = true

/-- A directive with nothing at all behind its word. -/
def BareDirective (line : List Char) : Prop :=
  ∃ indent gap word, Blank indent ∧ Blank gap ∧ IsWord word ∧
    line = indent ++ '#' :: (gap ++ word)

variable {line text before after rest word args gap indent more : List Char} {c letter : Char}
  {scan : DirectiveScan} {it first : Nat}

/-! ## The loop -/

namespace DirectiveScan

@[simp]
theorem readFrom_append (scan : DirectiveScan) (it : Nat) (text rest : List Char) :
    scan.readFrom it (text ++ rest) = (scan.readFrom it text).readFrom (it + text.length) rest := by
  induction text generalizing scan it with
  | nil => rfl
  | cons c others ih =>
      rw [List.cons_append, readFrom, ih, readFrom, List.length_cons, Nat.add_assoc, Nat.add_comm 1]

/-- Characters that are not looked for are passed. -/
theorem readFrom_of_next (pass : ∀ c ∈ text, ∀ it, scan.next it c = scan) :
    scan.readFrom it text = scan := by
  induction text generalizing it with
  | nil => rfl
  | cons c others ih =>
      rw [readFrom, pass c List.mem_cons_self]
      exact ih fun d mem => pass d (List.mem_cons_of_mem _ mem)

theorem readFrom_noToken (noHash : '#' ∉ text) :
    readFrom ⟨.noToken, first, first, first⟩ it text = ⟨.noToken, first, first, first⟩ := by
  apply readFrom_of_next
  intro c mem it
  apply if_neg
  rintro rfl
  exact noHash mem

theorem readFrom_startingKey (noLetter : ∀ c ∈ text, c.isAlpha = false) :
    readFrom ⟨.startingKey, first, first, first⟩ it text = ⟨.startingKey, first, first, first⟩ := by
  apply readFrom_of_next
  intro c mem it
  apply if_neg
  rw [noLetter c mem]
  exact Bool.false_ne_true

theorem readFrom_parsingKey {start : Nat} (solid : ∀ c ∈ text, isSpace c = false) :
    readFrom ⟨.parsingKey, start, first, first⟩ it text = ⟨.parsingKey, start, first, first⟩ := by
  apply readFrom_of_next
  intro c mem it
  apply if_neg
  rw [solid c mem]
  exact Bool.false_ne_true

/-- The rest of a line does not matter for the word. -/
theorem readFrom_behindKey (behind : scan.state = .startingArgs ∨ scan.state = .parsingArgs) :
    (scan.readFrom it text).tokenBegin = scan.tokenBegin ∧
      (scan.readFrom it text).tokenEnd = scan.tokenEnd := by
  induction text generalizing scan it with
  | nil => exact ⟨rfl, rfl⟩
  | cons c others ih =>
      have step : ((scan.next it c).state = .startingArgs ∨
          (scan.next it c).state = .parsingArgs) ∧
          (scan.next it c).tokenBegin = scan.tokenBegin ∧
            (scan.next it c).tokenEnd = scan.tokenEnd := by
        rcases behind with state | state
        · rw [next, state]
          dsimp only
          split_ifs
          · exact ⟨Or.inr rfl, rfl, rfl⟩
          · exact ⟨Or.inl state, rfl, rfl⟩
        · rw [next, state]
          exact ⟨Or.inr state, rfl, rfl⟩
      rcases ih step.1 with ⟨tokenBegin, tokenEnd⟩
      exact ⟨tokenBegin.trans step.2.1, tokenEnd.trans step.2.2⟩

/-- The first letter behind the first `#` begins the word. -/
theorem readFrom_letter (noHash : '#' ∉ indent) (noLetter : ∀ c ∈ gap, c.isAlpha = false)
    (alpha : letter.isAlpha = true) (rest : List Char) :
    readFrom ⟨.noToken, first, first, first⟩ 0 (indent ++ '#' :: (gap ++ letter :: rest)) =
      readFrom ⟨.parsingKey, indent.length + 1 + gap.length, first, first⟩
        (indent.length + 1 + gap.length + 1) rest := by
  rw [readFrom_append, readFrom_noToken noHash, readFrom, readFrom_append]
  have hash : next ⟨.noToken, first, first, first⟩ (0 + indent.length) '#' =
      ⟨.startingKey, first, first, first⟩ := rfl
  rw [hash, readFrom_startingKey noLetter, readFrom]
  have key : next ⟨.startingKey, first, first, first⟩ (0 + indent.length + 1 + gap.length) letter =
      ⟨.parsingKey, 0 + indent.length + 1 + gap.length, first, first⟩ := if_pos alpha
  rw [key, Nat.zero_add]

end DirectiveScan

/-! ## The result -/

/-- Nothing is found without a letter behind a `#`. -/
theorem findDirective_of_not_hashLetter (noLetter : ¬HashLetter line) :
    findDirective line = none := by
  have unchanged : (DirectiveScan.readFrom ⟨.noToken, line.length, line.length, line.length⟩ 0
      line).tokenBegin = line.length := by
    cases found : line.find? (· = '#') with
    | none =>
        rw [DirectiveScan.readFrom_noToken]
        intro mem
        have never := List.find?_eq_none.mp found '#' mem
        simp at never
    | some hash =>
        rcases List.find?_eq_some_iff_append.mp found with ⟨isHash, before, after, lineEq, earlier⟩
        rw [decide_eq_true_eq] at isHash
        subst isHash
        have noHash : '#' ∉ before := by
          intro mem
          have never := earlier '#' mem
          simp at never
        have letterless : ∀ c ∈ after, c.isAlpha = false := by
          intro c mem
          rw [Bool.eq_false_iff]
          intro alpha
          exact noLetter ⟨before, after, lineEq, c, mem, alpha⟩
        generalize line.length = length
        rw [lineEq, DirectiveScan.readFrom_append, DirectiveScan.readFrom_noToken noHash,
          DirectiveScan.readFrom]
        change (DirectiveScan.readFrom ⟨.startingKey, length, length, length⟩ _ after).tokenBegin =
          length
        rw [DirectiveScan.readFrom_startingKey letterless]
  exact if_pos unchanged

/-- Where the word begins. -/
theorem findDirective_of_begun {found : DirectiveScan} (begun : found.tokenBegin < line.length)
    (overEq : DirectiveScan.readFrom ⟨.noToken, line.length, line.length, line.length⟩ 0 line = found) :
    findDirective line = some
      { key := (line.take found.tokenEnd).drop found.tokenBegin
        args := line.drop found.argsBegin } := by
  rw [findDirective, overEq]
  exact if_neg (Nat.ne_of_lt begun)

/-- The word of a directive is found if nothing is behind it. -/
theorem findDirective_bare (noHash : '#' ∉ indent) (noLetter : ∀ c ∈ gap, c.isAlpha = false)
    (alpha : letter.isAlpha = true) (solid : ∀ c ∈ more, isSpace c = false) :
    findDirective (indent ++ '#' :: (gap ++ letter :: more)) = some ⟨letter :: more, []⟩ := by
  have front : indent ++ '#' :: (gap ++ letter :: more) =
      (indent ++ '#' :: gap) ++ letter :: more := by simp
  have front_length : (indent ++ '#' :: gap).length = indent.length + 1 + gap.length := by
    rw [List.length_append, List.length_cons]
    omega
  have begun : indent.length + 1 + gap.length <
      (indent ++ '#' :: (gap ++ letter :: more)).length := by
    rw [front, List.length_append, List.length_cons]
    omega
  generalize lineEq : indent ++ '#' :: (gap ++ letter :: more) = line at begun front
  have overEq :
      DirectiveScan.readFrom ⟨.noToken, line.length, line.length, line.length⟩ 0 line =
        ⟨.parsingKey, indent.length + 1 + gap.length, line.length, line.length⟩ := by
    generalize line.length = length
    rw [← lineEq, DirectiveScan.readFrom_letter noHash noLetter alpha,
      DirectiveScan.readFrom_parsingKey solid]
  rw [findDirective_of_begun begun overEq]
  dsimp only
  rw [List.take_length, List.drop_length, front, ← front_length, List.drop_left]

/-- The last character of a word is lost if there is whitespace behind it. -/
theorem findDirective_spaced (noHash : '#' ∉ indent) (noLetter : ∀ c ∈ gap, c.isAlpha = false)
    (alpha : letter.isAlpha = true) (solid : ∀ c ∈ more, isSpace c = false)
    (space : isSpace c = true) : ∃ args,
      findDirective (indent ++ '#' :: (gap ++ letter :: (more ++ c :: rest))) =
        some ⟨(letter :: more).dropLast, args⟩ := by
  have front : indent ++ '#' :: (gap ++ letter :: (more ++ c :: rest)) =
      (indent ++ '#' :: gap) ++ ((letter :: more) ++ c :: rest) := by simp
  have front_length : (indent ++ '#' :: gap).length = indent.length + 1 + gap.length := by
    rw [List.length_append, List.length_cons]
    omega
  have begun : indent.length + 1 + gap.length <
      (indent ++ '#' :: (gap ++ letter :: (more ++ c :: rest))).length := by
    rw [front]
    simp only [List.length_append, List.length_cons]
    omega
  generalize lineEq : indent ++ '#' :: (gap ++ letter :: (more ++ c :: rest)) = line at begun front
  have scanned : ∃ found, DirectiveScan.readFrom ⟨.noToken, line.length, line.length, line.length⟩ 0
      line = found ∧ found.tokenBegin = indent.length + 1 + gap.length ∧
        found.tokenEnd = indent.length + 1 + gap.length + more.length := by
    refine ⟨_, rfl, ?_⟩
    generalize line.length = length
    rw [← lineEq, DirectiveScan.readFrom_letter noHash noLetter alpha, DirectiveScan.readFrom_append,
      DirectiveScan.readFrom_parsingKey solid, DirectiveScan.readFrom]
    have spaced : DirectiveScan.next
        ⟨.parsingKey, indent.length + 1 + gap.length, length, length⟩
        (indent.length + 1 + gap.length + 1 + more.length) c =
          ⟨.startingArgs, indent.length + 1 + gap.length,
            indent.length + 1 + gap.length + 1 + more.length - 1, length⟩ := if_pos space
    rw [spaced]
    have kept := @DirectiveScan.readFrom_behindKey rest
      ⟨.startingArgs, indent.length + 1 + gap.length,
        indent.length + 1 + gap.length + 1 + more.length - 1, length⟩
      (indent.length + 1 + gap.length + 1 + more.length + 1) (Or.inl rfl)
    refine ⟨kept.1, kept.2.trans ?_⟩
    dsimp only
    omega
  rcases scanned with ⟨found, overEq, tokenBegin, tokenEnd⟩
  refine ⟨line.drop found.argsBegin, ?_⟩
  rw [findDirective_of_begun (by rw [tokenBegin]; exact begun) overEq, tokenBegin, tokenEnd]
  have cut : (line.take (indent.length + 1 + gap.length + more.length)).drop
      (indent.length + 1 + gap.length) = (letter :: more).dropLast := by
    rw [List.drop_take, front, ← front_length, List.drop_left, Nat.add_sub_cancel_left,
      List.dropLast_eq_take, List.length_cons, Nat.add_sub_cancel]
    exact List.take_append_of_le_length (Nat.le_succ _)
  rw [cut]

/-! ## Directives -/

theorem Blank.hash_not_mem (blank : Blank text) : '#' ∉ text := by
  intro mem
  have space := blank '#' mem
  revert space
  decide

theorem Blank.isAlpha (blank : Blank text) : ∀ c ∈ text, c.isAlpha = false :=
  fun c mem => isAlpha_of_isSpace (blank c mem)

theorem IsWord.exists_cons (isWord : IsWord word) : ∃ letter more, word = letter :: more ∧
    letter.isAlpha = true ∧ ∀ c ∈ more, isSpace c = false := by
  rcases isWord with ⟨⟨letter, mem, alpha⟩, solid⟩
  cases word with
  | nil => cases mem
  | cons first more =>
      cases mem
      exact ⟨letter, more, rfl, alpha, fun c mem => solid c (List.mem_cons_of_mem _ mem)⟩

theorem IsWord.dropWhile (isWord : IsWord word) (rest : List Char) :
    (word ++ rest).dropWhile isSpace = word ++ rest := by
  rcases isWord.exists_cons with ⟨letter, more, rfl, alpha, _⟩
  have solid := isWord.2 letter List.mem_cons_self
  exact List.dropWhile_cons_of_neg (by rw [solid]; exact Bool.false_ne_true)

/-- What is behind the `#` of a directive. -/
theorem behindHash_eq (indentBlank : Blank indent) (gapBlank : Blank gap) (text : List Char) :
    behindHash (indent ++ '#' :: (gap ++ text)) = some (text.dropWhile isSpace) := by
  have front : (indent ++ '#' :: (gap ++ text)).dropWhile isSpace = '#' :: (gap ++ text) := by
    rw [List.dropWhile_append_of_pos indentBlank]
    rfl
  rw [behindHash, front]
  exact congrArg some (List.dropWhile_append_of_pos gapBlank)

theorem exists_of_behindHash (behind : behindHash line = some text) :
    ∃ indent gap, Blank indent ∧ Blank gap ∧ line = indent ++ '#' :: (gap ++ text) := by
  rw [behindHash] at behind
  split at behind
  · rename_i rest front
    cases behind
    refine ⟨line.takeWhile isSpace, rest.takeWhile isSpace, ?_, ?_, ?_⟩
    · exact fun c mem => List.mem_takeWhile_imp mem
    · exact fun c mem => List.mem_takeWhile_imp mem
    · rw [List.takeWhile_append_dropWhile, ← front, List.takeWhile_append_dropWhile]
  · cases behind

/-- The word of a directive ends at whitespace or with the line. -/
theorem directiveWord_eq_some_iff : directiveWord line = some word ↔
    ∃ indent gap rest, Blank indent ∧ Blank gap ∧ IsWord word ∧
      (∀ c ∈ rest.head?, isSpace c = true) ∧ line = indent ++ '#' :: (gap ++ (word ++ rest)) := by
  constructor
  · intro wordEq
    rw [directiveWord] at wordEq
    split at wordEq
    · rename_i letter text behind
      split_ifs at wordEq with alpha
      cases wordEq
      rcases exists_of_behindHash behind with ⟨indent, gap, indentBlank, gapBlank, lineEq⟩
      refine ⟨indent, gap, text.dropWhile (!isSpace ·), indentBlank, gapBlank, ⟨?_, ?_⟩, ?_, ?_⟩
      · exact ⟨letter, rfl, alpha⟩
      · intro c mem
        rcases List.mem_cons.mp mem with rfl | later
        · cases space : isSpace c with
          | false => rfl
          | true => rw [isAlpha_of_isSpace space] at alpha; cases alpha
        · simpa using List.mem_takeWhile_imp later
      · intro c mem
        have stopped := List.head?_dropWhile_not (!isSpace ·) text
        rw [Option.mem_def] at mem
        rw [mem] at stopped
        simpa using stopped
      · rw [List.cons_append, List.takeWhile_append_dropWhile]
        exact lineEq
    · cases wordEq
  · rintro ⟨indent, gap, rest, indentBlank, gapBlank, isWord, spaced, rfl⟩
    rw [directiveWord, behindHash_eq indentBlank gapBlank, isWord.dropWhile]
    rcases isWord.exists_cons with ⟨letter, more, rfl, alpha, solid⟩
    have ended : rest.takeWhile (!isSpace ·) = [] := by
      cases rest with
      | nil => rfl
      | cons c others =>
          apply List.takeWhile_cons_of_neg
          rw [spaced c rfl]
          exact Bool.false_ne_true
    have whole : (more ++ rest).takeWhile (!isSpace ·) = more := by
      rw [List.takeWhile_append_of_pos, ended, List.append_nil]
      intro c mem
      rw [solid c mem]
      rfl
    change (if letter.isAlpha then some (letter :: (more ++ rest).takeWhile (!isSpace ·))
      else none) = _
    rw [if_pos alpha, whole]

/-- A letter behind a `#` is behind the first one. -/
theorem HashLetter.first_hash (hashLetter : HashLetter line) : ∃ before after,
    line = before ++ '#' :: after ∧ '#' ∉ before ∧ ∃ c ∈ after, c.isAlpha = true := by
  rcases hashLetter with ⟨before, after, rfl, letter, mem, alpha⟩
  induction before with
  | nil => exact ⟨[], after, rfl, List.not_mem_nil, letter, mem, alpha⟩
  | cons c others ih =>
      by_cases hash : c = '#'
      · subst hash
        exact ⟨[], _, rfl, List.not_mem_nil, letter,
          List.mem_append_right _ (List.mem_cons_of_mem _ mem), alpha⟩
      · rcases ih with ⟨front, back, lineEq, noHash, found⟩
        refine ⟨c :: front, back, congrArg (c :: ·) lineEq, ?_, found⟩
        intro earlier
        rcases List.mem_cons.mp earlier with same | later
        · exact hash same.symm
        · exact noHash later

theorem HashLetter.exists_found (hashLetter : HashLetter line) :
    ∃ token, findDirective line = some token := by
  rcases hashLetter.first_hash with ⟨before, after, rfl, noHash, letter, mem, alpha⟩
  cases found : after.find? Char.isAlpha with
  | none =>
      have never := List.find?_eq_none.mp found letter mem
      exact absurd alpha never
  | some first =>
      rcases List.find?_eq_some_iff_append.mp found with ⟨firstAlpha, gap, text, rfl, earlier⟩
      have noLetter : ∀ c ∈ gap, c.isAlpha = false := by
        intro c early
        simpa using earlier c early
      have solid : ∀ c ∈ text.takeWhile (!isSpace ·), isSpace c = false := by
        intro c early
        simpa using List.mem_takeWhile_imp early
      rw [← @List.takeWhile_append_dropWhile _ (!isSpace ·) text]
      have stopped := List.head?_dropWhile_not (!isSpace ·) text
      cases rest : text.dropWhile (!isSpace ·) with
      | nil =>
          rw [List.append_nil]
          exact ⟨_, findDirective_bare noHash noLetter firstAlpha solid⟩
      | cons c others =>
          rw [rest] at stopped
          have space : isSpace c = true := by simpa using stopped
          rcases @findDirective_spaced others gap before (text.takeWhile (!isSpace ·)) c first
            noHash noLetter firstAlpha solid space with ⟨args, spaced⟩
          exact ⟨_, spaced⟩

theorem DirectiveLine.directiveWord_eq (directive : DirectiveLine line word args) :
    directiveWord line = some word := by
  cases directive with
  | @intro indent gap _ blank _ indentBlank gapBlank isWord blankBlank argument =>
      rw [directiveWord_eq_some_iff]
      refine ⟨indent, gap, blank ++ args, indentBlank, gapBlank, isWord, ?_, rfl⟩
      intro c mem
      cases blank with
      | nil =>
          rcases argument with rfl | ⟨impossible, _⟩
          · cases mem
          · exact absurd rfl impossible
      | cons first others =>
          cases mem
          exact blankBlank c List.mem_cons_self

theorem DirectiveLine.exists_behindHash (directive : DirectiveLine line word args) :
    ∃ blank, behindHash line = some (word ++ (blank ++ args)) := by
  cases directive with
  | @intro indent gap _ blank _ indentBlank gapBlank isWord _ _ =>
      refine ⟨blank, ?_⟩
      rw [behindHash_eq indentBlank gapBlank, isWord.dropWhile]

theorem hashLetter_of_directiveWord (wordEq : directiveWord line = some word) :
    HashLetter line := by
  rcases directiveWord_eq_some_iff.mp wordEq with ⟨indent, gap, rest, _, _, isWord, _, rfl⟩
  rcases isWord.exists_cons with ⟨letter, more, rfl, alpha, _⟩
  exact ⟨indent, _, rfl, letter, by simp, alpha⟩

theorem startsFor_eq_true_iff {key : List Char} : startsFor key line = true ↔
    ∃ token, findDirective line = some token ∧ token.key = key := by
  rw [startsFor]
  cases found : findDirective line with
  | none => simp
  | some token => simp

/-- Directives are found in a line as it is promised exactly if no letter is behind a `#` or
nothing is behind the word of a directive. -/
theorem findsDirective_iff : FindsDirective line ↔ ¬HashLetter line ∨ BareDirective line := by
  constructor
  · rintro ⟨_, starts⟩
    by_cases hashLetter : HashLetter line
    · right
      rcases hashLetter.exists_found with ⟨token, found⟩
      have wordEq := (starts token.key).mp (startsFor_eq_true_iff.mpr ⟨token, found, rfl⟩)
      rcases directiveWord_eq_some_iff.mp wordEq with
        ⟨indent, gap, rest, indentBlank, gapBlank, isWord, spaced, lineEq⟩
      refine ⟨indent, gap, token.key, indentBlank, gapBlank, isWord, ?_⟩
      cases rest with
      | nil => rw [lineEq, List.append_nil]
      | cons c rest =>
          rcases isWord.exists_cons with ⟨letter, more, keyEq, alpha, solid⟩
          rcases @findDirective_spaced rest gap indent more c letter indentBlank.hash_not_mem
            gapBlank.isAlpha alpha solid (spaced c rfl) with ⟨args, cut⟩
          rw [lineEq, keyEq, List.cons_append] at found
          rw [found] at cut
          have key : token.key = (letter :: more).dropLast := by
            rw [Option.some.inj cut]
          rw [keyEq] at key
          have shorter := congrArg List.length key
          rw [List.length_dropLast, List.length_cons] at shorter
          omega
    · exact Or.inl hashLetter
  · rintro (noLetter | ⟨indent, gap, word, indentBlank, gapBlank, isWord, rfl⟩)
    · constructor
      · intro word args directive
        exact absurd (hashLetter_of_directiveWord directive.directiveWord_eq) noLetter
      · intro key
        rw [startsFor, findDirective_of_not_hashLetter noLetter]
        apply iff_of_false Bool.false_ne_true
        intro wordEq
        exact noLetter (hashLetter_of_directiveWord wordEq)
    · have wordEq : directiveWord (indent ++ '#' :: (gap ++ word)) = some word := by
        rw [directiveWord_eq_some_iff]
        refine ⟨indent, gap, [], indentBlank, gapBlank, isWord, ?_, by rw [List.append_nil]⟩
        intro c mem
        cases mem
      have behind := behindHash_eq indentBlank gapBlank word
      have untouched := isWord.dropWhile []
      rw [List.append_nil] at untouched
      rw [untouched] at behind
      have found : findDirective (indent ++ '#' :: (gap ++ word)) = some ⟨word, []⟩ := by
        rcases isWord.exists_cons with ⟨letter, more, rfl, alpha, solid⟩
        exact findDirective_bare indentBlank.hash_not_mem gapBlank.isAlpha alpha solid
      constructor
      · intro other args directive
        have same := directive.directiveWord_eq
        rw [wordEq] at same
        cases same
        rcases directive.exists_behindHash with ⟨blank, nothing⟩
        rw [behind, Option.some.injEq, List.self_eq_append_right, List.append_eq_nil_iff] at nothing
        rw [found, nothing.2]
      · intro key
        rw [startsFor_eq_true_iff, found, wordEq]
        constructor
        · rintro ⟨token, tokenEq, rfl⟩
          cases tokenEq
          rfl
        · intro same
          cases same
          exact ⟨_, rfl, rfl⟩

end VoxelEngine.Graphics
