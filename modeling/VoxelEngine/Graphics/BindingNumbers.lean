import Mathlib.Data.List.Forall2
import VoxelEngine.Data.Numbering
import VoxelEngine.Graphics.BindingText

/-!
# The numbers of the autobinding preprocessor

A number belongs to the word behind a keyword.  The sources of a shader are annotated as they are
meant exactly if they are legible and if these words tell the names apart.
-/

namespace VoxelEngine.Graphics.Autobinding

open VoxelEngine.Data VoxelEngine.Transition

/-- Each name that is declared has a number of its own, and each source is annotated with these
numbers. -/
def Annotates (sources : List (List Char)) : Prop :=
  ∃ numbering : Numbering,
    (∀ first ∈ sources.flatMap declarations, ∀ second ∈ sources.flatMap declarations,
      first.counter = second.counter →
        numbering first.counter first.name = numbering second.counter second.name →
          first.name = second.name) ∧
    Preprocesses .initial sources (sources.map (annotate numbering))

/-- The same word stands behind the same keyword exactly where the same name is declared. -/
def NamesAgree (sources : List (List Char)) : Prop :=
  ∀ first ∈ sources.flatMap declarations, ∀ second ∈ sources.flatMap declarations,
    first.counter = second.counter → (first.key = second.key ↔ first.name = second.name)

/-- The counter of the keyword that a number is kept for. -/
def keyCounter (key : Keyword × List Char) : Counter :=
  key.1.counter

/-- What numbers are taken for. -/
def keys (pieces : List (Piece (List Char))) : List (Keyword × List Char) :=
  (pieces.filterMap Piece.declaration).map Declaration.key

/-- The maps hold the numbers of what was met so far, and the counters count it. -/
structure Represents (data : AutobindingData) (seen : List (Keyword × List Char)) : Prop where
  find_eq : ∀ (keyword : Keyword) (name : List Char), (data.bindingMap keyword).find name =
    if (keyword, name) ∈ seen then
      some (UInt32.ofNat (rank keyCounter seen (keyword, name)))
    else none
  count_eq : ∀ counter, data.count counter = groupCount keyCounter seen counter

variable {keyword : Keyword} {name text : List Char} {data : AutobindingData}
  {pieces : List (Piece (List Char))} {readings : List (List (Piece (List Char)))}
  {seen final : List (Keyword × List Char)} {sources : List (List Char)}

/-! ## The data of a context -/

theorem bindingMap_bindNext (data : AutobindingData) (keyword other : Keyword)
    (name : List Char) : (data.bindNext keyword name).bindingMap other =
      if other = keyword then (data.bindingMap keyword).emplace
        (name, UInt32.ofNat (data.count keyword.counter))
      else data.bindingMap other := by
  cases keyword <;> cases other <;> rfl

theorem count_bindNext (data : AutobindingData) (keyword : Keyword) (name : List Char)
    (counter : Counter) : (data.bindNext keyword name).count counter =
      data.count counter + if keyword.counter = counter then 1 else 0 := by
  cases keyword <;> cases counter <;> rfl

theorem represents_initial : Represents .initial [] := by
  constructor
  · intro keyword name
    cases keyword <;> rfl
  · intro counter
    cases counter <;> rfl

theorem Represents.bindNext (represents : Represents data seen) (unmet : (keyword, name) ∉ seen) :
    Represents (data.bindNext keyword name) (register seen (keyword, name)) := by
  constructor
  · intro other word
    rw [bindingMap_bindNext]
    by_cases sameKeyword : other = keyword
    · subst sameKeyword
      rw [if_pos rfl, HashTable.find_emplace, represents.find_eq]
      by_cases met : (other, word) ∈ seen
      · have later : (other, word) ∈ register seen (other, name) :=
          mem_register_iff.mpr (Or.inl met)
        rw [if_pos met, if_pos later, rank_of_isPrefix (isPrefix_register _ _) met]
        rfl
      · rw [if_neg met, Option.none_or]
        by_cases sameName : word = name
        · subst sameName
          have now : (other, word) ∈ register seen (other, word) :=
            mem_register_iff.mpr (Or.inr rfl)
          rw [if_pos rfl, if_pos now, rank_register_of_not_mem unmet, represents.count_eq]
          rfl
        · have never : (other, word) ∉ register seen (other, name) := by
            rw [mem_register_iff, not_or]
            refine ⟨met, ?_⟩
            intro same
            exact sameName (congrArg Prod.snd same)
          rw [if_neg sameName, if_neg never]
    · rw [if_neg sameKeyword, represents.find_eq]
      have different : (other, word) ≠ (keyword, name) := by
        intro same
        exact sameKeyword (congrArg Prod.fst same)
      by_cases met : (other, word) ∈ seen
      · have later : (other, word) ∈ register seen (keyword, name) :=
          mem_register_iff.mpr (Or.inl met)
        rw [if_pos met, if_pos later, rank_of_isPrefix (isPrefix_register _ _) met]
      · have never : (other, word) ∉ register seen (keyword, name) := by
          rw [mem_register_iff, not_or]
          exact ⟨met, different⟩
        rw [if_neg met, if_neg never]
  · intro counter
    rw [count_bindNext, represents.count_eq, groupCount_register_of_not_mem unmet]
    rfl

/-- A name is given the number of its key. -/
theorem Represents.bind (represents : Represents data seen)
    (few : (register seen (keyword, name)).length ≤ UInt32.size) :
    (data.bind keyword name).1 =
        rank keyCounter (register seen (keyword, name)) (keyword, name) ∧
      Represents (data.bind keyword name).2 (register seen (keyword, name)) := by
  have find_eq := represents.find_eq keyword name
  by_cases met : (keyword, name) ∈ seen
  · rw [if_pos met] at find_eq
    rw [register_of_mem met] at few ⊢
    have small := @rank_lt_length _ _ _ _ keyCounter _ _ met
    rw [AutobindingData.bind, find_eq]
    constructor
    · dsimp only
      rw [UInt32.toNat_ofNat', Nat.mod_eq_of_lt]
      exact Nat.lt_of_lt_of_le small few
    · exact represents
  · rw [if_neg met] at find_eq
    rw [AutobindingData.bind, find_eq]
    constructor
    · rw [rank_register_of_not_mem met]
      exact represents.count_eq _
    · exact represents.bindNext met

/-! ## Sources -/

@[simp]
theorem keys_keyword (keyword : Keyword) (after : List Char)
    (pieces : List (Piece (List Char))) :
    keys (.keyword keyword after :: pieces) = (keyword, wordOf after) :: keys pieces :=
  rfl

/-- All numbers are those that the keys have in the end. -/
theorem Represents.numbered (represents : Represents data seen)
    (continues : (keys pieces).foldl register seen <+: final)
    (few : final.length ≤ UInt32.size) :
    (numbered data pieces).1 =
        valued (fun keyword after => rank keyCounter final (keyword, wordOf after)) pieces ∧
      Represents (numbered data pieces).2 ((keys pieces).foldl register seen) := by
  induction pieces generalizing data seen with
  | nil => exact ⟨rfl, represents⟩
  | cons piece others ih =>
      cases piece with
      | char c =>
          rcases ih represents continues with ⟨numbers, rest⟩
          rw [Autobinding.numbered, numbers]
          exact ⟨rfl, rest⟩
      | keyword kind after =>
          rw [keys_keyword, List.foldl_cons] at continues ⊢
          have start := (isPrefix_registerAll (register seen (kind, wordOf after))
            (keys others)).trans continues
          rcases represents.bind (Nat.le_trans start.length_le few) with ⟨number, next⟩
          rcases ih next continues with ⟨numbers, rest⟩
          rw [Autobinding.numbered, numbers, number]
          refine ⟨?_, rest⟩
          have met : (kind, wordOf after) ∈ register seen (kind, wordOf after) :=
            mem_register_iff.mpr (Or.inr rfl)
          rw [← rank_of_isPrefix start met]
          rfl

/-- The numbers of all sources of a shader. -/
def numberedAll (data : AutobindingData) :
    List (List (Piece (List Char))) → List (List (Piece Nat))
  | [] => []
  | pieces :: others =>
      (numbered data pieces).1 :: numberedAll (numbered data pieces).2 others

theorem Represents.numberedAll (represents : Represents data seen)
    (continues : (readings.flatMap keys).foldl register seen <+: final)
    (few : final.length ≤ UInt32.size) :
    numberedAll data readings = readings.map
      (valued fun keyword after => rank keyCounter final (keyword, wordOf after)) := by
  induction readings generalizing data seen with
  | nil => rfl
  | cons pieces others ih =>
      rw [List.flatMap_cons, List.foldl_append] at continues
      have start := (isPrefix_registerAll _ (others.flatMap keys)).trans continues
      rcases represents.numbered start few with ⟨numbers, next⟩
      rw [Autobinding.numberedAll, numbers, ih next continues]
      rfl

theorem preprocesses_of_reads (each : List.Forall₂ Reads sources readings)
    (data : AutobindingData) :
    Preprocesses data sources ((numberedAll data readings).map layouts) := by
  induction each generalizing data with
  | nil => exact .nil data
  | cons reads others ih => exact .cons (returns_initial reads data) (ih _)

theorem exists_readings (sources : List (List Char)) :
    ∃ readings, List.Forall₂ Reads sources readings := by
  induction sources with
  | nil => exact ⟨[], .nil⟩
  | cons src others ih =>
      rcases exists_reads src with ⟨pieces, reads⟩
      rcases ih with ⟨readings, each⟩
      exact ⟨pieces :: readings, .cons reads each⟩

/-- Sources that are annotated are read as they are meant, and numbered so. -/
theorem readings_eq_of_annotated {numbering : Numbering}
    (each : List.Forall₂ Reads sources readings)
    (annotated : (numberedAll data readings).map layouts = sources.map (annotate numbering)) :
    readings = sources.map (piecesFrom 0 false) ∧
      numberedAll data readings = readings.map
        (valued fun keyword after =>
          numbering keyword.counter (Declaration.name ⟨keyword, after⟩)) := by
  induction each generalizing data with
  | nil => exact ⟨rfl, rfl⟩
  | cons reads others ih =>
      rw [numberedAll, List.map_cons, List.map_cons, List.cons.injEq] at annotated
      rcases reads_eq_of_layouts_eq reads annotated.1 with ⟨pieces, numbers⟩
      rcases ih annotated.2 with ⟨rest, restNumbers⟩
      rw [numberedAll, restNumbers, numbers, List.map_cons, List.map_cons, pieces, rest]
      exact ⟨rfl, rfl⟩

theorem valued_eq_iff {first second : Keyword → List Char → Nat} :
    valued first pieces = valued second pieces ↔
      ∀ declaration ∈ pieces.filterMap Piece.declaration,
        first declaration.keyword declaration.after =
          second declaration.keyword declaration.after := by
  induction pieces with
  | nil => simp [valued]
  | cons piece others ih =>
      rw [valued, valued, List.map_cons, List.map_cons, List.cons.injEq]
      cases piece with
      | char c =>
          rw [List.filterMap_cons_none rfl, ← ih]
          exact and_iff_right rfl
      | keyword kind after =>
          have declared : (Piece.keyword kind after :: others).filterMap Piece.declaration =
              ⟨kind, after⟩ :: others.filterMap Piece.declaration := rfl
          rw [declared, List.forall_mem_cons, ← ih]
          apply and_congr_left'
          simp [Piece.map]

/-! ## Shaders -/

/-- The words that stand behind the keywords of a shader, each one once. -/
def declaredKeys (sources : List (List Char)) : List (Keyword × List Char) :=
  ((sources.flatMap declarations).map Declaration.key).foldl register []

/-- The number that the word behind a declaration gets. -/
def keyNumber (sources : List (List Char)) (declaration : Declaration) : Nat :=
  rank keyCounter (declaredKeys sources) declaration.key

/-- Declarations with the same counter have the same number exactly if their words are the
same. -/
theorem keyNumber_eq_iff {first second : Declaration}
    (mem : first ∈ sources.flatMap declarations) (sameCounter : first.counter = second.counter) :
    keyNumber sources first = keyNumber sources second ↔ first.key = second.key := by
  apply rank_inj
  · exact mem_registerAll_iff.mpr (Or.inr (List.mem_map_of_mem mem))
  · exact sameCounter

theorem flatMap_keys (sources : List (List Char)) :
    (sources.map (piecesFrom 0 false)).flatMap keys =
      (sources.flatMap declarations).map Declaration.key := by
  rw [List.flatMap_map, List.map_flatMap]
  rfl

/-- Numbers of sources that are read as they are meant. -/
theorem numberedAll_initial (few : (declaredKeys sources).length ≤ UInt32.size) :
    numberedAll .initial (sources.map (piecesFrom 0 false)) =
      (sources.map (piecesFrom 0 false)).map
        (valued fun keyword after => keyNumber sources ⟨keyword, after⟩) := by
  apply represents_initial.numberedAll
  · rw [flatMap_keys]
    exact List.prefix_rfl
  · exact few

/-- All sources are read as they are meant exactly if they are legible. -/
@[simp]
theorem reads_piecesFrom_iff :
    List.Forall₂ Reads sources (sources.map (piecesFrom 0 false)) ↔
      ∀ src ∈ sources, Legible false src := by
  rw [List.forall₂_map_right_iff, List.forall₂_same]
  apply forall₂_congr
  intro src _
  constructor
  · intro reads
    exact (reads_eq_piecesFrom_iff reads).mp rfl
  · intro legible
    rcases exists_reads src with ⟨pieces, reads⟩
    rw [← (reads_eq_piecesFrom_iff reads).mpr legible]
    exact reads

/-- Two ways to number the declarations of all sources. -/
theorem map_valued_eq_iff {first second : Keyword → List Char → Nat} :
    (sources.map (piecesFrom 0 false)).map (valued first) =
        (sources.map (piecesFrom 0 false)).map (valued second) ↔
      ∀ declaration ∈ sources.flatMap declarations,
        first declaration.keyword declaration.after =
          second declaration.keyword declaration.after := by
  rw [List.map_inj_left, List.forall_mem_map, List.forall_mem_flatMap]
  apply forall₂_congr
  intro src _
  exact valued_eq_iff

/-- Legible sources are annotated with some numbers exactly if these are the numbers of the words
behind the declarations. -/
theorem preprocesses_annotate_iff {numbering : Numbering}
    (few : (declaredKeys sources).length ≤ UInt32.size)
    (each : List.Forall₂ Reads sources (sources.map (piecesFrom 0 false))) :
    Preprocesses .initial sources (sources.map (annotate numbering)) ↔
      ∀ declaration ∈ sources.flatMap declarations,
        keyNumber sources declaration = numbering declaration.counter declaration.name := by
  have run := preprocesses_of_reads each .initial
  have numbers := numberedAll_initial few
  have agree := @map_valued_eq_iff sources
    (fun keyword after => keyNumber sources ⟨keyword, after⟩)
    (fun keyword after => numbering keyword.counter (Declaration.name ⟨keyword, after⟩))
  constructor
  · intro annotated
    have annotation := (readings_eq_of_annotated each (run.unique annotated)).2
    rw [numbers] at annotation
    exact agree.mp annotation
  · intro same
    rw [numbers, agree.mpr same, List.map_map, List.map_map] at run
    exact run

/-- The number of the first declaration of a name. -/
def firstNumber (sources : List (List Char)) : Numbering := fun counter name =>
  ((sources.flatMap declarations).find? fun declaration =>
    declaration.counter = counter ∧ declaration.name = name).elim 0 (keyNumber sources)

/-- If each name goes with a word, then its number is the one of all its declarations. -/
theorem firstNumber_eq (agree : NamesAgree sources) {declaration : Declaration}
    (mem : declaration ∈ sources.flatMap declarations) :
    firstNumber sources declaration.counter declaration.name = keyNumber sources declaration := by
  rw [firstNumber]
  cases found : (sources.flatMap declarations).find? fun other =>
      other.counter = declaration.counter ∧ other.name = declaration.name with
  | none =>
      have never := List.find?_eq_none.mp found declaration mem
      simp at never
  | some other =>
      have otherMem := List.mem_of_find?_eq_some found
      have same := List.find?_some found
      rw [decide_eq_true_eq] at same
      rw [Option.elim_some, keyNumber_eq_iff otherMem same.1]
      exact (agree other otherMem declaration mem same.1).mpr same.2

/-- The sources of a shader are annotated exactly if they are legible, and the same word stands
behind the same keyword where, and only where, the same name is declared. -/
theorem annotates_iff (few : (declaredKeys sources).length ≤ UInt32.size) :
    Annotates sources ↔ (∀ src ∈ sources, Legible false src) ∧ NamesAgree sources := by
  constructor
  · rintro ⟨numbering, apart, annotated⟩
    rcases exists_readings sources with ⟨readings, each⟩
    have run := preprocesses_of_reads each .initial
    have readingsEq := (readings_eq_of_annotated each (run.unique annotated)).1
    subst readingsEq
    have numbers := (preprocesses_annotate_iff few each).mp annotated
    refine ⟨reads_piecesFrom_iff.mp each, ?_⟩
    intro first firstMem second secondMem sameCounter
    rw [← keyNumber_eq_iff firstMem sameCounter, numbers first firstMem, numbers second secondMem]
    constructor
    · exact apart first firstMem second secondMem sameCounter
    · intro sameName
      rw [sameCounter, sameName]
  · rintro ⟨legible, agree⟩
    have each := reads_piecesFrom_iff.mpr legible
    refine ⟨firstNumber sources, ?_, ?_⟩
    · intro first firstMem second secondMem sameCounter sameNumber
      rw [firstNumber_eq agree firstMem, firstNumber_eq agree secondMem,
        keyNumber_eq_iff firstMem sameCounter] at sameNumber
      exact (agree first firstMem second secondMem sameCounter).mp sameNumber
    · rw [preprocesses_annotate_iff few each]
      intro declaration mem
      exact (firstNumber_eq agree mem).symm

/-- Two stages with a block in common. -/
theorem annotates_stages : Annotates ["UBO A;".toList, "SSBO B UBO A;".toList] := by
  apply (annotates_iff (by decide)).mpr
  constructor
  · intro src mem
    rw [List.mem_cons, List.mem_singleton] at mem
    rcases mem with rfl | rfl
    · exact .declaration .ubo (by decide) (by decide) (by decide) (.nil false)
    · exact .declaration .ssbo (by decide) (by decide) (by decide)
        (.char (by decide)
          (.declaration .ubo (by decide) (by decide) (by decide) (.nil false)))
  · rw [NamesAgree]
    decide

/-- An identifier that begins with the letters of a keyword is taken for a declaration. -/
theorem not_annotates_prefix : ¬Annotates ["vec4 UBO_color;".toList] := by
  rintro ⟨numbering, _, annotated⟩
  have run : Preprocesses .initial ["vec4 UBO_color;".toList]
      ["vec4 layout(std140, binding = 0) uniform _color;".toList] :=
    .cons ⟨20, rfl⟩ (.nil _)
  have same : ["vec4 layout(std140, binding = 0) uniform _color;".toList] =
      ["vec4 UBO_color;".toList] := run.unique annotated
  revert same
  decide

end VoxelEngine.Graphics.Autobinding
