import Mathlib.Data.List.Forall2
import Mathlib.Data.List.Induction

/-!
# Readers that consume from the back

A reader takes symbols from the back of a span and leaves the rest.  It fails when it
would take more symbols than there are.  A layout describes by which symbols a value is
represented; a reader recognizes a layout when it returns a value exactly where the span
ends in a representation of that value.  Recognition is closed under the ways in which
readers are put together.
-/

namespace VoxelEngine.Serialize

universe u v w

variable {β : Type u} {α : Type v} {γ : Type w}

/-- A reader that takes symbols from the back of a span. -/
abbrev Reader (β : Type u) (α : Type v) :=
  List β → Option (α × List β)

/-- The representations of a value. -/
abbrev Layout (β : Type u) (α : Type v) :=
  α → List β → Prop

/-- The reader returns a value exactly where the span ends in a representation of it. -/
def Recognizes (read : Reader β α) (layout : Layout β α) : Prop :=
  ∀ source value rest,
    read source = some (value, rest) ↔ ∃ used, layout value used ∧ source = rest ++ used

/-- `take_back` -/
def takeBack : Reader β β := fun source =>
  match source.getLast? with
  | some last => some (last, source.dropLast)
  | none => none

/-- `take_back_n` -/
def takeBackN (count : Nat) : Reader β (List β) := fun source =>
  if count ≤ source.length then
    some (source.drop (source.length - count), source.take (source.length - count))
  else none

/-- A list of a fixed number of values. -/
abbrev Many (α : Type v) (count : Nat) :=
  { values : List α // values.length = count }

/-- One more value in front. -/
def Many.cons {count : Nat} (value : α) (values : Many α count) : Many α (count + 1) :=
  ⟨value :: values.val, by rw [List.length_cons, values.property]⟩

/-- Read a fixed number of values, in the order in which they are read. -/
def readMany (read : Reader β α) : (count : Nat) → Reader β (Many α count)
  | 0, source => some (⟨[], rfl⟩, source)
  | count + 1, source =>
      (read source).bind fun result =>
        (readMany read count result.2).map fun others => (others.1.cons result.1, others.2)

/-- The last read value is represented first. -/
def manyLayout (layout : Layout β α) : Layout β (List α) := fun values used =>
  ∃ pieces, List.Forall₂ layout values pieces ∧ used = pieces.reverse.flatten

@[simp]
theorem takeBackN_append (rest used : List β) :
    takeBackN used.length (rest ++ used) = some (used, rest) := by
  simp [takeBackN]

theorem recognizes_takeBackN (count : Nat) :
    Recognizes (takeBackN (β := β) count)
      (fun value used => value = used ∧ used.length = count) := by
  intro source value rest
  constructor
  · intro read
    unfold takeBackN at read
    split at read
    · rename_i enough
      cases read
      refine ⟨_, ⟨rfl, ?_⟩, (List.take_append_drop _ source).symm⟩
      rw [List.length_drop]
      omega
    · cases read
  · rintro ⟨used, ⟨rfl, rfl⟩, rfl⟩
    exact takeBackN_append rest value

/-- What a reader leaves is what stands before the symbols it took. -/
theorem Recognizes.read_append {read : Reader β α} {layout : Layout β α}
    (recognizes : Recognizes read layout) {value : α} {used : List β}
    (represented : layout value used) (rest : List β) :
    read (rest ++ used) = some (value, rest) :=
  (recognizes _ _ _).mpr ⟨used, represented, rfl⟩

/-- A reader fails exactly where the span does not end in any representation. -/
theorem Recognizes.isSome_iff {read : Reader β α} {layout : Layout β α}
    (recognizes : Recognizes read layout) (source : List β) :
    (read source).isSome = true ↔
      ∃ value rest used, layout value used ∧ source = rest ++ used := by
  rw [Option.isSome_iff_exists]
  constructor
  · rintro ⟨⟨value, rest⟩, readEq⟩
    rcases (recognizes _ _ _).mp readEq with ⟨used, represented, eq⟩
    exact ⟨value, rest, used, represented, eq⟩
  · rintro ⟨value, rest, used, represented, eq⟩
    exact ⟨(value, rest), (recognizes _ _ _).mpr ⟨used, represented, eq⟩⟩

/-- Reading one value after another, the second depending on the first. -/
theorem Recognizes.bind {first : Reader β α} {firstLayout : Layout β α}
    (firstRecognizes : Recognizes first firstLayout) {second : α → Reader β γ}
    {secondLayout : α → Layout β γ}
    (secondRecognizes : ∀ value, Recognizes (second value) (secondLayout value)) :
    Recognizes (fun source => (first source).bind fun result => second result.1 result.2)
      (fun value used => ∃ middle firstUsed secondUsed,
        firstLayout middle firstUsed ∧ secondLayout middle value secondUsed ∧
          used = secondUsed ++ firstUsed) := by
  intro source value rest
  rw [Option.bind_eq_some_iff]
  constructor
  · rintro ⟨⟨middle, left⟩, firstRead, secondRead⟩
    rcases (firstRecognizes _ _ _).mp firstRead with ⟨firstUsed, firstRepresented, rfl⟩
    rcases (secondRecognizes middle _ _ _).mp secondRead with
      ⟨secondUsed, secondRepresented, rfl⟩
    exact ⟨secondUsed ++ firstUsed,
      ⟨middle, firstUsed, secondUsed, firstRepresented, secondRepresented, rfl⟩,
      List.append_assoc rest secondUsed firstUsed⟩
  · rintro ⟨used, ⟨middle, firstUsed, secondUsed, firstRepresented, secondRepresented, rfl⟩, rfl⟩
    refine ⟨(middle, rest ++ secondUsed), ?_, ?_⟩
    · rw [← List.append_assoc]
      exact firstRecognizes.read_append firstRepresented _
    · exact (secondRecognizes middle).read_append secondRepresented rest

/-- Computing with the value that was read. -/
theorem Recognizes.map {read : Reader β α} {layout : Layout β α}
    (recognizes : Recognizes read layout) (function : α → γ) :
    Recognizes (fun source => (read source).map fun result => (function result.1, result.2))
      (fun value used => ∃ inner, layout inner used ∧ function inner = value) := by
  intro source value rest
  rw [Option.map_eq_some_iff]
  constructor
  · rintro ⟨⟨inner, left⟩, readEq, pairEq⟩
    cases pairEq
    rcases (recognizes _ _ _).mp readEq with ⟨used, represented, eq⟩
    exact ⟨used, ⟨inner, represented, rfl⟩, eq⟩
  · rintro ⟨used, ⟨inner, represented, rfl⟩, rfl⟩
    exact ⟨(inner, rest), recognizes.read_append represented rest, rfl⟩

/-- Repeated reading recognizes the concatenation of representations. -/
theorem Recognizes.readMany {read : Reader β α} {layout : Layout β α}
    (recognizes : Recognizes read layout) (count : Nat) :
    Recognizes (readMany read count) (fun values used => manyLayout layout values.val used) := by
  induction count with
  | zero =>
      intro source values rest
      constructor
      · intro readEq
        cases readEq
        exact ⟨[], ⟨[], List.Forall₂.nil, rfl⟩, (List.append_nil _).symm⟩
      · rintro ⟨used, ⟨pieces, represented, rfl⟩, rfl⟩
        have empty : values = ⟨[], rfl⟩ :=
          Subtype.ext (List.eq_nil_of_length_eq_zero values.property)
        subst empty
        cases represented
        simp [Serialize.readMany]
  | succ count ih =>
      have step := recognizes.bind (fun value => ih.map (Many.cons value))
      intro source values rest
      apply (step source values rest).trans
      constructor
      · rintro ⟨used, ⟨value, firstUsed, secondUsed, first, ⟨inner, ⟨pieces, second, rfl⟩, rfl⟩,
          rfl⟩, rfl⟩
        refine ⟨_, ⟨firstUsed :: pieces, List.Forall₂.cons first second, ?_⟩, rfl⟩
        simp
      · rintro ⟨used, ⟨pieces, represented, rfl⟩, rfl⟩
        rcases values with ⟨_ | ⟨value, inner⟩, lengthEq⟩
        · cases lengthEq
        · cases represented with
          | @cons _ piece _ pieces first second =>
              refine ⟨_, ⟨value, piece, pieces.reverse.flatten, first,
                ⟨⟨inner, Nat.succ.inj lengthEq⟩, ⟨pieces, second, rfl⟩, rfl⟩, rfl⟩, ?_⟩
              simp

end VoxelEngine.Serialize
