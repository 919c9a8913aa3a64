import VoxelEngine.Utility.PolymorphOwners

/-!
# What the operations of stack polymorphs do

Every operation keeps the polymorphs formed: a polymorph with a value stores an object of the type
that its mover is for.  What the operations do can then be told in terms of what the polymorphs
have been given.
-/

namespace VoxelEngine.Utility

namespace Polymorphs

variable {α τ : Type}

/-! ## What the polymorphs own -/

/-- Forget how the values are stored. -/
def owners (state : Polymorphs α τ) : Owners α :=
  ⟨Option.map StackPolymorph.owner ∘ state.polymorphs, state.stored, state.destroyed⟩

/-- All polymorphs are formed. -/
def Formed (canContainLocally : τ → Bool) (state : Polymorphs α τ) : Prop :=
  ∀ address polymorph, state.polymorphs address = some polymorph →
    polymorph.Formed canContainLocally

section Owned

variable {canContainLocally : τ → Bool} {state : Polymorphs α τ} {address : α}

@[simp]
theorem owner_owners (state : Polymorphs α τ) (address : α) :
    state.owners.owner address = (state.polymorphs address).map StackPolymorph.owner :=
  rfl

theorem owner_of_found {polymorph : StackPolymorph τ}
    (found : state.polymorphs address = some polymorph) :
    state.owners.owner address = some polymorph.owner := by
  rw [owner_owners, found]
  rfl

theorem value_of_found {polymorph : StackPolymorph τ}
    (found : state.polymorphs address = some polymorph) :
    state.owners.value address = polymorph.value := by
  rw [Owners.value, owner_of_found found]
  exact polymorph.value_owner

theorem owner_of_none (vacant : state.polymorphs address = none) :
    state.owners.owner address = none := by
  rw [owner_owners, vacant]
  rfl

@[simp]
theorem value_owners (state : Polymorphs α τ) (address : α) :
    state.owners.value address = state.value address := by
  rw [Owners.value, owner_owners, value]
  cases state.polymorphs address with
  | none => rfl
  | some polymorph => exact polymorph.value_owner

theorem moved_given {source : α} {moved : StackPolymorph τ}
    (sourceEq : state.polymorphs source = some moved)
    (given : state.owners.owner source ≠ some .fresh) : moved.owner ≠ .fresh := by
  intro fresh
  rw [owner_of_found sourceEq, fresh] at given
  exact given rfl

theorem formed_start : (start : Polymorphs α τ).Formed canContainLocally := by
  rintro address polymorph ⟨⟩

variable [DecidableEq α]

theorem owners_update (polymorphs : α → Option (StackPolymorph τ)) (stored : Nat)
    (destroyed : List Nat) (address : α) (entry : Option (StackPolymorph τ)) :
    (⟨Function.update polymorphs address entry, stored, destroyed⟩ : Polymorphs α τ).owners =
      ⟨Function.update (Option.map StackPolymorph.owner ∘ polymorphs) address
        (entry.map StackPolymorph.owner), stored, destroyed⟩ := by
  rw [owners, Function.comp_update]

theorem Formed.update (formed : state.Formed canContainLocally)
    {entry : Option (StackPolymorph τ)}
    (entryFormed : ∀ polymorph, entry = some polymorph → polymorph.Formed canContainLocally)
    (stored : Nat) (destroyed : List Nat) :
    (⟨Function.update state.polymorphs address entry, stored, destroyed⟩ :
      Polymorphs α τ).Formed canContainLocally := by
  intro other polymorph found
  dsimp only at found
  by_cases same : other = address
  · rw [same, Function.update_self] at found
    exact entryFormed polymorph found
  · rw [Function.update_of_ne same] at found
    exact formed other polymorph found

/-! ## The operations -/

theorem deleteValue_of_get {polymorph : StackPolymorph τ} {object : DerivedObject τ}
    (found : state.polymorphs address = some polymorph) (hasValue : polymorph.hasValue = true)
    (getEq : polymorph.get = some object) :
    state.deleteValue address = some
      ⟨Function.update state.polymorphs address (some { polymorph with hasValue := false }),
        state.stored, state.destroyed ++ object.value.toList⟩ := by
  simp only [deleteValue, found, hasValue, getEq, write, Option.bind_eq_bind, Option.bind_some,
    if_true]
  rfl

theorem deleteValue_eq {polymorph : StackPolymorph τ} (formed : state.Formed canContainLocally)
    (found : state.polymorphs address = some polymorph) :
    state.deleteValue address = some
      ⟨Function.update state.polymorphs address (some { polymorph with hasValue := false }),
        state.stored, state.destroyed ++ polymorph.value.toList⟩ := by
  cases hasValue : polymorph.hasValue with
  | true =>
      rcases (formed address polymorph found).get_eq hasValue with ⟨type, value, _, getEq, valueEq⟩
      rw [deleteValue_of_get found hasValue getEq, valueEq]
  | false =>
      have same : ({ polymorph with hasValue := false } : StackPolymorph τ) = polymorph := by
        rw [← hasValue]
      rw [StackPolymorph.value_of_not_hasValue hasValue, same, ← found, Function.update_eq_self,
        Option.toList_none, List.append_nil]
      simp only [deleteValue, found, hasValue, Option.bind_eq_bind, Option.bind_some,
        Bool.false_eq_true, if_false]
      rfl

/-- The value that was held is destroyed, and a new one is stored. -/
theorem assign_spec {polymorph : StackPolymorph τ} (formed : state.Formed canContainLocally)
    (found : state.polymorphs address = some polymorph) (type : τ) :
    ∃ filled : StackPolymorph τ, filled.Formed canContainLocally ∧
      filled.owner = .holding state.stored ∧
      state.assign canContainLocally address type = some
        ⟨Function.update state.polymorphs address (some filled), state.stored + 1,
          state.destroyed ++ polymorph.value.toList⟩ := by
  let object : DerivedObject τ := ⟨type, some state.stored⟩
  let filled : StackPolymorph τ :=
    { hasValue := true
      moveValue := some type
      storage := if canContainLocally type then .localObject object else .remote object
      isLocal := canContainLocally type }
  have getEq : filled.get = some object := StackPolymorph.get_of_storage rfl rfl rfl
  refine ⟨filled, fun _ => ⟨type, state.stored, rfl, rfl, rfl⟩,
    StackPolymorph.owner_of_get getEq rfl, ?_⟩
  rw [assign, deleteValue_eq formed found]
  simp only [write, Option.bind_eq_bind, Option.bind_some, Function.update_idem]
  rfl

section Move

variable {source target : α} {moved old : StackPolymorph τ} {type : τ} {object : DerivedObject τ}

/-- If the source is the target, its value is destroyed. -/
theorem move_self (formed : state.Formed canContainLocally)
    (sourceEq : state.polymorphs source = some moved) (mover : moved.moveValue = some type) :
    state.move canContainLocally source source = some
      ⟨Function.update state.polymorphs source (some { moved with hasValue := false }),
        state.stored, state.destroyed ++ moved.value.toList⟩ := by
  have cleared := deleteValue_eq formed sourceEq
  simp only [Polymorphs.move, Polymorphs.mover, sourceEq, mover, cleared, write,
    Option.bind_eq_bind, Option.bind_some, Function.update_self, Function.update_idem,
    Bool.false_eq_true, if_false]
  rfl

/-- From a source without a value, only the mover is taken over. -/
theorem move_nothing (formed : state.Formed canContainLocally) (ne : source ≠ target)
    (sourceEq : state.polymorphs source = some moved)
    (targetEq : state.polymorphs target = some old) (mover : moved.moveValue = some type)
    (hasValue : moved.hasValue = false) :
    state.move canContainLocally source target = some
      ⟨Function.update state.polymorphs target
          (some { old with hasValue := false, moveValue := some type }),
        state.stored, state.destroyed ++ old.value.toList⟩ := by
  have cleared := deleteValue_eq formed targetEq
  simp only [Polymorphs.move, Polymorphs.mover, sourceEq, mover, cleared, write, hasValue,
    Option.bind_eq_bind, Option.bind_some, Function.update_self, Function.update_of_ne ne,
    Function.update_idem, Bool.false_eq_true, if_false]
  rfl

/-- A local object is moved out of the source, and what is left of it there is destroyed. -/
theorem move_local (formed : state.Formed canContainLocally) (ne : source ≠ target)
    (sourceEq : state.polymorphs source = some ⟨true, true, .localObject object, some type⟩)
    (targetEq : state.polymorphs target = some old) (fits : canContainLocally type = true) :
    state.move canContainLocally source target = some
      ⟨Function.update (Function.update state.polymorphs target
          (some ⟨true, true, .localObject object, some type⟩)) source
          (some ⟨true, false, .localObject { object with value := none }, some type⟩),
        state.stored, state.destroyed ++ old.value.toList⟩ := by
  have cleared := deleteValue_eq formed targetEq
  simp only [Polymorphs.move, Polymorphs.mover, sourceEq, cleared, write, fits,
    Option.bind_eq_bind, Option.bind_some, Function.update_self, Function.update_of_ne ne,
    Function.update_idem, if_true]
  rw [deleteValue_of_get (Function.update_self _ _ _) rfl rfl]
  simp only [Function.update_idem, Option.toList_none, List.append_nil]

/-- The pointer to a remote object is copied. -/
theorem move_remote (formed : state.Formed canContainLocally) (ne : source ≠ target)
    (sourceEq : state.polymorphs source = some ⟨false, true, .remote object, some type⟩)
    (targetEq : state.polymorphs target = some old) (fits : canContainLocally type = false) :
    state.move canContainLocally source target = some
      ⟨Function.update (Function.update state.polymorphs target
          (some ⟨false, true, .remote object, some type⟩)) source
          (some ⟨false, false, .remote object, some type⟩),
        state.stored, state.destroyed ++ old.value.toList⟩ := by
  have cleared := deleteValue_eq formed targetEq
  simp only [Polymorphs.move, Polymorphs.mover, sourceEq, cleared, write, fits,
    Option.bind_eq_bind, Option.bind_some, Function.update_self, Function.update_of_ne ne,
    Function.update_idem, if_true]
  rfl

/-- What the target held is destroyed, and it is given what the source was given. -/
theorem move_spec (formed : state.Formed canContainLocally)
    (sourceEq : state.polymorphs source = some moved)
    (targetEq : state.polymorphs target = some old) (given : moved.owner ≠ .fresh) :
    ∃ filled left : StackPolymorph τ, filled.Formed canContainLocally ∧
      left.Formed canContainLocally ∧ filled.owner = moved.owner ∧
      left.owner = moved.owner.cleared ∧
      state.move canContainLocally source target = some
        ⟨Function.update (Function.update state.polymorphs target (some filled)) source (some left),
          state.stored, state.destroyed ++ old.value.toList⟩ := by
  have movedFormed := formed source moved sourceEq
  cases mover : moved.moveValue with
  | none => exact absurd (movedFormed.owner_eq_fresh_iff.mpr mover) given
  | some type =>
      by_cases same : source = target
      · subst same
        rw [sourceEq] at targetEq
        cases targetEq
        refine ⟨moved, { moved with hasValue := false }, movedFormed,
          StackPolymorph.formed_of_not_hasValue rfl, rfl, movedFormed.owner_cleared, ?_⟩
        rw [Function.update_idem]
        exact move_self formed sourceEq mover
      · cases hasValue : moved.hasValue with
        | false =>
            have ownerEq := StackPolymorph.owner_eq_empty hasValue mover
            refine ⟨{ old with hasValue := false, moveValue := some type }, moved,
              StackPolymorph.formed_of_not_hasValue rfl, movedFormed, ?_, ?_, ?_⟩
            · rw [ownerEq]
              exact StackPolymorph.owner_eq_empty rfl rfl
            · rw [ownerEq]
              rfl
            · rw [Function.update_comm (Ne.symm same), ← sourceEq, Function.update_eq_self]
              exact move_nothing formed same sourceEq targetEq mover hasValue
        | true =>
            rcases movedFormed hasValue with ⟨_, value, moverEq, isLocal, storage⟩
            rw [mover] at moverEq
            cases moverEq
            have ownerEq : moved.owner = .holding value :=
              StackPolymorph.owner_of_get (StackPolymorph.get_of_storage hasValue isLocal storage)
                rfl
            cases fits : canContainLocally type with
            | true =>
                rw [fits] at isLocal storage
                have movedEq := StackPolymorph.eq_of_fields isLocal hasValue
                  (storage.trans (if_pos rfl)) mover
                refine ⟨moved, ⟨true, false, .localObject ⟨type, none⟩, some type⟩, movedFormed,
                  StackPolymorph.formed_of_not_hasValue rfl, rfl, ?_, ?_⟩
                · rw [ownerEq]
                  exact StackPolymorph.owner_eq_empty rfl rfl
                · rw [movedEq] at sourceEq ⊢
                  exact move_local formed same sourceEq targetEq fits
            | false =>
                rw [fits] at isLocal storage
                have movedEq := StackPolymorph.eq_of_fields isLocal hasValue
                  (storage.trans (if_neg Bool.false_ne_true)) mover
                refine ⟨moved, ⟨false, false, .remote ⟨type, some value⟩, some type⟩, movedFormed,
                  StackPolymorph.formed_of_not_hasValue rfl, rfl, ?_, ?_⟩
                · rw [ownerEq]
                  exact StackPolymorph.owner_eq_empty rfl rfl
                · rw [movedEq] at sourceEq ⊢
                  exact move_remote formed same sourceEq targetEq fits

end Move

end Owned

end Polymorphs

end VoxelEngine.Utility
