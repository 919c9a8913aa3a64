import VoxelEngine.Input.InputBinder

/-!
# The handlers that a binder registers

While the manager is not dispatching, handlers are added and erased at once.  The table of a type
of events then has one handler for each place at which the type is listed by its kind, if the
binder has data for this kind, and none otherwise.
-/

namespace VoxelEngine.Input

open VoxelEngine.Event

/-- The handlers for one type of events, when those for a list of types have these identifiers. -/
def handlersAt (handler : TypeRef) (types : List EventType) (ids : List RawHandler)
    (type : EventType) : List (HandlerEntry TypeRef) :=
  ((types.zip ids).filter fun entry => entry.1 = type).map fun entry => (entry.2, handler)

theorem mem_handlersAt_iff {handler : TypeRef} {types : List EventType} {ids : List RawHandler}
    {type : EventType} {entry : HandlerEntry TypeRef} :
    entry ∈ handlersAt handler types ids type ↔
      (type, entry.1) ∈ types.zip ids ∧ entry.2 = handler := by
  rw [handlersAt, List.mem_map]
  constructor
  · rintro ⟨listed, mem, rfl⟩
    rcases List.mem_filter.mp mem with ⟨inZip, same⟩
    rw [← of_decide_eq_true same]
    exact ⟨inZip, rfl⟩
  · rintro ⟨inZip, rfl⟩
    exact ⟨(type, entry.1), List.mem_filter.mpr ⟨inZip, decide_eq_true rfl⟩, rfl⟩

theorem handlersAt_of_not_mem {handler : TypeRef} {types : List EventType} {ids : List RawHandler}
    {type : EventType} (absent : type ∉ types) : handlersAt handler types ids type = [] := by
  apply List.eq_nil_iff_forall_not_mem.mpr
  intro entry mem
  exact absent (List.of_mem_zip (mem_handlersAt_iff.mp mem).1).1

theorem handlersAt_cons (handler : TypeRef) (first : EventType) (rest : List EventType)
    (id : RawHandler) (ids : List RawHandler) (type : EventType) :
    handlersAt handler (first :: rest) (id :: ids) type =
      if first = type then (id, handler) :: handlersAt handler rest ids type
      else handlersAt handler rest ids type := by
  rw [handlersAt, handlersAt, List.zip_cons_cons]
  by_cases same : first = type
  · simp [same]
  · simp [same]

/-- There is one handler for each place at which the type is listed. -/
theorem length_handlersAt {handler : TypeRef} {types : List EventType} {ids : List RawHandler}
    (lengthEq : ids.length = types.length) (type : EventType) :
    (handlersAt handler types ids type).length = types.count type := by
  induction types generalizing ids with
  | nil => rfl
  | cons first rest ih =>
      cases ids with
      | nil => cases lengthEq
      | cons id ids =>
          have later := ih (Nat.succ.inj lengthEq)
          rw [handlersAt_cons]
          by_cases same : first = type
          · simp [same, later]
          · simp [same, later]

theorem nodup_handlersAt {handler : TypeRef} {types : List EventType} {ids : List RawHandler}
    (lengthEq : ids.length = types.length) (nodup : ids.Nodup) (type : EventType) :
    ((handlersAt handler types ids type).map Prod.fst).Nodup := by
  have sublist : ((handlersAt handler types ids type).map Prod.fst).Sublist ids := by
    rw [handlersAt, List.map_map]
    have zipped := (@List.filter_sublist _ (fun entry => decide (entry.1 = type))
      (types.zip ids)).map Prod.snd
    rwa [List.map_snd_zip (Nat.le_of_eq lengthEq)] at zipped
  exact nodup.sublist sublist

section Register

variable {handler : TypeRef} {types : List EventType} {manager : SimpleDispatcher EventType TypeRef}

/-- The identifiers are consecutive, up to the end of the numbers. -/
theorem ids_registerTypes (handler : TypeRef) (types : List EventType)
    (manager : SimpleDispatcher EventType TypeRef) :
    (registerTypes handler types manager).2 =
      (List.range types.length).map fun place => manager.nextId + UInt32.ofNat place := by
  induction types generalizing manager with
  | nil => rfl
  | cons type rest ih =>
      have next : (manager.addHandler type 0 handler).nextId = manager.nextId + 1 := rfl
      change manager.nextId :: (registerTypes handler rest (manager.addHandler type 0 handler)).2 =
        _
      rw [ih, next, List.length_cons, List.range_succ_eq_map, List.map_cons, List.map_map]
      congr 1
      · exact (UInt32.add_zero _).symm
      · apply List.map_congr_left
        intro place _
        change manager.nextId + 1 + UInt32.ofNat place = manager.nextId + UInt32.ofNat (place + 1)
        rw [UInt32.ofNat_add, UInt32.add_comm (UInt32.ofNat place), ← UInt32.add_assoc]
        rfl

@[simp]
theorem length_ids_registerTypes (handler : TypeRef) (types : List EventType)
    (manager : SimpleDispatcher EventType TypeRef) :
    (registerTypes handler types manager).2.length = types.length := by
  rw [ids_registerTypes, List.length_map, List.length_range]

/-- So few handlers get different identifiers. -/
theorem nodup_ids_registerTypes (few : types.length ≤ 4) :
    (registerTypes handler types manager).2.Nodup := by
  rw [ids_registerTypes]
  apply List.Nodup.map_on _ List.nodup_range
  intro first firstMem second secondMem same
  rw [List.mem_range] at firstMem secondMem
  have size : UInt32.size = 4294967296 := rfl
  have small := congrArg UInt32.toNat ((UInt32.add_right_inj _).mp same)
  rw [UInt32.toNat_ofNat_of_lt' (by omega), UInt32.toNat_ofNat_of_lt' (by omega)] at small
  exact small

theorem addHandler_of_idle (idle : manager.currentlyDispatched = []) (type : EventType) :
    (manager.addHandler type 0 handler).handlers =
        Function.update manager.handlers type
          ((manager.handlers type).emplaceBack 0 (manager.nextId, handler)) ∧
      (manager.addHandler type 0 handler).currentlyDispatched = [] := by
  simp [SimpleDispatcher.addHandler, SimpleDispatcher.performOrDefer,
    SimpleDispatcher.isDispatching, idle, PendingAction.perform]

theorem removeHandler_of_idle (idle : manager.currentlyDispatched = []) (type : EventType)
    (id : RawHandler) :
    (manager.removeHandler type id).handlers =
        Function.update manager.handlers type ((manager.handlers type).erase id) ∧
      (manager.removeHandler type id).currentlyDispatched = [] := by
  simp [SimpleDispatcher.removeHandler, SimpleDispatcher.performOrDefer,
    SimpleDispatcher.isDispatching, idle, PendingAction.perform]

/-- Registering adds the handlers to the tables of the listed types. -/
theorem registerTypes_spec (idle : manager.currentlyDispatched = []) :
    (registerTypes handler types manager).1.currentlyDispatched = [] ∧
      ∀ type, (((registerTypes handler types manager).1.handlers type).entries).Perm
        ((manager.handlers type).entries ++
          handlersAt handler types (registerTypes handler types manager).2 type) := by
  induction types generalizing manager with
  | nil => exact ⟨idle, fun type => by rw [handlersAt_of_not_mem List.not_mem_nil, List.append_nil]; rfl⟩
  | cons first rest ih =>
      rcases addHandler_of_idle idle first with ⟨handlersEq, stillIdle⟩
      rcases ih stillIdle with ⟨restIdle, restPerm⟩
      apply And.intro restIdle
      intro type
      apply (restPerm type).trans
      rw [handlersEq, registerTypes, handlersAt_cons]
      by_cases same : first = type
      · rw [same, Function.update_self, if_pos rfl]
        have added := HandlerTable.entries_emplaceBack (manager.handlers type) 0
          (manager.nextId, handler)
        apply (added.append_right _).trans
        rw [List.append_assoc, List.singleton_append]
      · rw [Function.update_of_ne (Ne.symm same), if_neg same]

end Register

/-- Unregistering takes the handlers out of the tables. -/
theorem unregisterTypes_spec {manager : SimpleDispatcher EventType TypeRef}
    (idle : manager.currentlyDispatched = [])
    (nodup : ∀ type, ((manager.handlers type).entries.map Prod.fst).Nodup)
    (types : List EventType) (ids : List RawHandler) :
    (unregisterTypes types ids manager).currentlyDispatched = [] ∧
      ∀ type, (((unregisterTypes types ids manager).handlers type).entries).Perm
        ((manager.handlers type).entries.filter fun entry =>
          (type, entry.1) ∉ types.zip ids) := by
  rw [unregisterTypes]
  induction types.zip ids generalizing manager with
  | nil =>
      refine ⟨idle, fun type => ?_⟩
      rw [List.filter_eq_self.mpr]
      · exact List.Perm.refl _
      · simp
  | cons first rest ih =>
      rcases removeHandler_of_idle idle first.1 first.2 with ⟨handlersEq, stillIdle⟩
      have erased : ∀ type,
          (((manager.removeHandler first.1 first.2).handlers type).entries).Perm
            ((manager.handlers type).entries.filter fun entry => (type, entry.1) ≠ first) := by
        intro type
        rw [handlersEq]
        by_cases same : type = first.1
        · rw [same, Function.update_self]
          apply (HandlerTable.entries_erase_of_nodup (nodup first.1) first.2).trans
          apply List.Perm.of_eq
          congr 1
          funext entry
          apply decide_eq_decide.mpr
          rw [not_iff_not, Prod.ext_iff]
          exact ⟨fun equal => ⟨rfl, equal⟩, fun equal => equal.2⟩
        · rw [Function.update_of_ne same, List.filter_eq_self.mpr]
          intro entry _
          apply decide_eq_true
          intro equal
          exact same (congrArg Prod.fst equal)
      have stillNodup : ∀ type,
          ((((manager.removeHandler first.1 first.2).handlers type).entries).map Prod.fst).Nodup := by
        intro type
        apply ((erased type).map Prod.fst).nodup_iff.mpr
        exact (nodup type).sublist (List.filter_sublist.map Prod.fst)
      rcases ih stillIdle stillNodup with ⟨restIdle, restPerm⟩
      apply And.intro restIdle
      intro type
      apply (restPerm type).trans
      apply ((erased type).filter _).trans
      apply List.Perm.of_eq
      rw [List.filter_filter]
      congr 1
      funext entry
      rw [← Bool.decide_and]
      apply decide_eq_decide.mpr
      rw [List.mem_cons, not_or]
      exact And.comm

end VoxelEngine.Input
