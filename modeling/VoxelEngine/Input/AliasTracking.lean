import VoxelEngine.Input.BinderHandlers

/-!
# Pointers between aliases and kinds

The data of a kind lists just the aliases of that kind, each of them once, and there is data for a
kind exactly while it has an alias.  Every operation follows only pointers that lead somewhere,
and keeps this.
-/

namespace VoxelEngine.Input

open VoxelEngine.Event

namespace InputBinder

variable {B : Type}

/-- The handlers that the data of its kind asks for. -/
def subscriptions (binder : InputBinder B) (type : EventType) : List (HandlerEntry TypeRef) :=
  match binder.inputTypes type.kind with
  | some data => handlersAt ⟨type.kind, data.node⟩ type.kind.eventTypes data.eventHandlers type
  | none => []

/-- Just the handlers that are asked for are registered. -/
structure Subscribed (binder : InputBinder B) : Prop where
  idle : binder.manager.currentlyDispatched = []
  tables : ∀ type, (binder.manager.handlers type).entries.Perm (binder.subscriptions type)
  sizes : ∀ kind data, binder.inputTypes kind = some data →
    data.eventHandlers.length = kind.eventTypes.length
  distinct : ∀ kind data, binder.inputTypes kind = some data → data.eventHandlers.Nodup

/-- Pointers lead to aliases and kinds that are there, and the aliases of each kind are listed. -/
structure Tracked (binder : InputBinder B) : Prop where
  typed : ∀ name data, binder.aliases name = some data →
    ∃ type, binder.inputTypes data.input.kind = some type ∧
      data.type = ⟨data.input.kind, type.node⟩
  listed : ∀ kind type, binder.inputTypes kind = some type → ∀ ref,
    ref ∈ type.aliases ↔
      ∃ data, binder.aliases ref.name = some data ∧ data.node = ref.node ∧ data.input.kind = kind
  names : ∀ kind type, binder.inputTypes kind = some type →
    (type.aliases.map AliasRef.name).Nodup

/-- The kind has an alias if there is data for it. -/
def InUse (binder : InputBinder B) (kind : InputKind) : Prop :=
  ∀ type, binder.inputTypes kind = some type → type.aliases ≠ []

/-- What holds of a binder between two calls. -/
structure Consistent (binder : InputBinder B) : Prop where
  subscribed : binder.Subscribed
  tracked : binder.Tracked
  inUse : ∀ kind, binder.InUse kind

theorem consistent_create (nextId : RawHandler) :
    (create nextId : InputBinder B).Consistent where
  subscribed :=
    { idle := rfl
      tables := fun _ => List.Perm.refl _
      sizes := by simp [create]
      distinct := by simp [create] }
  tracked :=
    { typed := by simp [create]
      listed := by simp [create]
      names := by simp [create] }
  inUse := by simp [InUse, create]

variable {binder other : InputBinder B}

/-- Only the identifiers and the places of the data of kinds matter for the handlers. -/
theorem Subscribed.of_same (subscribed : binder.Subscribed)
    (managerEq : other.manager = binder.manager)
    (same : ∀ kind, (other.inputTypes kind).map (fun data => (data.eventHandlers, data.node)) =
      (binder.inputTypes kind).map fun data => (data.eventHandlers, data.node)) :
    other.Subscribed := by
  have known : ∀ kind data, other.inputTypes kind = some data →
      ∃ old, binder.inputTypes kind = some old ∧ old.eventHandlers = data.eventHandlers := by
    intro kind data present
    have mapped := same kind
    rw [present, Option.map_some] at mapped
    rcases Option.map_eq_some_iff.mp mapped.symm with ⟨old, oldEq, equal⟩
    exact ⟨old, oldEq, congrArg Prod.fst equal⟩
  constructor
  · rw [managerEq]
    exact subscribed.idle
  · intro type
    rw [managerEq]
    have before := subscribed.tables type
    have mapped := same type.kind
    rw [subscriptions] at before ⊢
    cases old : binder.inputTypes type.kind with
    | none =>
        rw [old, Option.map_none, Option.map_eq_none_iff] at mapped
        rw [old] at before
        rw [mapped]
        exact before
    | some data =>
        rw [old, Option.map_some] at mapped
        rcases Option.map_eq_some_iff.mp mapped with ⟨new, newEq, equal⟩
        rw [Prod.mk.injEq] at equal
        rw [old] at before
        simp only [newEq, equal.1, equal.2]
        exact before
  · intro kind data present
    rcases known kind data present with ⟨old, oldEq, equal⟩
    rw [← equal]
    exact subscribed.sizes kind old oldEq
  · intro kind data present
    rcases known kind data present with ⟨old, oldEq, equal⟩
    rw [← equal]
    exact subscribed.distinct kind old oldEq

/-- No identifier is used twice for one type of events. -/
theorem Subscribed.nodup (subscribed : binder.Subscribed) (type : EventType) :
    ((binder.manager.handlers type).entries.map Prod.fst).Nodup := by
  apply ((subscribed.tables type).map Prod.fst).nodup_iff.mpr
  rw [subscriptions]
  cases present : binder.inputTypes type.kind with
  | none => exact List.nodup_nil
  | some data =>
      exact nodup_handlersAt (subscribed.sizes _ data present) (subscribed.distinct _ data present)
        type

theorem length_eventTypes_le (kind : InputKind) : kind.eventTypes.length ≤ 4 := by
  cases kind <;> decide

/-- Adding a kind registers its handlers. -/
theorem Subscribed.maybeAddType (subscribed : binder.Subscribed) (kind : InputKind) :
    (binder.maybeAddType kind).Subscribed := by
  rw [InputBinder.maybeAddType]
  cases present : binder.inputTypes kind with
  | some data => exact subscribed
  | none =>
      rcases @registerTypes_spec ⟨kind, binder.nextNode⟩ kind.eventTypes _ subscribed.idle with
        ⟨idle, tables⟩
      constructor
      · exact idle
      · intro type
        apply (tables type).trans
        have before := subscribed.tables type
        rw [subscriptions] at before ⊢
        by_cases same : type.kind = kind
        · rw [same, present] at before
          simp only [same, Function.update_self]
          rw [before.eq_nil]
          exact List.Perm.refl _
        · simp only [Function.update_of_ne same]
          rw [handlersAt_of_not_mem, List.append_nil]
          · exact before
          · exact fun mem => same ((mem_eventTypes_iff kind type).mp mem)
      · intro other data dataEq
        by_cases same : other = kind
        · simp only [same, Function.update_self, Option.some.injEq] at dataEq
          rw [← dataEq, same]
          exact length_ids_registerTypes _ _ _
        · simp only [Function.update_of_ne same] at dataEq
          exact subscribed.sizes other data dataEq
      · intro other data dataEq
        by_cases same : other = kind
        · simp only [same, Function.update_self, Option.some.injEq] at dataEq
          rw [← dataEq]
          exact nodup_ids_registerTypes (length_eventTypes_le kind)
        · simp only [Function.update_of_ne same] at dataEq
          exact subscribed.distinct other data dataEq

/-- Removing the data of a kind unregisters its handlers. -/
theorem Subscribed.unregister (subscribed : binder.Subscribed) {kind : InputKind} {data : TypeData}
    (present : binder.inputTypes kind = some data) :
    { binder with
      inputTypes := Function.update binder.inputTypes kind none
      manager := unregisterTypes kind.eventTypes data.eventHandlers binder.manager }.Subscribed := by
  rcases unregisterTypes_spec subscribed.idle subscribed.nodup kind.eventTypes data.eventHandlers with
    ⟨idle, tables⟩
  constructor
  · exact idle
  · intro type
    apply (tables type).trans
    apply ((subscribed.tables type).filter _).trans
    apply List.Perm.of_eq
    rw [subscriptions, subscriptions]
    by_cases same : type.kind = kind
    · simp only [same, present, Function.update_self]
      apply List.filter_eq_nil_iff.mpr
      intro entry mem kept
      exact of_decide_eq_true kept (mem_handlersAt_iff.mp mem).1
    · simp only [Function.update_of_ne same]
      apply List.filter_eq_self.mpr
      intro entry _
      apply decide_eq_true
      intro mem
      exact same ((mem_eventTypes_iff kind type).mp (List.of_mem_zip mem).1)
  · intro other old oldEq
    by_cases same : other = kind
    · simp [same] at oldEq
    · simp only [Function.update_of_ne same] at oldEq
      exact subscribed.sizes other old oldEq
  · intro other old oldEq
    by_cases same : other = kind
    · simp [same] at oldEq
    · simp only [Function.update_of_ne same] at oldEq
      exact subscribed.distinct other old oldEq

/-- A kind that is left without aliases is removed. -/
theorem maybeRemoveType_spec {kind : InputKind} {type : TypeData} (subscribed : binder.Subscribed)
    (tracked : binder.Tracked) (inUse : ∀ other, other ≠ kind → binder.InUse other)
    (present : binder.inputTypes kind = some type) :
    ∃ removed, binder.maybeRemoveType kind = some removed ∧ removed.Consistent ∧
      removed.aliases = binder.aliases ∧ removed.bindings = binder.bindings := by
  rw [maybeRemoveType, present]
  by_cases unused : type.aliases = []
  · refine ⟨_, if_pos (List.isEmpty_iff.mpr unused), ?_, rfl, rfl⟩
    have none_left : ∀ name data, binder.aliases name = some data → data.input.kind ≠ kind := by
      intro name data dataEq same
      have listed := (tracked.listed kind type present ⟨name, data.node⟩).mpr
        ⟨data, dataEq, rfl, same⟩
      rw [unused] at listed
      cases listed
    constructor
    · exact subscribed.unregister present
    · constructor
      · intro name data dataEq
        simp only [Function.update_of_ne (none_left name data dataEq)]
        exact tracked.typed name data dataEq
      · intro other data dataEq
        by_cases same : other = kind
        · simp [same] at dataEq
        · simp only [Function.update_of_ne same] at dataEq
          exact tracked.listed other data dataEq
      · intro other data dataEq
        by_cases same : other = kind
        · simp [same] at dataEq
        · simp only [Function.update_of_ne same] at dataEq
          exact tracked.names other data dataEq
    · intro other data dataEq
      by_cases same : other = kind
      · simp [same] at dataEq
      · simp only [Function.update_of_ne same] at dataEq
        exact inUse other same data dataEq
  · have used : ¬type.aliases.isEmpty = true := fun empty => unused (List.isEmpty_iff.mp empty)
    refine ⟨binder, if_neg used, ⟨subscribed, tracked, ?_⟩, rfl, rfl⟩
    intro other data dataEq
    by_cases same : other = kind
    · rw [same, present] at dataEq
      rw [← Option.some.inj dataEq]
      exact unused
    · exact inUse other same data dataEq

/-- The alias of a name is taken out of the list of its kind. -/
theorem Tracked.removeName {name : String} {data : AliasData} {type : TypeData}
    (tracked : binder.Tracked) (dataEq : binder.aliases name = some data)
    (typeEq : binder.inputTypes data.input.kind = some type) :
    { binder with
      inputTypes := Function.update binder.inputTypes data.input.kind
        (some { type with aliases := type.aliases.filter fun ref => ref.name ≠ name })
      aliases := Function.update binder.aliases name none }.Tracked := by
  constructor
  · intro other old oldEq
    by_cases same : other = name
    · simp [same] at oldEq
    · simp only [Function.update_of_ne same] at oldEq
      rcases tracked.typed other old oldEq with ⟨found, foundEq, pointer⟩
      by_cases kind_eq : old.input.kind = data.input.kind
      · rw [kind_eq, typeEq] at foundEq
        rw [← Option.some.inj foundEq] at pointer
        refine ⟨{ type with aliases := type.aliases.filter fun ref => ref.name ≠ name }, ?_,
          pointer⟩
        simp only [kind_eq, Function.update_self]
      · exact ⟨found, by simp only [Function.update_of_ne kind_eq, foundEq], pointer⟩
  · intro kind found foundEq ref
    have listed : ∀ old, binder.inputTypes kind = some old →
        (ref ∈ old.aliases ∧ ref.name ≠ name ↔
          ∃ kept, Function.update binder.aliases name none ref.name = some kept ∧
            kept.node = ref.node ∧ kept.input.kind = kind) := by
      intro old oldEq
      rw [tracked.listed kind old oldEq ref]
      by_cases same : ref.name = name
      · simp [same]
      · simp [same]
    by_cases kind_eq : kind = data.input.kind
    · simp only [kind_eq, Function.update_self, Option.some.injEq] at foundEq
      rw [← foundEq, ← listed type (kind_eq ▸ typeEq), List.mem_filter, decide_eq_true_iff]
    · simp only [Function.update_of_ne kind_eq] at foundEq
      rw [← listed found foundEq]
      constructor
      · intro mem
        refine ⟨mem, ?_⟩
        intro same
        rcases (tracked.listed kind found foundEq ref).mp mem with ⟨other, otherEq, _, otherKind⟩
        rw [same, dataEq] at otherEq
        rw [← Option.some.inj otherEq] at otherKind
        exact kind_eq otherKind.symm
      · exact And.left
  · intro kind found foundEq
    by_cases kind_eq : kind = data.input.kind
    · simp only [kind_eq, Function.update_self, Option.some.injEq] at foundEq
      rw [← foundEq]
      exact (tracked.names _ type typeEq).sublist (List.filter_sublist.map AliasRef.name)
    · simp only [Function.update_of_ne kind_eq] at foundEq
      exact tracked.names kind found foundEq

/-- All pointers to the aliases of a kind lead somewhere. -/
theorem Tracked.isSome_aliasAt {kind : InputKind} {type : TypeData} (tracked : binder.Tracked)
    (typeEq : binder.inputTypes kind = some type) {ref : AliasRef} (mem : ref ∈ type.aliases) :
    ∃ data, binder.aliasAt ref = some data ∧ binder.aliases ref.name = some data ∧
      data.input.kind = kind := by
  rcases (tracked.listed kind type typeEq ref).mp mem with ⟨data, dataEq, node, kindEq⟩
  refine ⟨data, ?_, dataEq, kindEq⟩
  rw [aliasAt, dataEq, Option.filter_some, if_pos (beq_iff_eq.mpr node)]

/-- The pointer of an alias to its kind leads somewhere. -/
theorem Tracked.typeAt {name : String} {data : AliasData} (tracked : binder.Tracked)
    (dataEq : binder.aliases name = some data) :
    ∃ type, binder.inputTypes data.input.kind = some type ∧ data.type.kind = data.input.kind ∧
      binder.typeAt data.type = some type := by
  rcases tracked.typed name data dataEq with ⟨type, typeEq, pointer⟩
  refine ⟨type, typeEq, congrArg TypeRef.kind pointer, ?_⟩
  rw [InputBinder.typeAt, pointer, typeEq, Option.filter_some, if_pos (beq_iff_eq.mpr rfl)]

/-- Removing an alias that is there. -/
theorem Consistent.removeAlias {name : String} {data : AliasData} (consistent : binder.Consistent)
    (dataEq : binder.aliases name = some data) :
    ∃ removed, binder.removeAlias name = some removed ∧ removed.Consistent ∧
      removed.aliases = Function.update binder.aliases name none ∧
      removed.bindings = binder.bindings := by
  rcases consistent.tracked.typeAt dataEq with ⟨type, typeEq, pointer, typeAtEq⟩
  have followed : (type.aliases.all fun ref => (binder.aliasAt ref).isSome) = true := by
    apply List.all_eq_true.mpr
    intro ref mem
    rcases consistent.tracked.isSome_aliasAt typeEq mem with ⟨found, foundEq, _⟩
    rw [foundEq]
    rfl
  simp only [InputBinder.removeAlias, dataEq, typeAtEq, followed, if_true, pointer]
  apply maybeRemoveType_spec
  · apply consistent.subscribed.of_same
    · rfl
    · intro kind
      by_cases same : kind = data.input.kind
      · simp [same, typeEq]
      · simp [same]
  · exact consistent.tracked.removeName dataEq typeEq
  · intro other different found foundEq
    simp only [Function.update_of_ne different] at foundEq
    exact consistent.inUse other found foundEq
  · exact Function.update_self ..

/-- A kind that was added for the first alias of it lists no aliases yet. -/
theorem maybeAddType_spec (binder : InputBinder B) (kind : InputKind) :
    (binder.maybeAddType kind).aliases = binder.aliases ∧
      (binder.maybeAddType kind).bindings = binder.bindings ∧
      (∀ other, other ≠ kind →
        (binder.maybeAddType kind).inputTypes other = binder.inputTypes other) ∧
      ∃ type, (binder.maybeAddType kind).inputTypes kind = some type ∧
        (binder.inputTypes kind = some type ∨
          binder.inputTypes kind = none ∧ type.aliases = []) := by
  rw [maybeAddType]
  cases present : binder.inputTypes kind with
  | some type => exact ⟨rfl, rfl, fun _ _ => rfl, type, present, Or.inl rfl⟩
  | none =>
      refine ⟨rfl, rfl, ?_, _, Function.update_self .., Or.inr ⟨rfl, rfl⟩⟩
      intro other different
      exact Function.update_of_ne different ..

/-- Adding a kind leaves the lists of aliases right. -/
theorem Tracked.maybeAddType (tracked : binder.Tracked) (kind : InputKind) :
    (binder.maybeAddType kind).Tracked := by
  rcases binder.maybeAddType_spec kind with ⟨aliasesEq, _, others, type, typeEq, before⟩
  have unchanged : ∀ old, binder.inputTypes kind = some old → old = type := by
    intro old oldEq
    rcases before with same | absent
    · exact Option.some.inj (oldEq.symm.trans same)
    · rw [absent.1] at oldEq
      cases oldEq
  constructor
  · intro name data dataEq
    rw [aliasesEq] at dataEq
    rcases tracked.typed name data dataEq with ⟨found, foundEq, pointer⟩
    by_cases same : data.input.kind = kind
    · rw [unchanged found (same ▸ foundEq)] at pointer
      exact ⟨type, by rw [same, typeEq], pointer⟩
    · exact ⟨found, by rw [others _ same, foundEq], pointer⟩
  · intro other found foundEq ref
    rw [aliasesEq]
    by_cases same : other = kind
    · rw [same, typeEq] at foundEq
      rw [← Option.some.inj foundEq, same]
      rcases before with kept | ⟨absent, empty⟩
      · exact tracked.listed kind type kept ref
      · rw [empty]
        apply iff_of_false List.not_mem_nil
        rintro ⟨data, dataEq, _, dataKind⟩
        rcases tracked.typed ref.name data dataEq with ⟨old, oldEq, _⟩
        rw [dataKind, absent] at oldEq
        cases oldEq
    · rw [others other same] at foundEq
      exact tracked.listed other found foundEq ref
  · intro other found foundEq
    by_cases same : other = kind
    · rw [same, typeEq] at foundEq
      rw [← Option.some.inj foundEq]
      rcases before with kept | ⟨_, empty⟩
      · exact tracked.names kind type kept
      · rw [empty]
        exact List.nodup_nil
    · rw [others other same] at foundEq
      exact tracked.names other found foundEq

/-- A new alias is listed as the last one of its kind. -/
theorem Tracked.emplaceName {name : String} {value : BindableInput} {type : TypeData}
    (tracked : binder.Tracked) (unused : binder.aliases name = none)
    (typeEq : binder.inputTypes value.kind = some type) (node : Nat) :
    { binder with
      inputTypes := Function.update binder.inputTypes value.kind
        (some { type with aliases := type.aliases ++ [AliasRef.mk name node] })
      aliases := Function.update binder.aliases name
        (some ⟨value, ⟨value.kind, type.node⟩, node⟩)
      nextNode := binder.nextNode + 1 }.Tracked := by
  have fresh : ∀ kind old, binder.inputTypes kind = some old → ∀ ref ∈ old.aliases,
      ref.name ≠ name := by
    rintro kind old oldEq ref mem rfl
    rcases (tracked.listed kind old oldEq ref).mp mem with ⟨data, dataEq, _⟩
    rw [unused] at dataEq
    cases dataEq
  constructor
  · intro other data dataEq
    by_cases same : other = name
    · simp only [same, Function.update_self, Option.some.injEq] at dataEq
      rw [← dataEq]
      exact ⟨_, Function.update_self .., rfl⟩
    · simp only [Function.update_of_ne same] at dataEq
      rcases tracked.typed other data dataEq with ⟨found, foundEq, pointer⟩
      by_cases kind_eq : data.input.kind = value.kind
      · rw [kind_eq, typeEq] at foundEq
        rw [← Option.some.inj foundEq] at pointer
        refine ⟨{ type with aliases := type.aliases ++ [AliasRef.mk name node] }, ?_, pointer⟩
        simp only [kind_eq, Function.update_self]
      · exact ⟨found, by simp only [Function.update_of_ne kind_eq, foundEq], pointer⟩
  · intro kind found foundEq ref
    have named : ∀ data, Function.update binder.aliases name
        (some ⟨value, ⟨value.kind, type.node⟩, node⟩) ref.name = some data ↔
          (if ref.name = name then data = ⟨value, ⟨value.kind, type.node⟩, node⟩
            else binder.aliases ref.name = some data) := by
      intro data
      by_cases same : ref.name = name
      · simp [same, eq_comm]
      · simp [same]
    simp only [named]
    by_cases kind_eq : kind = value.kind
    · simp only [kind_eq, Function.update_self, Option.some.injEq] at foundEq
      rw [← foundEq, List.mem_append, List.mem_singleton, AliasRef.mk.injEq, kind_eq]
      by_cases same : ref.name = name
      · have notOld : ref ∉ type.aliases := fun mem => fresh _ type typeEq ref mem same
        simp only [same, if_true, notOld, false_or, true_and]
        constructor
        · intro nodeEq
          exact ⟨_, rfl, nodeEq.symm, rfl⟩
        · rintro ⟨data, rfl, nodeEq, _⟩
          exact nodeEq.symm
      · simp only [same, if_false, false_and, or_false]
        exact tracked.listed _ type typeEq ref
    · simp only [Function.update_of_ne kind_eq] at foundEq
      by_cases same : ref.name = name
      · simp only [same, if_true]
        apply iff_of_false
        · intro mem
          exact fresh kind found foundEq ref mem same
        · rintro ⟨data, rfl, _, dataKind⟩
          exact kind_eq dataKind.symm
      · simp only [same, if_false]
        exact tracked.listed kind found foundEq ref
  · intro kind found foundEq
    by_cases kind_eq : kind = value.kind
    · simp only [kind_eq, Function.update_self, Option.some.injEq] at foundEq
      rw [← foundEq, List.map_append, List.map_singleton]
      apply (tracked.names _ type typeEq).append (List.nodup_singleton _)
      apply List.disjoint_singleton.mpr
      intro mem
      rcases List.mem_map.mp mem with ⟨ref, refMem, refName⟩
      exact fresh _ type typeEq ref refMem refName
    · simp only [Function.update_of_ne kind_eq] at foundEq
      exact tracked.names kind found foundEq

/-- Adding an alias under a name that has none. -/
theorem Consistent.emplaceAlias {name : String} (consistent : binder.Consistent)
    (unused : binder.aliases name = none) (value : BindableInput) :
    ∃ emplaced, binder.emplaceAlias name value = some emplaced ∧ emplaced.Consistent ∧
      (∃ data, emplaced.aliases = Function.update binder.aliases name (some data) ∧
        data.input = value) ∧
      emplaced.bindings = binder.bindings := by
  rcases binder.maybeAddType_spec value.kind with ⟨aliasesEq, bindingsEq, others, type, typeEq, _⟩
  have subscribed := consistent.subscribed.maybeAddType value.kind
  have tracked := consistent.tracked.maybeAddType value.kind
  simp only [InputBinder.emplaceAlias, typeEq]
  refine ⟨_, rfl, ?_, ⟨_, congrArg (fun old => Function.update old name _) aliasesEq, rfl⟩,
    bindingsEq⟩
  constructor
  · apply subscribed.of_same
    · rfl
    · intro kind
      by_cases same : kind = value.kind
      · simp [same, typeEq]
      · simp [same]
  · exact tracked.emplaceName (aliasesEq ▸ unused) typeEq _
  · intro kind found foundEq
    by_cases same : kind = value.kind
    · simp only [same, Function.update_self, Option.some.injEq] at foundEq
      rw [← foundEq]
      simp
    · simp only [Function.update_of_ne same, others kind same] at foundEq
      exact consistent.inUse kind found foundEq

/-- Giving an alias, which replaces the one that the name had. -/
theorem Consistent.createAlias (consistent : binder.Consistent) (name : String)
    (value : BindableInput) :
    ∃ created, binder.createAlias name value = some created ∧ created.Consistent ∧
      (∃ data, created.aliases = Function.update binder.aliases name (some data) ∧
        data.input = value) ∧
      created.bindings = binder.bindings := by
  rw [InputBinder.createAlias]
  cases old : binder.aliases name with
  | none =>
      rw [if_neg (by simp)]
      exact consistent.emplaceAlias old value
  | some data =>
      rw [if_pos (by simp)]
      rcases consistent.removeAlias old with ⟨removed, removeEq, kept, aliasesEq, bindingsEq⟩
      have unused : removed.aliases name = none := by rw [aliasesEq, Function.update_self]
      rcases kept.emplaceAlias unused value with
        ⟨created, createEq, again, ⟨new, newEq, inputEq⟩, createdBindings⟩
      rw [removeEq, Option.bind_some]
      refine ⟨created, createEq, again, ⟨new, ?_, inputEq⟩, createdBindings.trans bindingsEq⟩
      rw [newEq, aliasesEq, Function.update_idem]

end InputBinder

end VoxelEngine.Input
