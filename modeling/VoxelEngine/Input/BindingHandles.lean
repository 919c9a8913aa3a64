import VoxelEngine.Input.BindingTable

/-!
# What a handle designates

Users add and remove bindings in any order and may keep their handles for as long as they like.
A handle is good for its own binding exactly as long as the slot it names has not been handed out
again and not been cut off.
-/

namespace VoxelEngine.Input

open VoxelEngine.Data VoxelEngine.Data.SlotVector VoxelEngine.Transition

/-- Calls on the bindings of a binder.  Handles are numbered in the order in which they were
returned. -/
inductive BindingCall where
  | addBinding (name : String)
  | removeBinding (number : Nat)
  | removeBindings (name : String)

/-- The bindings of a binder, the handles it has returned, and the bindings that were neither
removed by their own handle nor with all bindings of their name.  Bindings have the numbers of
their handles. -/
structure BindingUse where
  bindings : BindingTable Nat
  handles : List BindingHandle
  live : List (Nat × String)

namespace BindingUse

/-- No binding has been added. -/
def start : BindingUse :=
  ⟨BindingTable.empty, [], []⟩

/-- The bindings that should be invoked for a name. -/
def liveUnder (use : BindingUse) (name : String) : List Nat :=
  (use.live.filter fun entry => entry.2 = name).map Prod.fst

/-- A call that does not throw, with a handle that the binder has returned. -/
def step : Step BindingUse BindingCall
  | use, .addBinding name =>
      let added := use.bindings.addBinding name use.handles.length
      some ⟨added.1, use.handles ++ [added.2], use.live ++ [(use.handles.length, name)]⟩
  | use, .removeBinding number =>
      use.handles[number]?.bind fun handle =>
        (use.bindings.removeBinding handle).map fun removed =>
          ⟨removed, use.handles, use.live.filter fun entry => entry.1 ≠ number⟩
  | use, .removeBindings name =>
      some ⟨use.bindings.removeBindings name, use.handles,
        use.live.filter fun entry => entry.2 ≠ name⟩

/-- A handle that the binder has returned does not make the call throw. -/
def NeverThrows (use : BindingUse) : BindingCall → Prop
  | .removeBinding number =>
      ∀ handle, use.handles[number]? = some handle →
        (use.bindings.removeBinding handle).isSome = true
  | _ => True

/-- Just the live bindings of each name are invoked. -/
def Exact (use : BindingUse) : Prop :=
  ∀ name, use.bindings.bound name = use.liveUnder name

/-- The handle that is used names a slot that is empty or holds its own binding. -/
def OwnSlot (use : BindingUse) : BindingCall → Prop
  | .removeBinding number =>
      ∀ handle, use.handles[number]? = some handle →
        use.bindings.slotAt handle = some none ∨ use.bindings.slotAt handle = some (some number)
  | _ => True

/-- A binding is where its handle says. -/
def Placed (use : BindingUse) : Prop :=
  ∀ name index number, occupant (use.bindings.slots name) index = some number →
    use.handles[number]? = some ⟨name, index⟩

theorem placed_start : start.Placed := by
  intro name index number occupied
  cases occupied

theorem exact_start : start.Exact :=
  fun _ => rfl

variable {use next : BindingUse} {call : BindingCall}

/-- Every call leaves the bindings where their handles say. -/
theorem Placed.step (placed : use.Placed) (stepEq : step use call = some next) : next.Placed := by
  intro name index number occupied
  cases call with
  | addBinding added =>
      rcases stepEq with ⟨rfl⟩
      rw [BindingTable.slots_addBinding] at occupied
      change (use.handles ++ [_])[number]? = _
      have old : occupant (use.bindings.slots name) index = some number →
          (use.handles ++ [(use.bindings.addBinding added use.handles.length).2])[number]? =
            some ⟨name, index⟩ := by
        intro before
        have kept := placed name index number before
        rw [List.getElem?_append_left (List.getElem?_eq_some_iff.mp kept).1, kept]
      by_cases same : name = added
      · rw [if_pos same, occupant_concat] at occupied
        by_cases last : index = (use.bindings.slots added).length
        · rw [if_pos last, Option.some.injEq] at occupied
          rw [← occupied, List.getElem?_concat_length, last, same, BindingTable.addBinding]
          simp
        · rw [if_neg last, ← same] at occupied
          exact old occupied
      · rw [if_neg same] at occupied
        exact old occupied
  | removeBinding removed =>
      rcases Option.bind_eq_some_iff.mp stepEq with ⟨handle, handleEq, mapEq⟩
      rcases Option.map_eq_some_iff.mp mapEq with ⟨bindings, removeEq, rfl⟩
      rw [BindingTable.slots_removeBinding removeEq] at occupied
      by_cases same : name = handle.key
      · rw [if_pos same, occupant_vacate] at occupied
        by_cases emptied : index = handle.index
        · rw [if_pos emptied] at occupied
          cases occupied
        · rw [if_neg emptied, ← same] at occupied
          exact placed name index number occupied
      · rw [if_neg same] at occupied
        exact placed name index number occupied
  | removeBindings cleared =>
      rcases stepEq with ⟨rfl⟩
      rw [BindingTable.slots_removeBindings] at occupied
      by_cases same : name = cleared
      · rw [if_pos same] at occupied
        cases occupied
      · rw [if_neg same] at occupied
        exact placed name index number occupied

/-- A binding occupies one slot only. -/
theorem Placed.unique (placed : use.Placed) {name other : String} {index otherIndex number : Nat}
    (first : occupant (use.bindings.slots name) index = some number)
    (second : occupant (use.bindings.slots other) otherIndex = some number) :
    other = name ∧ otherIndex = index := by
  have same := (placed other otherIndex number second).symm.trans (placed name index number first)
  rw [Option.some.injEq, BindingHandle.mk.injEq] at same
  exact same

@[simp]
theorem mem_bound_iff {name : String} {number : Nat} :
    number ∈ use.bindings.bound name ↔
      ∃ index, occupant (use.bindings.slots name) index = some number :=
  mem_occupants_iff

/-- No binding is invoked twice for a name. -/
theorem Placed.nodup_bound (placed : use.Placed) (name : String) :
    (use.bindings.bound name).Nodup := by
  apply nodup_occupants
  apply distinct_of_injective
  intro first second number firstHeld secondHeld
  exact (placed.unique secondHeld firstHeld).2

/-- No binding is invoked for two names. -/
theorem Placed.name_unique (placed : use.Placed) {name other : String} {number : Nat}
    (mem : number ∈ use.bindings.bound name) (otherMem : number ∈ use.bindings.bound other) :
    other = name := by
  rcases mem_bound_iff.mp mem with ⟨index, held⟩
  rcases mem_bound_iff.mp otherMem with ⟨otherIndex, otherHeld⟩
  exact (placed.unique held otherHeld).1

theorem mem_liveUnder_iff {name : String} {number : Nat} :
    number ∈ use.liveUnder name ↔ (number, name) ∈ use.live := by
  rw [liveUnder, List.mem_map]
  constructor
  · rintro ⟨entry, mem, rfl⟩
    rcases List.mem_filter.mp mem with ⟨entryMem, entry_name⟩
    rw [← of_decide_eq_true entry_name]
    exact entryMem
  · intro mem
    exact ⟨(number, name), List.mem_filter.mpr ⟨mem, decide_eq_true rfl⟩, rfl⟩

@[simp]
theorem liveUnder_append (bindings : BindingTable Nat) (handles : List BindingHandle)
    (live : List (Nat × String)) (number : Nat) (added name : String) :
    (BindingUse.mk bindings handles (live ++ [(number, added)])).liveUnder name =
      (BindingUse.mk bindings handles live).liveUnder name ++
        if name = added then [number] else [] := by
  rw [liveUnder, liveUnder, List.filter_append, List.map_append]
  congr 1
  by_cases same : name = added
  · simp [same]
  · simp [same, Ne.symm same]

@[simp]
theorem liveUnder_removeNumber (bindings : BindingTable Nat) (handles : List BindingHandle)
    (live : List (Nat × String)) (number : Nat) (name : String) :
    (BindingUse.mk bindings handles (live.filter fun entry => entry.1 ≠ number)).liveUnder name =
      ((BindingUse.mk bindings handles live).liveUnder name).filter fun other =>
        other ≠ number := by
  simp only [liveUnder, List.filter_map, List.filter_filter, Function.comp_def]
  congr 2
  funext entry
  exact Bool.and_comm _ _

@[simp]
theorem liveUnder_removeName (bindings : BindingTable Nat) (handles : List BindingHandle)
    (live : List (Nat × String)) (cleared name : String) :
    (BindingUse.mk bindings handles (live.filter fun entry => entry.2 ≠ cleared)).liveUnder name =
      if name = cleared then [] else (BindingUse.mk bindings handles live).liveUnder name := by
  simp only [liveUnder, List.filter_filter]
  by_cases same : name = cleared
  · rw [if_pos same, List.map_eq_nil_iff, List.filter_eq_nil_iff]
    intro entry _ kept
    simp [same] at kept
  · rw [if_neg same]
    congr 2
    funext entry
    by_cases under : entry.2 = name
    · simp [under, same]
    · simp [under]

/-- Adding a binding makes it the last one of its name. -/
theorem Exact.addBinding (isExact : use.Exact) {name : String}
    (stepEq : step use (.addBinding name) = some next) : next.Exact := by
  intro other
  rcases stepEq with ⟨rfl⟩
  rw [BindingTable.bound, BindingTable.slots_addBinding, liveUnder_append]
  change _ = use.liveUnder other ++ _
  rw [← isExact other, BindingTable.bound]
  by_cases same : other = name
  · rw [if_pos same, if_pos same, occupants_concat, same]
  · rw [if_neg same, if_neg same, List.append_nil]

/-- Removing all bindings of a name leaves those of other names. -/
theorem Exact.removeBindings (isExact : use.Exact) {name : String}
    (stepEq : step use (.removeBindings name) = some next) : next.Exact := by
  intro other
  rcases stepEq with ⟨rfl⟩
  rw [BindingTable.bound, BindingTable.slots_removeBindings, liveUnder_removeName]
  by_cases same : other = name
  · rw [if_pos same, if_pos same, occupants_nil]
  · rw [if_neg same, if_neg same]
    exact isExact other

/-- A handle whose slot is empty or holds its own binding removes just this binding. -/
theorem Exact.removeBinding (isExact : use.Exact) (placed : use.Placed) {number : Nat}
    (ownSlot : use.OwnSlot (.removeBinding number))
    (stepEq : step use (.removeBinding number) = some next) : next.Exact := by
  rcases Option.bind_eq_some_iff.mp stepEq with ⟨handle, handleEq, mapEq⟩
  rcases Option.map_eq_some_iff.mp mapEq with ⟨removed, removeEq, rfl⟩
  intro name
  rw [liveUnder_removeNumber]
  change _ = (use.liveUnder name).filter _
  rw [← isExact name, BindingTable.bound, BindingTable.slots_removeBinding removeEq]
  by_cases same : name = handle.key
  · rw [if_pos same, same, BindingTable.bound]
    apply occupants_vacate
    · intro other occupied
      rw [occupant, ← BindingTable.slotAt] at occupied
      rcases ownSlot handle handleEq with empty | own
      · rw [empty] at occupied
        cases occupied
      · rw [own] at occupied
        exact (Option.some.inj occupied).symm
    · intro index occupied
      have known := (placed handle.key index number occupied).symm.trans handleEq
      rw [← Option.some.inj known]
  · rw [if_neg same]
    symm
    apply List.filter_eq_self.mpr
    intro other mem
    apply decide_eq_true
    rintro rfl
    rcases mem_bound_iff.mp mem with ⟨index, occupied⟩
    have known := (placed name index other occupied).symm.trans handleEq
    rw [← Option.some.inj known] at same
    exact same rfl

/-- A call does not throw and leads to just the live bindings if and only if it does not use a
handle whose slot is gone or holds another binding. -/
theorem safe_iff_ownSlot (placed : use.Placed) (isExact : use.Exact) :
    (use.NeverThrows call ∧ ∀ next, step use call = some next → next.Exact) ↔
      use.OwnSlot call := by
  cases call with
  | addBinding name => exact iff_of_true ⟨trivial, fun next => isExact.addBinding⟩ trivial
  | removeBindings name => exact iff_of_true ⟨trivial, fun next => isExact.removeBindings⟩ trivial
  | removeBinding number =>
      constructor
      · rintro ⟨noThrow, nextExact⟩ handle handleEq
        rcases Option.isSome_iff_exists.mp (noThrow handle handleEq) with ⟨removed, removeEq⟩
        have inside := (BindingTable.isSome_removeBinding_iff handle).mp (noThrow handle handleEq)
        have stepEq : step use (.removeBinding number) =
            some ⟨removed, use.handles, use.live.filter fun entry => entry.1 ≠ number⟩ := by
          rw [step, handleEq, Option.bind_some, removeEq, Option.map_some]
        cases slotEq : (use.bindings.slots handle.key)[handle.index] with
        | none =>
            left
            exact List.getElem?_eq_some_iff.mpr ⟨inside, slotEq⟩
        | some other =>
            right
            have held : occupant (use.bindings.slots handle.key) handle.index = some other :=
              occupant_eq_some_iff.mpr (List.getElem?_eq_some_iff.mpr ⟨inside, slotEq⟩)
            have other_eq : other = number := by
              by_contra different
              -- the other binding is still live, but its slot is emptied
              have live := mem_bound_iff.mpr ⟨handle.index, held⟩
              rw [isExact, mem_liveUnder_iff] at live
              have stillLive : other ∈ (BindingUse.mk removed use.handles
                  (use.live.filter fun entry => entry.1 ≠ number)).liveUnder handle.key :=
                mem_liveUnder_iff.mpr (List.mem_filter.mpr ⟨live, decide_eq_true different⟩)
              rw [← nextExact _ stepEq, mem_bound_iff] at stillLive
              rcases stillLive with ⟨index, occupied⟩
              rw [BindingTable.slots_removeBinding removeEq, if_pos rfl, occupant_vacate] at occupied
              by_cases emptied : index = handle.index
              · rw [if_pos emptied] at occupied
                cases occupied
              · rw [if_neg emptied] at occupied
                exact emptied (placed.unique held occupied).2
            rw [← other_eq]
            exact List.getElem?_eq_some_iff.mpr ⟨inside, slotEq⟩
      · intro ownSlot
        constructor
        · intro handle handleEq
          rw [BindingTable.isSome_removeBinding_iff]
          rcases ownSlot handle handleEq with empty | own
          · exact (List.getElem?_eq_some_iff.mp empty).1
          · exact (List.getElem?_eq_some_iff.mp own).1
        · intro next
          exact isExact.removeBinding placed ownSlot

/-! ## Handles that stay good -/

/-- Every handle names a slot that is empty or holds its own binding. -/
def EachOwn (use : BindingUse) : Prop :=
  ∀ number, use.OwnSlot (.removeBinding number)

theorem eachOwn_start : start.EachOwn := by
  intro number handle handleEq
  cases handleEq

/-- Adding a binding spoils no handle. -/
theorem EachOwn.addBinding (each : use.EachOwn) {name : String}
    (stepEq : BindingUse.step use (.addBinding name) = some next) : next.EachOwn := by
  intro number handle handleEq
  rcases stepEq with ⟨rfl⟩
  change (use.handles ++ [_])[number]? = some handle at handleEq
  rw [BindingTable.slotAt, BindingTable.slots_addBinding]
  rcases Nat.lt_or_ge number use.handles.length with old | new
  · rw [List.getElem?_append_left old] at handleEq
    have before := each number handle handleEq
    rw [BindingTable.slotAt] at before
    by_cases same : handle.key = name
    · have inside : handle.index < (use.bindings.slots name).length := by
        rw [← same]
        rcases before with empty | own
        · exact (List.getElem?_eq_some_iff.mp empty).1
        · exact (List.getElem?_eq_some_iff.mp own).1
      rw [if_pos same, List.getElem?_append_left inside, ← same]
      exact before
    · rw [if_neg same]
      exact before
  · rw [List.getElem?_append_right new, List.getElem?_singleton] at handleEq
    split at handleEq
    · rename_i last
      have number_eq : number = use.handles.length := by omega
      right
      rw [← Option.some.inj handleEq, number_eq, BindingTable.addBinding]
      simp
    · cases handleEq

/-- Removing a binding spoils no handle. -/
theorem EachOwn.removeBinding (each : use.EachOwn) {removed : Nat}
    (stepEq : BindingUse.step use (.removeBinding removed) = some next) : next.EachOwn := by
  rcases Option.bind_eq_some_iff.mp stepEq with ⟨own, _, mapEq⟩
  rcases Option.map_eq_some_iff.mp mapEq with ⟨bindings, removeEq, rfl⟩
  intro number handle handleEq
  have before := each number handle handleEq
  rw [BindingTable.slotAt] at before
  rw [BindingTable.slotAt, BindingTable.slots_removeBinding removeEq]
  by_cases same : handle.key = own.key
  · rw [same] at before
    rw [if_pos same, vacate, List.getElem?_set]
    split
    · rename_i emptied
      have inside : handle.index < (use.bindings.slots own.key).length := by
        rcases before with empty | held
        · exact (List.getElem?_eq_some_iff.mp empty).1
        · exact (List.getElem?_eq_some_iff.mp held).1
      rw [emptied, if_pos inside]
      exact Or.inl rfl
    · exact before
  · rw [if_neg same]
    exact before

end BindingUse

/-- In every state of the sequence of calls just the live bindings are invoked, and no call
throws. -/
def HandlesDesignateOwn (calls : List BindingCall) : Prop :=
  ∀ before after middle, calls = before ++ after →
    run BindingUse.step BindingUse.start before = some middle →
      middle.Exact ∧ ∀ call later, after = call :: later → middle.NeverThrows call

/-- Handles designate their own bindings exactly if none is used whose slot is gone or holds
another binding. -/
theorem handlesDesignateOwn_iff (calls : List BindingCall) :
    HandlesDesignateOwn calls ↔
      Guarded BindingUse.step BindingUse.OwnSlot BindingUse.start calls := by
  have keeps : ∀ use call next, BindingUse.Placed use → BindingUse.step use call = some next →
      BindingUse.Placed next := fun _ _ _ placed => placed.step
  have safe : ∀ use call, BindingUse.Placed use → BindingUse.Exact use →
      ((BindingUse.NeverThrows use call ∧
          ∀ next, BindingUse.step use call = some next → BindingUse.Exact next) ↔
        BindingUse.OwnSlot use call) := fun _ _ => BindingUse.safe_iff_ownSlot
  exact safe_throughout_iff_guarded keeps safe BindingUse.placed_start BindingUse.exact_start

/-- A handle from before all bindings of a name were removed, used after another was added. -/
def staleCalls : List BindingCall :=
  [.addBinding "fire", .removeBindings "fire", .addBinding "fire", .removeBinding 0]

/-- The old handle disables the new binding, and without a new one it throws. -/
theorem stale_handle_disables_other :
    ¬HandlesDesignateOwn staleCalls ∧
      ¬HandlesDesignateOwn [.addBinding "fire", .removeBindings "fire", .removeBinding 0] := by
  constructor
  · intro designate
    have exactAfter := (designate staleCalls [] _ rfl rfl).1 "fire"
    exact absurd exactAfter (by decide)
  · intro designate
    have safe := (designate [.addBinding "fire", .removeBindings "fire"] [.removeBinding 0] _ rfl
      rfl).2 _ _ rfl ⟨"fire", 0⟩ rfl
    exact absurd safe (by decide)

end VoxelEngine.Input
