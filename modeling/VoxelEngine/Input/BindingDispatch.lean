import VoxelEngine.Data.PartialList
import VoxelEngine.Input.AliasTracking
import VoxelEngine.Input.BindingHandles

/-!
# Which bindings an event invokes

Users give and remove aliases and add and remove bindings.  What they have asked for is described
by itself, and every history of calls leaves a binder that represents it.  An event then invokes
each binding that should react to it as often as its type is listed by its kind.
-/

namespace VoxelEngine.Input

open VoxelEngine.Data VoxelEngine.Event VoxelEngine.Transition

/-- Calls of a binder.  Handles are numbered in the order in which they were returned. -/
inductive BinderCall where
  | createAlias (name : String) (value : BindableInput)
  | removeAlias (name : String)
  | addBinding (name : String)
  | removeBinding (number : Nat)

/-- What the users of a binder have asked for: the input of each name, the bindings that were not
removed, and how many were added. -/
structure Wanted where
  aliases : String → Option BindableInput
  live : List (Nat × String)
  added : Nat

namespace Wanted

/-- Nothing was asked for. -/
def start : Wanted :=
  ⟨fun _ => none, [], 0⟩

/-- A call that may be made: an alias that is removed was added before, and so was a binding. -/
def step : Step Wanted BinderCall
  | wanted, .createAlias name value =>
      some { wanted with aliases := Function.update wanted.aliases name (some value) }
  | wanted, .removeAlias name =>
      if (wanted.aliases name).isSome then
        some { wanted with aliases := Function.update wanted.aliases name none }
      else none
  | wanted, .addBinding name =>
      some { wanted with live := wanted.live ++ [(wanted.added, name)], added := wanted.added + 1 }
  | wanted, .removeBinding number =>
      if number < wanted.added then
        some { wanted with live := wanted.live.filter fun entry => entry.1 ≠ number }
      else none

/-- There is an alias of this name whose input accepts the event. -/
def accepts (wanted : Wanted) (mouseCapture : Bool) (event : InputEvent) (name : String) : Bool :=
  (wanted.aliases name).any fun input => input.shouldTrigger mouseCapture event

/-- The binding is live, and an alias of its name accepts the event. -/
def wants (wanted : Wanted) (mouseCapture : Bool) (event : InputEvent) (number : Nat) : Bool :=
  wanted.live.any fun entry => entry.1 == number && wanted.accepts mouseCapture event entry.2

end Wanted

/-- A binder and the handles it has returned.  Bindings have the numbers of their handles. -/
structure BinderUse where
  binder : InputBinder Nat
  handles : List BindingHandle

namespace BinderUse

/-- A new binder. -/
def start (nextId : RawHandler) : BinderUse :=
  ⟨InputBinder.create nextId, []⟩

/-- The calls as the binder executes them. -/
def step : Step BinderUse BinderCall
  | use, .createAlias name value =>
      (use.binder.createAlias name value).map fun binder => { use with binder := binder }
  | use, .removeAlias name =>
      (use.binder.removeAlias name).map fun binder => { use with binder := binder }
  | use, .addBinding name =>
      let added := use.binder.bindings.addBinding name use.handles.length
      some ⟨{ use.binder with bindings := added.1 }, use.handles ++ [added.2]⟩
  | use, .removeBinding number =>
      use.handles[number]?.bind fun handle =>
        (use.binder.bindings.removeBinding handle).map fun removed =>
          { use with binder := { use.binder with bindings := removed } }

/-- The bindings, with those that are wanted. -/
def bindingUse (use : BinderUse) (wanted : Wanted) : BindingUse :=
  ⟨use.binder.bindings, use.handles, wanted.live⟩

/-- The binder does what was asked for. -/
structure Represents (use : BinderUse) (wanted : Wanted) : Prop where
  consistent : use.binder.Consistent
  aliases : ∀ name, (use.binder.aliases name).map AliasData.input = wanted.aliases name
  placed : (use.bindingUse wanted).Placed
  eachOwn : (use.bindingUse wanted).EachOwn
  isExact : (use.bindingUse wanted).Exact
  added : use.handles.length = wanted.added

theorem represents_start (nextId : RawHandler) : (start nextId).Represents Wanted.start where
  consistent := InputBinder.consistent_create nextId
  aliases := fun _ => rfl
  placed := BindingUse.placed_start
  eachOwn := BindingUse.eachOwn_start
  isExact := BindingUse.exact_start
  added := rfl

variable {use : BinderUse} {wanted : Wanted}

/-- A binder whose bindings are the same. -/
theorem Represents.withAliases (represents : use.Represents wanted) {binder : InputBinder Nat}
    {asked : String → Option BindableInput} (consistent : binder.Consistent)
    (bindingsEq : binder.bindings = use.binder.bindings)
    (aliasesEq : ∀ name, (binder.aliases name).map AliasData.input = asked name) :
    Represents { use with binder := binder } { wanted with aliases := asked } := by
  have same : bindingUse { use with binder := binder } { wanted with aliases := asked } =
      use.bindingUse wanted := by
    simp only [bindingUse, bindingsEq]
  constructor
  · exact consistent
  · exact aliasesEq
  · rw [same]
    exact represents.placed
  · rw [same]
    exact represents.eachOwn
  · rw [same]
    exact represents.isExact
  · exact represents.added

theorem Represents.createAlias (represents : use.Represents wanted) (name : String)
    (value : BindableInput) :
    ∃ next, step use (.createAlias name value) = some next ∧
      next.Represents { wanted with aliases := Function.update wanted.aliases name (some value) } := by
  rcases represents.consistent.createAlias name value with
    ⟨created, createEq, consistent, ⟨data, aliasesEq, inputEq⟩, bindingsEq⟩
  refine ⟨_, by rw [step, createEq, Option.map_some], ?_⟩
  apply represents.withAliases consistent bindingsEq
  intro other
  rw [aliasesEq]
  by_cases same : other = name
  · simp [same, inputEq]
  · simp [same, represents.aliases]

theorem Represents.removeAlias (represents : use.Represents wanted) {name : String}
    (known : (wanted.aliases name).isSome = true) :
    ∃ next, step use (.removeAlias name) = some next ∧
      next.Represents { wanted with aliases := Function.update wanted.aliases name none } := by
  rw [← represents.aliases, Option.isSome_map] at known
  rcases Option.isSome_iff_exists.mp known with ⟨data, dataEq⟩
  rcases represents.consistent.removeAlias dataEq with
    ⟨removed, removeEq, consistent, aliasesEq, bindingsEq⟩
  refine ⟨_, by rw [step, removeEq, Option.map_some], ?_⟩
  apply represents.withAliases consistent bindingsEq
  intro other
  rw [aliasesEq]
  by_cases same : other = name
  · simp [same]
  · simp [same, represents.aliases]

/-- Only the tables of aliases, kinds and handlers matter for the aliases. -/
theorem consistent_withBindings {binder : InputBinder Nat} (consistent : binder.Consistent)
    (bindings : BindingTable Nat) : { binder with bindings := bindings }.Consistent where
  subscribed := consistent.subscribed.of_same rfl fun _ => rfl
  tracked := ⟨consistent.tracked.typed, consistent.tracked.listed, consistent.tracked.names⟩
  inUse := consistent.inUse

theorem Represents.addBinding (represents : use.Represents wanted) (name : String) :
    ∃ next, step use (.addBinding name) = some next ∧
      next.Represents { wanted with
        live := wanted.live ++ [(wanted.added, name)], added := wanted.added + 1 } := by
  have stepEq := @Eq.refl _ (BindingUse.step (use.bindingUse wanted) (.addBinding name))
  refine ⟨_, rfl, ?_⟩
  rw [← represents.added]
  constructor
  · exact consistent_withBindings represents.consistent _
  · exact represents.aliases
  · exact represents.placed.step stepEq
  · exact represents.eachOwn.addBinding stepEq
  · exact represents.isExact.addBinding stepEq
  · exact List.length_append

theorem Represents.removeBinding (represents : use.Represents wanted) {number : Nat}
    (known : number < wanted.added) :
    ∃ next, step use (.removeBinding number) = some next ∧
      next.Represents { wanted with live := wanted.live.filter fun entry => entry.1 ≠ number } := by
  rw [← represents.added] at known
  have handleEq : use.handles[number]? = some use.handles[number] :=
    List.getElem?_eq_getElem known
  have safe := (BindingUse.safe_iff_ownSlot represents.placed represents.isExact).mpr
    (represents.eachOwn number)
  rcases Option.isSome_iff_exists.mp (safe.1 _ handleEq) with ⟨removed, removeEq⟩
  have stepEq : BindingUse.step (use.bindingUse wanted) (.removeBinding number) =
      some ⟨removed, use.handles, wanted.live.filter fun entry => entry.1 ≠ number⟩ := by
    change (use.handles[number]?.bind _) = _
    rw [handleEq, Option.bind_some, removeEq, Option.map_some]
    rfl
  refine ⟨{ use with binder := { use.binder with bindings := removed } }, ?_, ?_⟩
  · change (use.handles[number]?.bind _) = _
    rw [handleEq, Option.bind_some, Option.map_eq_some_iff]
    exact ⟨removed, removeEq, rfl⟩
  · constructor
    · exact consistent_withBindings represents.consistent removed
    · exact represents.aliases
    · exact represents.placed.step stepEq
    · exact represents.eachOwn.removeBinding stepEq
    · exact safe.2 _ stepEq
    · exact represents.added

/-- The binder follows every call that may be made. -/
theorem Represents.step (represents : use.Represents wanted) {call : BinderCall} {asked : Wanted}
    (askedEq : Wanted.step wanted call = some asked) :
    ∃ next, BinderUse.step use call = some next ∧ next.Represents asked := by
  cases call with
  | createAlias name value =>
      rcases askedEq with ⟨rfl⟩
      exact represents.createAlias name value
  | removeAlias name =>
      rw [Wanted.step] at askedEq
      split at askedEq
      · rename_i known
        rcases askedEq with ⟨rfl⟩
        exact represents.removeAlias known
      · cases askedEq
  | addBinding name =>
      rcases askedEq with ⟨rfl⟩
      exact represents.addBinding name
  | removeBinding number =>
      rw [Wanted.step] at askedEq
      split at askedEq
      · rename_i known
        rcases askedEq with ⟨rfl⟩
        exact represents.removeBinding known
      · cases askedEq

/-- After every history of calls that may be made the binder does what was asked for. -/
theorem Represents.run (represents : use.Represents wanted) {calls : List BinderCall}
    {asked : Wanted} (askedEq : run Wanted.step wanted calls = some asked) :
    ∃ final, Transition.run BinderUse.step use calls = some final ∧ final.Represents asked := by
  induction calls generalizing use wanted with
  | nil =>
      rcases askedEq with ⟨rfl⟩
      exact ⟨use, rfl, represents⟩
  | cons call rest ih =>
      rcases (run_cons_eq_some_iff _ _ _ _ _).mp askedEq with ⟨middle, middleEq, restEq⟩
      rcases represents.step middleEq with ⟨next, nextEq, nextRepresents⟩
      rcases ih nextRepresents restEq with ⟨final, finalEq, finalRepresents⟩
      exact ⟨final, (run_cons_eq_some_iff _ _ _ _ _).mpr ⟨next, nextEq, finalEq⟩, finalRepresents⟩

/-! ## Dispatching an event -/

variable {mouseCapture : Bool} {event : InputEvent}

/-- The bindings that one handler of a kind invokes. -/
def invokedBy (use : BinderUse) (wanted : Wanted) (mouseCapture : Bool) (event : InputEvent)
    (type : TypeData) : List Nat :=
  type.aliases.flatMap fun ref =>
    if wanted.accepts mouseCapture event ref.name then use.binder.bindings.bound ref.name else []

theorem Represents.invokeType (represents : use.Represents wanted) {kind : InputKind}
    {type : TypeData} (typeEq : use.binder.inputTypes kind = some type) :
    use.binder.invokeType mouseCapture event ⟨kind, type.node⟩ =
      some (use.invokedBy wanted mouseCapture event type) := by
  have followed : use.binder.typeAt ⟨kind, type.node⟩ = some type := by
    rw [InputBinder.typeAt, typeEq, Option.filter_some, if_pos (beq_iff_eq.mpr rfl)]
  have each : ∀ ref ∈ type.aliases, use.binder.invokeAlias mouseCapture event ref =
      some (if wanted.accepts mouseCapture event ref.name then use.binder.bindings.bound ref.name
        else []) := by
    intro ref mem
    rcases represents.consistent.tracked.isSome_aliasAt typeEq mem with
      ⟨data, followedEq, dataEq, _⟩
    rw [InputBinder.invokeAlias, followedEq, Option.map_some, Wanted.accepts,
      ← represents.aliases, dataEq]
    rfl
  rw [InputBinder.invokeType, followed, Option.bind_some, mapM_eq_some_map each, Option.map_some,
    invokedBy, List.flatMap_def]

/-- A wanted binding is that of an alias of the kind of the event. -/
theorem Represents.mem_invokedBy_iff (represents : use.Represents wanted) {type : TypeData}
    (typeEq : use.binder.inputTypes event.type.kind = some type) {number : Nat} :
    number ∈ use.invokedBy wanted mouseCapture event type ↔
      wanted.wants mouseCapture event number = true := by
  have boundIff : ∀ name, number ∈ use.binder.bindings.bound name ↔
      (number, name) ∈ wanted.live := by
    intro name
    have exactAt := represents.isExact name
    change use.binder.bindings.bound name = _ at exactAt
    rw [exactAt]
    exact BindingUse.mem_liveUnder_iff
  rw [invokedBy, List.mem_flatMap, Wanted.wants, List.any_eq_true]
  constructor
  · rintro ⟨ref, _, invoked⟩
    split at invoked
    · rename_i accepted
      refine ⟨(number, ref.name), (boundIff ref.name).mp invoked, ?_⟩
      rw [Bool.and_eq_true]
      exact ⟨beq_iff_eq.mpr rfl, accepted⟩
    · cases invoked
  · rintro ⟨entry, mem, checks⟩
    rw [Bool.and_eq_true, beq_iff_eq] at checks
    have accepted := checks.2
    rw [Wanted.accepts, ← represents.aliases] at accepted
    cases dataEq : use.binder.aliases entry.2 with
    | none =>
        rw [dataEq] at accepted
        cases accepted
    | some data =>
        rw [dataEq] at accepted
        have kindEq := BindableInput.kind_of_shouldTrigger accepted
        refine ⟨⟨entry.2, data.node⟩, ?_, ?_⟩
        · rw [represents.consistent.tracked.listed _ type typeEq]
          exact ⟨data, dataEq, rfl, kindEq.symm⟩
        · rw [if_pos checks.2, boundIff, ← checks.1]
          exact mem

/-- One handler invokes no binding twice. -/
theorem Represents.nodup_invokedBy (represents : use.Represents wanted) {kind : InputKind}
    {type : TypeData} (typeEq : use.binder.inputTypes kind = some type) :
    (use.invokedBy wanted mouseCapture event type).Nodup := by
  rw [invokedBy, List.nodup_flatMap]
  constructor
  · intro ref _
    split
    · exact represents.placed.nodup_bound ref.name
    · exact List.nodup_nil
  · have names := represents.consistent.tracked.names kind type typeEq
    rw [List.Nodup, List.pairwise_map] at names
    apply names.imp
    intro first second different number firstMem secondMem
    have bound : ∀ ref : AliasRef, number ∈ (if wanted.accepts mouseCapture event ref.name then
        use.binder.bindings.bound ref.name else []) →
          number ∈ use.binder.bindings.bound ref.name := by
      intro ref mem
      split at mem
      · exact mem
      · cases mem
    exact different (represents.placed.name_unique (bound second secondMem) (bound first firstMem))

/-- Without data for the kind of an event no binding is wanted for it. -/
theorem Represents.not_wants (represents : use.Represents wanted)
    (absent : use.binder.inputTypes event.type.kind = none) (number : Nat) :
    wanted.wants mouseCapture event number = false := by
  rw [Bool.eq_false_iff, Wanted.wants]
  intro wants
  rcases List.any_eq_true.mp wants with ⟨entry, _, checks⟩
  rw [Bool.and_eq_true, Wanted.accepts, ← represents.aliases] at checks
  cases dataEq : use.binder.aliases entry.2 with
  | none =>
      rw [dataEq] at checks
      cases checks.2
  | some data =>
      rw [dataEq] at checks
      rcases represents.consistent.tracked.typed entry.2 data dataEq with ⟨type, typeEq, _⟩
      rw [← BindableInput.kind_of_shouldTrigger checks.2, absent] at typeEq
      cases typeEq

theorem count_flatten_of_const {lists : List (List Nat)} {invoked : List Nat}
    (same : ∀ list ∈ lists, list = invoked) (number : Nat) :
    lists.flatten.count number = lists.length * invoked.count number := by
  induction lists with
  | nil => simp
  | cons first rest ih =>
      rw [List.flatten_cons, List.count_append, ih fun list mem =>
        same list (List.mem_cons_of_mem _ mem),
        same first List.mem_cons_self, List.length_cons, Nat.add_mul, Nat.one_mul, Nat.add_comm]

/-- An event invokes each wanted binding as often as its type is listed. -/
theorem Represents.dispatchEvent (represents : use.Represents wanted) (mouseCapture : Bool)
    (event : InputEvent) :
    ∃ invoked, use.binder.dispatchEvent mouseCapture event = some invoked ∧
      ∀ number, invoked.count number =
        event.type.kind.eventTypes.count event.type *
          if wanted.wants mouseCapture event number then 1 else 0 := by
  have tables := represents.consistent.subscribed.tables event.type
  rw [InputBinder.subscriptions] at tables
  rw [InputBinder.dispatchEvent]
  cases typeEq : use.binder.inputTypes event.type.kind with
  | none =>
      rw [typeEq] at tables
      refine ⟨[], by rw [tables.eq_nil]; rfl, ?_⟩
      intro number
      rw [represents.not_wants typeEq]
      rfl
  | some type =>
      rw [typeEq] at tables
      have each : ∀ entry ∈ (use.binder.manager.handlers event.type).entries,
          use.binder.invokeType mouseCapture event entry.2 =
            some (use.invokedBy wanted mouseCapture event type) := by
        intro entry mem
        rw [(mem_handlersAt_iff.mp (tables.mem_iff.mp mem)).2]
        exact represents.invokeType typeEq
      rw [mapM_eq_some_map each, Option.map_some]
      refine ⟨_, rfl, ?_⟩
      intro number
      have same : ∀ list ∈ (use.binder.manager.handlers event.type).entries.map
          (fun _ => use.invokedBy wanted mouseCapture event type),
          list = use.invokedBy wanted mouseCapture event type := by
        intro list mem
        rcases List.mem_map.mp mem with ⟨_, _, rfl⟩
        rfl
      rw [count_flatten_of_const same, List.length_map, tables.length_eq,
        length_handlersAt (represents.consistent.subscribed.sizes _ type typeEq)]
      congr 1
      rw [(represents.nodup_invokedBy typeEq).count]
      simp only [represents.mem_invokedBy_iff typeEq]

/-- There are handlers for the events of a kind exactly while there is an alias of it. -/
theorem Represents.registered_iff (represents : use.Represents wanted) {kind : InputKind}
    {type : EventType} (listed : type ∈ kind.eventTypes) :
    (use.binder.manager.handlers type).entries ≠ [] ↔
      ∃ name input, wanted.aliases name = some input ∧ input.kind = kind := by
  have kindEq := (mem_eventTypes_iff kind type).mp listed
  have tables := represents.consistent.subscribed.tables type
  rw [InputBinder.subscriptions, kindEq] at tables
  have named : (∃ name input, wanted.aliases name = some input ∧ input.kind = kind) ↔
      ∃ name data, use.binder.aliases name = some data ∧ data.input.kind = kind := by
    simp only [← represents.aliases, Option.map_eq_some_iff]
    constructor
    · rintro ⟨name, _, ⟨data, dataEq, rfl⟩, inputKind⟩
      exact ⟨name, data, dataEq, inputKind⟩
    · rintro ⟨name, data, dataEq, inputKind⟩
      exact ⟨name, _, ⟨data, dataEq, rfl⟩, inputKind⟩
  rw [named]
  cases typeEq : use.binder.inputTypes kind with
  | none =>
      rw [typeEq] at tables
      apply iff_of_false (fun used => used tables.eq_nil)
      rintro ⟨name, data, dataEq, inputKind⟩
      rcases represents.consistent.tracked.typed name data dataEq with ⟨found, foundEq, _⟩
      rw [inputKind, typeEq] at foundEq
      cases foundEq
  | some data =>
      rw [typeEq] at tables
      apply iff_of_true
      · intro unused
        rw [unused] at tables
        have noneAsked : handlersAt ⟨kind, data.node⟩ kind.eventTypes data.eventHandlers type =
            [] :=
          tables.symm.eq_nil
        have lengthEq := @length_handlersAt ⟨kind, data.node⟩ _ _
          (represents.consistent.subscribed.sizes kind data typeEq) type
        rw [noneAsked, List.length_nil] at lengthEq
        exact absurd (List.count_pos_iff.mpr listed) (by omega)
      · rcases List.exists_mem_of_ne_nil _ (represents.consistent.inUse kind data typeEq) with
          ⟨ref, mem⟩
        rcases (represents.consistent.tracked.listed kind data typeEq ref).mp mem with
          ⟨found, foundEq, _, foundKind⟩
        exact ⟨ref.name, found, foundEq, foundKind⟩

/-- The event invokes each wanted binding once, and no other. -/
def InvokesOnce (use : BinderUse) (wanted : Wanted) (mouseCapture : Bool) (event : InputEvent) :
    Prop :=
  ∃ invoked, use.binder.dispatchEvent mouseCapture event = some invoked ∧
    ∀ number, invoked.count number = if wanted.wants mouseCapture event number then 1 else 0

/-- There are handlers for the events of a kind exactly while there is an alias of it. -/
def SubscribesExactly (use : BinderUse) (wanted : Wanted) : Prop :=
  ∀ kind : InputKind, ∀ type ∈ kind.eventTypes,
    ((use.binder.manager.handlers type).entries ≠ [] ↔
      ∃ name input, wanted.aliases name = some input ∧ input.kind = kind)

theorem Represents.invokesOnce_iff (represents : use.Represents wanted) :
    use.InvokesOnce wanted mouseCapture event ↔
      ¬(event.type = .buttonHold ∧ ∃ number, wanted.wants mouseCapture event number = true) := by
  rcases represents.dispatchEvent mouseCapture event with ⟨invoked, invokedEq, counts⟩
  rw [InvokesOnce, invokedEq]
  simp only [count_eventTypes] at counts
  constructor
  · rintro ⟨same, sameEq, once⟩ ⟨hold, number, wants⟩
    have twice := counts number
    rw [Option.some.inj sameEq, once number, if_pos hold, if_pos wants] at twice
    cases twice
  · intro fine
    refine ⟨invoked, rfl, ?_⟩
    intro number
    rw [counts number]
    by_cases hold : event.type = .buttonHold
    · have unwanted : ¬wanted.wants mouseCapture event number = true :=
        fun wants => fine ⟨hold, number, wants⟩
      rw [if_neg unwanted, Nat.mul_zero]
    · rw [if_neg hold, Nat.one_mul]

end BinderUse

/-- The calls can be made, the event then invokes each live binding once if there is an alias of
its name whose input accepts the event, and handlers are registered for the kinds that have
aliases. -/
def BindingsFireOnce (nextId : RawHandler) (calls : List BinderCall) (mouseCapture : Bool)
    (event : InputEvent) : Prop :=
  ∃ use wanted, run BinderUse.step (BinderUse.start nextId) calls = some use ∧
    run Wanted.step Wanted.start calls = some wanted ∧
    use.InvokesOnce wanted mouseCapture event ∧ use.SubscribesExactly wanted

/-- Bindings fire once after all calls that may be made, except for the hold events of buttons
that some binding waits for. -/
theorem bindingsFireOnce_iff (nextId : RawHandler) (calls : List BinderCall) (mouseCapture : Bool)
    (event : InputEvent) :
    BindingsFireOnce nextId calls mouseCapture event ↔
      ∃ wanted, run Wanted.step Wanted.start calls = some wanted ∧
        ¬(event.type = .buttonHold ∧ ∃ number, wanted.wants mouseCapture event number = true) := by
  constructor
  · rintro ⟨use, wanted, useEq, wantedEq, once, _⟩
    rcases (BinderUse.represents_start nextId).run wantedEq with ⟨final, finalEq, represents⟩
    rw [Option.some.inj (useEq.symm.trans finalEq)] at once
    exact ⟨wanted, wantedEq, represents.invokesOnce_iff.mp once⟩
  · rintro ⟨wanted, wantedEq, fine⟩
    rcases (BinderUse.represents_start nextId).run wantedEq with ⟨use, useEq, represents⟩
    refine ⟨use, wanted, useEq, wantedEq, represents.invokesOnce_iff.mpr fine, ?_⟩
    exact fun kind type listed => represents.registered_iff listed

/-- A button that is held down. -/
def leftHeld : MouseButtonState :=
  ⟨.left, kmodNone, 0, 0, true⟩

/-- Bind something to a button, with the trigger that this class of inputs has by default. -/
def holdCalls : List BinderCall :=
  [.createAlias "fire" (BindableInput.mouseButtonInput .left), .addBinding "fire"]

/-- The binding is invoked twice for one event. -/
theorem not_bindingsFireOnce_hold :
    (run BinderUse.step (BinderUse.start 0) holdCalls).bind
        (fun use => use.binder.dispatchEvent true (.buttonHold leftHeld)) = some [0, 0] ∧
      ¬BindingsFireOnce 0 holdCalls true (.buttonHold leftHeld) := by
  constructor
  · decide
  · rintro ⟨use, wanted, useEq, wantedEq, ⟨invoked, invokedEq, once⟩, _⟩
    rcases useEq with ⟨rfl⟩
    rcases wantedEq with ⟨rfl⟩
    have twice : (some [0, 0] : Option (List Nat)) = some invoked := by
      rw [← invokedEq]
      decide
    have counted := once 0
    rw [← Option.some.inj twice] at counted
    exact absurd counted (by decide)

end VoxelEngine.Input
