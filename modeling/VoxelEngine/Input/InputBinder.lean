import VoxelEngine.Event.SimpleDispatcher
import VoxelEngine.Input.InputEvent
import VoxelEngine.Input.BindingTable

/-!
# Aliases of inputs

A binder gives names to inputs.  The first alias of a kind of input subscribes the binder to the
events of this kind, for all aliases of the kind together, and the last one to be removed
unsubscribes it.  The aliases of a kind are found through pointers from the data of the kind, and
that data through a pointer from each alias and from the handlers.
-/

namespace VoxelEngine.Input

open VoxelEngine.Event

/-- A pointer to the data of a kind, of which there is another one each time the kind is added. -/
structure TypeRef where
  kind : InputKind
  node : Nat
deriving DecidableEq

/-- A pointer to an alias, of which there is another one each time its name is given. -/
structure AliasRef where
  name : String
  node : Nat
deriving DecidableEq

/-- `alias_data`, whose name is that under which it is kept. -/
structure AliasData where
  input : BindableInput
  type : TypeRef
  node : Nat

/-- `type_data`, whose type is that under which it is kept. -/
structure TypeData where
  eventHandlers : List RawHandler
  aliases : List AliasRef
  node : Nat

/-- `input_binder` with the dispatcher of the input manager.  A handler is the pointer that it
gets as its data. -/
structure InputBinder (B : Type) where
  inputTypes : InputKind → Option TypeData
  aliases : String → Option AliasData
  bindings : BindingTable B
  manager : SimpleDispatcher EventType TypeRef
  nextNode : Nat

/-- `register_types`: one handler for each type of events in the list, from the first to the
last. -/
def registerTypes (handler : TypeRef) : List EventType → SimpleDispatcher EventType TypeRef →
    SimpleDispatcher EventType TypeRef × List RawHandler
  | [], manager => (manager, [])
  | type :: rest, manager =>
      let registered := registerTypes handler rest (manager.addHandler type 0 handler)
      (registered.1, manager.nextId :: registered.2)

/-- `unregister_types` -/
def unregisterTypes (types : List EventType) (handlers : List RawHandler)
    (manager : SimpleDispatcher EventType TypeRef) : SimpleDispatcher EventType TypeRef :=
  (types.zip handlers).foldl (fun current entry => current.removeHandler entry.1 entry.2) manager

namespace InputBinder

variable {B : Type} (binder : InputBinder B)

/-- A binder without aliases and bindings.  Others have registered handlers before. -/
def create (nextId : RawHandler) : InputBinder B :=
  ⟨fun _ => none, fun _ => none, BindingTable.empty,
    { SimpleDispatcher.create with nextId := nextId }, 0⟩

/-- Follow a pointer to the data of a kind. -/
def typeAt (ref : TypeRef) : Option TypeData :=
  (binder.inputTypes ref.kind).filter fun type => type.node == ref.node

/-- Follow a pointer to an alias. -/
def aliasAt (ref : AliasRef) : Option AliasData :=
  (binder.aliases ref.name).filter fun data => data.node == ref.node

/-- `maybe_add_type` -/
def maybeAddType (kind : InputKind) : InputBinder B :=
  match binder.inputTypes kind with
  | some _ => binder
  | none =>
      let registered := registerTypes ⟨kind, binder.nextNode⟩ kind.eventTypes binder.manager
      { binder with
        inputTypes := Function.update binder.inputTypes kind
          (some ⟨registered.2, [], binder.nextNode⟩)
        manager := registered.1
        nextNode := binder.nextNode + 1 }

/-- `maybe_remove_type` -/
def maybeRemoveType (kind : InputKind) : Option (InputBinder B) :=
  match binder.inputTypes kind with
  | some type =>
      if type.aliases.isEmpty then
        some
          { binder with
            inputTypes := Function.update binder.inputTypes kind none
            manager := unregisterTypes kind.eventTypes type.eventHandlers binder.manager }
      else some binder
  | none => none

/-- `remove_alias`.  There has to be an alias, and all pointers that are followed have to lead
somewhere. -/
def removeAlias (name : String) : Option (InputBinder B) :=
  match binder.aliases name with
  | none => none
  | some data =>
      match binder.typeAt data.type with
      | none => none
      | some type =>
          if type.aliases.all fun ref => (binder.aliasAt ref).isSome then
            maybeRemoveType
              { binder with
                inputTypes := Function.update binder.inputTypes data.type.kind
                  (some { type with aliases := type.aliases.filter fun ref => ref.name ≠ name })
                aliases := Function.update binder.aliases name none }
              data.input.kind
          else none

/-- The part of `create_alias` after an alias of this name was removed. -/
def emplaceAlias (name : String) (value : BindableInput) : Option (InputBinder B) :=
  let added := binder.maybeAddType value.kind
  match added.inputTypes value.kind with
  | none => none
  | some type =>
      some
        { added with
          inputTypes := Function.update added.inputTypes value.kind
            (some { type with aliases := type.aliases ++ [⟨name, added.nextNode⟩] })
          aliases := Function.update added.aliases name
            (some ⟨value, ⟨value.kind, type.node⟩, added.nextNode⟩)
          nextNode := added.nextNode + 1 }

/-- `create_alias` -/
def createAlias (name : String) (value : BindableInput) : Option (InputBinder B) :=
  if (binder.aliases name).isSome then
    (binder.removeAlias name).bind fun removed => removed.emplaceAlias name value
  else binder.emplaceAlias name value

/-- The bindings that are invoked for one alias of the kind. -/
def invokeAlias (mouseCapture : Bool) (event : InputEvent) (ref : AliasRef) : Option (List B) :=
  (binder.aliasAt ref).map fun data =>
    if data.input.shouldTrigger mouseCapture event then binder.bindings.bound ref.name else []

/-- The lambda `wrapped` of `maybe_add_type`. -/
def invokeType (mouseCapture : Bool) (event : InputEvent) (ref : TypeRef) : Option (List B) :=
  (binder.typeAt ref).bind fun type =>
    (type.aliases.mapM (binder.invokeAlias mouseCapture event)).map List.flatten

/-- The bindings that are invoked, one after the other, when the manager dispatches an event. -/
def dispatchEvent (mouseCapture : Bool) (event : InputEvent) : Option (List B) :=
  ((binder.manager.handlers event.type).entries.mapM fun entry =>
    binder.invokeType mouseCapture event entry.2).map List.flatten

end InputBinder

end VoxelEngine.Input
