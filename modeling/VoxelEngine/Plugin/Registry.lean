import VoxelEngine.Data.Index
import VoxelEngine.Transition.Run
import Mathlib.Data.Finset.Basic
import Mathlib.Logic.Basic

/-!
# The plugin registry

The registry keeps its plugins in a linked list and refers to them by address from two
sets, three indices and the adjacency lists of the plugins themselves.  Loading a plugin
loads its dependencies first, unloading it unloads its dependents first, and either may
be left half way by an exception.
-/

/-!
## Versions and version ranges

Versions are ordered by their three numbers.  Their details only appear in texts.
-/

namespace VoxelEngine.Plugin

/-- `version` -/
structure Version where
  major : UInt32
  minor : UInt32
  patch : UInt32
  details : String := ""
  deriving DecidableEq

namespace Version

/-- `operator<` of `ve_field_comparable`, which goes through the fields in order. -/
def lt (first second : Version) : Bool :=
  if first.major ≠ second.major then decide (first.major < second.major)
  else if first.minor ≠ second.minor then decide (first.minor < second.minor)
  else decide (first.patch < second.patch)

/-- `version::operator std::string` -/
def text (version : Version) : String :=
  let numbers := s!"{version.major}.{version.minor}.{version.patch}"
  if version.details = "" then numbers else s!"{version.details} {numbers}"

end Version

/-- `version_range` -/
structure VersionRange where
  minVersion : Option Version := none
  maxVersion : Option Version := none
  deriving DecidableEq

namespace VersionRange

/-- `version_range::contains` -/
def contains (range : VersionRange) (version : Version) : Bool :=
  !(range.minVersion.any version.lt) && !(range.maxVersion.any fun max => max.lt version)

/-- `version_range::operator std::string` -/
def text (range : VersionRange) : String :=
  match range.minVersion, range.maxVersion with
  | some min, none => s!"{min.text} or newer"
  | some min, some max => s!"between {min.text} and {max.text}"
  | none, some max => s!"{max.text} or older"
  -- Such a range contains every version, and no text about it is ever asked for.
  | none, none => ""

end VersionRange

end VoxelEngine.Plugin

namespace VoxelEngine.Plugin

open VoxelEngine.Data VoxelEngine.Transition

/-- `plugin_info::dependency` -/
structure Dependency where
  internalName : String
  requiredVersion : VersionRange
  required : Bool := true
  deriving DecidableEq

/-- `plugin_info` -/
structure PluginInfo where
  internalName : String
  version : Version
  allowDynamicLoad : Bool := true
  allowDynamicUnload : Bool := true
  dependencies : List Dependency := []
  deriving DecidableEq

/-- `plugin_data::state` -/
inductive PluginState where
  | available
  | loading
  | loaded
  | unloading
  deriving DecidableEq

/-- The address of a `plugin_data`. -/
abbrev Address := Nat

/-- `actor_id` -/
abbrev ActorId := UInt32

/-- `plugin_data` -/
structure PluginData where
  state : PluginState
  info : PluginInfo
  id : ActorId
  path : String
  dependencies : List Address
  dependents : List Address

/-- `plugin_registry`, with the memory its pointers refer to, and the counter of
`next_actor_id`. -/
structure PluginRegistry where
  plugins : List Address
  data : Address → Option PluginData
  nextAddress : Address
  unloadedPlugins : Finset Address
  loadedPlugins : Finset Address
  pluginsByName : String → Option Address
  pluginsByPath : String → Option Address
  pluginsById : ActorId → Option Address
  nextActorId : ActorId

/-- What a call leaves behind: the registry, and the text of the exception it ended with,
if any.  There is none if the call reads what is not there. -/
abbrev Outcome :=
  Option (PluginRegistry × Option String)

/-- `plugin_registry::error_case` -/
inductive ErrorCase where
  | circularDependency
  | pluginExists
  | versionAllowed
  | dynamicAllowed
  | alreadyLoaded
  deriving DecidableEq

/-- `plugin_registry::action` -/
inductive Action where
  | load
  | unload
  deriving DecidableEq

/-- The name of an action in lower case. -/
def Action.text : Action → String
  | .load => "load"
  | .unload => "unload"

/-- `swap_erase_at` -/
def swapEraseAt {α : Type} (items : List α) (position : Nat) : List α :=
  match items.getLast? with
  | some last => (items.set position last).dropLast
  | none => []

namespace PluginRegistry

/-- A registry that knows no plugins. -/
def create (nextActorId : ActorId) : PluginRegistry where
  plugins := []
  data := fun _ => none
  nextAddress := 0
  unloadedPlugins := ∅
  loadedPlugins := ∅
  pluginsByName := fun _ => none
  pluginsByPath := fun _ => none
  pluginsById := fun _ => none
  nextActorId := nextActorId

/-- Store a plugin at an address. -/
def write (registry : PluginRegistry) (address : Address) (plugin : PluginData) :
    PluginRegistry :=
  { registry with data := Function.update registry.data address (some plugin) }

@[simp]
theorem data_write (registry : PluginRegistry) (address other : Address) (plugin : PluginData) :
    (registry.write address plugin).data other =
      if other = address then some plugin else registry.data other :=
  Function.update_apply registry.data address (some plugin) other

@[simp]
theorem unloadedPlugins_write (registry : PluginRegistry) (address : Address)
    (plugin : PluginData) :
    (registry.write address plugin).unloadedPlugins = registry.unloadedPlugins :=
  rfl

@[simp]
theorem loadedPlugins_write (registry : PluginRegistry) (address : Address)
    (plugin : PluginData) :
    (registry.write address plugin).loadedPlugins = registry.loadedPlugins :=
  rfl

/-- Change the plugin that a pointer refers to. -/
def modify (registry : PluginRegistry) (address : Address) (change : PluginData → PluginData) :
    Option PluginRegistry :=
  (registry.data address).map fun plugin => registry.write address (change plugin)

/-- `plugin_registry::check_errors` -/
def checkErrors (registry : PluginRegistry) (errorCases : List ErrorCase) (name : String)
    (action : Action) (current : Option PluginData) (loadedFrom : Option Dependency) :
    Option String :=
  let makeErrorMessage (message : String) : Option String :=
    some s!"Failed to {action.text} plugin {name}: {message}"
  if .circularDependency ∈ errorCases ∧
      current.any (fun plugin => plugin.state = .loading ∨ plugin.state = .unloading) then
    makeErrorMessage "Circular dependency detected."
  else if .pluginExists ∈ errorCases ∧ (registry.pluginsByName name).isNone then
    makeErrorMessage "Plugin does not exist."
  else if .versionAllowed ∈ errorCases ∧
      current.any (fun plugin => loadedFrom.any fun dependency =>
        !dependency.requiredVersion.contains plugin.info.version) then
    let version := (current.map fun plugin => plugin.info.version.text).getD ""
    let range := (loadedFrom.map fun dependency => dependency.requiredVersion.text).getD ""
    makeErrorMessage s!"Version {version} is not within required range {range}"
  else if .dynamicAllowed ∈ errorCases ∧ action = .load ∧
      current.any (fun plugin => !plugin.info.allowDynamicLoad) then
    makeErrorMessage "Plugin may not be loaded dynamically."
  else if .dynamicAllowed ∈ errorCases ∧ action = .unload ∧
      current.any (fun plugin => !plugin.info.allowDynamicUnload) then
    makeErrorMessage "Plugin may not be unloaded dynamically."
  else if .alreadyLoaded ∈ errorCases ∧ action = .load ∧
      current.any (fun plugin => plugin.state = .loaded) then
    makeErrorMessage "Plugin is already loaded."
  else if .alreadyLoaded ∈ errorCases ∧ action = .unload ∧
      current.any (fun plugin => plugin.state = .available) then
    makeErrorMessage "Plugin is already unloaded."
  else none

/-! ## Scanning -/

/-- `plugin_registry::preload_plugin`, given what comes of opening the library. -/
def preloadPlugin (registry : PluginRegistry) (path : String)
    (library : Except String PluginInfo) : Outcome :=
  match library with
  | .error text => some (registry, some text)
  | .ok info =>
      let address := registry.nextAddress
      let id := registry.nextActorId
      some ({ (registry.write address ⟨.available, info, id, path, [], []⟩) with
        plugins := address :: registry.plugins
        nextAddress := address + 1
        unloadedPlugins := insert address registry.unloadedPlugins
        pluginsByName := emplace registry.pluginsByName info.internalName address
        pluginsByPath := emplace registry.pluginsByPath path address
        pluginsById := emplace registry.pluginsById id address
        nextActorId := id + 1 }, none)

/-- The search of `plugin_registry::unscan_plugin`.  It compares the name of whatever
comes next, and does not stop at the end of the list. -/
def findNamed (registry : PluginRegistry) (name : String) :
    List Address → Option (Address × PluginData)
  | [] => none
  | address :: rest =>
      match registry.data address with
      | none => none
      | some plugin =>
          if plugin.info.internalName ≠ name then registry.findNamed name rest
          else some (address, plugin)

/-- The removals at the end of `plugin_registry::unscan_plugin`. -/
def remove (registry : PluginRegistry) (address : Address) (plugin : PluginData) :
    PluginRegistry where
  plugins := registry.plugins.erase address
  data := Function.update registry.data address none
  nextAddress := registry.nextAddress
  unloadedPlugins := registry.unloadedPlugins.erase address
  loadedPlugins := registry.loadedPlugins
  pluginsByName := Function.update registry.pluginsByName plugin.info.internalName none
  pluginsByPath := Function.update registry.pluginsByPath plugin.path none
  pluginsById := Function.update registry.pluginsById plugin.id none
  nextActorId := registry.nextActorId

@[simp]
theorem data_remove (registry : PluginRegistry) (address other : Address) (plugin : PluginData) :
    (registry.remove address plugin).data other =
      if other = address then none else registry.data other :=
  Function.update_apply registry.data address none other

/-- `plugin_registry::unscan_plugin` -/
def unscanPlugin (registry : PluginRegistry) (name : String) : Outcome :=
  match registry.findNamed name registry.plugins with
  | none => none
  | some (address, plugin) =>
      if plugin.state ≠ .available then
        some (registry, some s!"Cannot unscan loaded plugin: {name}")
      else some (registry.remove address plugin, none)

/-! ## Loading -/

/-- What the indices lead to. -/
def find (registry : PluginRegistry) (name : String) : Option (Address × PluginData) :=
  (registry.pluginsByName name).bind fun address =>
    (registry.data address).map fun plugin => (address, plugin)

/-- Note that one plugin depends on another one. -/
def record (registry : PluginRegistry) (plugin dependency : Address) : Option PluginRegistry :=
  (registry.modify plugin fun current =>
    { current with dependencies := current.dependencies ++ [dependency] }).bind fun next =>
      next.modify dependency fun current =>
        { current with dependents := current.dependents ++ [plugin] }

/-- One round of the loop of `plugin_registry::load_dependencies`. -/
def loadDependency (load : PluginRegistry → String → Outcome) (plugin : Address)
    (dependency : Dependency) (registry : PluginRegistry) : Outcome :=
  let giveUp (reached : PluginRegistry) (text : String) : Outcome :=
    some (reached, if dependency.required then some text else none)
  let name := dependency.internalName
  match registry.checkErrors [.pluginExists] name .load none (some dependency) with
  | some text => giveUp registry text
  | none =>
      match registry.find name with
      | none => none
      | some (address, found) =>
          match registry.checkErrors [.versionAllowed] name .load (some found)
              (some dependency) with
          | some text => giveUp registry text
          | none =>
              match if found.state ≠ .loaded then load registry name
                else some (registry, none) with
              | none => none
              | some (reached, some text) =>
                  let kind := if dependency.required then "required" else "optional"
                  giveUp reached s!"Failed to load {kind} dependency {name}: {text}"
              | some (reached, none) =>
                  (reached.record plugin address).map fun next => (next, none)

/-- `plugin_registry::load_dependencies` -/
def loadDependencies (load : PluginRegistry → String → Outcome) (plugin : Address) :
    List Dependency → PluginRegistry → Outcome
  | [], registry => some (registry, none)
  | dependency :: rest, registry =>
      match loadDependency load plugin dependency registry with
      | some (reached, none) => loadDependencies load plugin rest reached
      | stopped => stopped

/-- The part of `plugin_registry::load_plugin` before the dependencies are loaded. -/
def beginLoading (registry : PluginRegistry) (plugin : Address) (current : PluginData) :
    PluginRegistry :=
  registry.write plugin { current with state := .loading }

/-- The part of `plugin_registry::load_plugin` after the dependencies are loaded. -/
def finishLoading (registry : PluginRegistry) (plugin : Address) (current : PluginData) :
    PluginRegistry :=
  { (registry.write plugin { current with state := .loaded }) with
    unloadedPlugins := registry.unloadedPlugins.erase plugin
    loadedPlugins := insert plugin registry.loadedPlugins }

/-- `plugin_registry::load_plugin`, nested at most so often. -/
def loadPlugin : Nat → PluginRegistry → String → Outcome
  | 0, _, _ => none
  | depth + 1, registry, name =>
      match registry.checkErrors [.pluginExists] name .load none none with
      | some text => some (registry, some text)
      | none =>
          match registry.find name with
          | none => none
          | some (address, plugin) =>
              match registry.checkErrors [.circularDependency, .alreadyLoaded, .dynamicAllowed]
                  name .load (some plugin) none with
              | some text => some (registry, some text)
              | none =>
                  match loadDependencies (loadPlugin depth) address plugin.info.dependencies
                      (registry.beginLoading address plugin) with
                  | some (reached, none) =>
                      (reached.data address).map fun current =>
                        (reached.finishLoading address current, none)
                  | stopped => stopped

/-! ## Unloading -/

/-- `plugin_registry::unload_dependents`, with so many of the dependents left to visit.
They are visited from the last to the first. -/
def unloadDependents (unload : PluginRegistry → String → Outcome) (plugin : Address) :
    Nat → PluginRegistry → Outcome
  | 0, registry => some (registry, none)
  | position + 1, registry =>
      let visited := (registry.data plugin).bind fun current =>
        current.dependents[position]?.bind registry.data
      match visited with
      | none => none
      | some dependent =>
          let name := dependent.info.internalName
          let giveUp (reached : PluginRegistry) (text : String) : Outcome :=
            some (reached, some s!"Failed to unload dependency {name}: {text}")
          if dependent.state = .available then
            unloadDependents unload plugin position registry
          else
            match registry.checkErrors [.circularDependency] name .unload (some dependent)
                none with
            | some text => giveUp registry text
            | none =>
                match unload registry name with
                | none => none
                | some (reached, some text) => giveUp reached text
                | some (reached, none) =>
                    (reached.modify plugin fun current =>
                      { current with dependents := swapEraseAt current.dependents position }).bind
                        (unloadDependents unload plugin position)

/-- The part of `plugin_registry::unload_plugin` after the dependents are unloaded. -/
def finishUnloading (registry : PluginRegistry) (plugin : Address) (current : PluginData) :
    PluginRegistry :=
  { (registry.write plugin { current with state := .available }) with
    loadedPlugins := registry.loadedPlugins.erase plugin
    unloadedPlugins := insert plugin registry.unloadedPlugins }

/-- `plugin_registry::unload_plugin`, nested at most so often. -/
def unloadPlugin : Nat → PluginRegistry → String → Outcome
  | 0, _, _ => none
  | depth + 1, registry, name =>
      match registry.checkErrors [.pluginExists] name .unload none none with
      | some text => some (registry, some text)
      | none =>
          match registry.find name with
          | none => none
          | some (address, plugin) =>
              match registry.checkErrors [.alreadyLoaded, .dynamicAllowed] name .unload
                  (some plugin) none with
              | some text => some (registry, some text)
              | none =>
                  match unloadDependents (unloadPlugin depth) address plugin.dependents.length
                      (registry.write address { plugin with state := .unloading }) with
                  | some (reached, none) =>
                      (reached.data address).map fun current =>
                        (reached.finishUnloading address current, none)
                  | stopped => stopped

/-! ## Runs -/

/-- A call of one of the member functions. -/
inductive Call where
  | preload (path : String) (library : Except String PluginInfo)
  | unscan (name : String)
  | load (name : String)
  | unload (name : String)

/-- Calls are never nested more deeply than this. -/
def nesting (registry : PluginRegistry) : Nat :=
  (2 * registry.plugins.length + 1) * (registry.nextAddress + 1)

/-- Perform a call, with all the calls that are nested in it. -/
def perform (registry : PluginRegistry) : Call → Outcome
  | .preload path library => registry.preloadPlugin path library
  | .unscan name => registry.unscanPlugin name
  | .load name => loadPlugin registry.nesting registry name
  | .unload name => unloadPlugin registry.nesting registry name

/-- The transition of the registry by a call, which keeps what an exception leaves. -/
def step : Step PluginRegistry Call :=
  fun registry call => (registry.perform call).map Prod.fst

end PluginRegistry

end VoxelEngine.Plugin
