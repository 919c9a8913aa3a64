import Mathlib.Logic.Function.Basic
import VoxelEngine.Data.HashTable
import VoxelEngine.Data.Layers

/-!
# Uniforms and where they are stored

A storage holds uniforms by their names.  Before a draw call, the storages on a stack are asked in
turn for the uniform blocks of the shader.  A uniform combines its own value with the one found
before, keeps the result in a field of its own and hands out a pointer to that field.
-/

namespace VoxelEngine.Graphics

open VoxelEngine.Data

/-- `attribute`, where it reflects a uniform block, with the names of its members. -/
structure UniformBlock where
  name : String
  members : List String

/-- Where the value of a uniform comes from, in some state of the program. -/
inductive UniformSource (ω ν : Type) where
  | value (value : ν)
  | producer (produce : ω → ν)

/-- `uniform`.  Values are objects of any type that is known to the uniform only. -/
structure Uniform (ω ν : Type) where
  name : String
  source : UniformSource ω ν
  combineFn : ν → ν → ν

/-- `value` or `std::invoke(produce_fn)` -/
def Uniform.current {ω ν : Type} (uniform : Uniform ω ν) (world : ω) : ν :=
  match uniform.source with
  | .value value => value
  | .producer produce => produce world

namespace CombineFunctions

variable {ν : Type}

/-- `combine_functions::add` -/
def add [Add ν] (oldValue newValue : ν) : ν :=
  oldValue + newValue

end CombineFunctions

/-- `uniform_storage` -/
structure UniformStorage (ω ν : Type) where
  uniforms : HashTable String (Uniform ω ν)

variable {ι ω ν : Type}

namespace UniformStorage

/-- A storage without uniforms. -/
def empty : UniformStorage ω ν :=
  ⟨HashTable.empty⟩

/-- `set_uniform` -/
def setUniform (storage : UniformStorage ω ν) (uniform : Uniform ω ν) : UniformStorage ω ν :=
  { storage with uniforms := storage.uniforms.insertOrAssign (uniform.name, uniform) }

/-- The key by which `bind_uniforms_for_shader` looks for a block: its name, or the name of its
only member. -/
def blockKey (storage : UniformStorage ω ν) (block : UniformBlock) : Option String :=
  if storage.uniforms.contains block.name then some block.name
  else
    match block.members with
    | [member] => if storage.uniforms.contains member then some member else none
    | _ => none

end UniformStorage

/-! ## Binding through pointers -/

/-- A uniform is owned by one storage, under one key. -/
structure UniformAddress (ι : Type) where
  storage : ι
  key : String
  deriving DecidableEq

/-- `uniform_state` -/
structure UniformState (ι : Type) where
  currentValue : Option (UniformAddress ι)
  uniformSource : Option (UniformAddress ι)

/-- The field `combination` of every uniform. -/
abbrev Combinations (ι ν : Type) :=
  UniformAddress ι → Option ν

variable [DecidableEq ι]

/-- `combine`, on the uniform at an address.  There is no result if the pointer does not point to a
value. -/
def Uniform.combine (world : ω) (uniform : Uniform ω ν) (self : UniformAddress ι)
    (currentValue : Option (UniformAddress ι)) (heap : Combinations ι ν) :
    Option (Combinations ι ν) :=
  match currentValue with
  | none => some (Function.update heap self (some (uniform.current world)))
  | some pointer =>
      (heap pointer).map fun old =>
        Function.update heap self (some (uniform.combineFn old (uniform.current world)))

/-- What the loop over the blocks of a shader works on. -/
structure BindState (ι ν : Type) where
  heap : Combinations ι ν
  state : HashTable String (UniformState ι)
  alreadySet : List String

/-- The body of the loop of `bind_uniforms_for_shader`. -/
def UniformStorage.bindBlock (world : ω) (pointer : ι) (storage : UniformStorage ω ν)
    (current : BindState ι ν) (block : UniformBlock) : Option (BindState ι ν) :=
  match storage.blockKey block with
  | none => some current
  | some key =>
      match storage.uniforms.find key with
      | none => some current
      | some uniform =>
          if key ∈ current.alreadySet then some current
          else
            let self : UniformAddress ι := ⟨pointer, key⟩
            let target := (current.state.find block.name).getD ⟨none, none⟩
            (uniform.combine world self target.currentValue current.heap).map fun heap =>
              { heap := heap
                state := current.state.insertOrAssign (block.name, ⟨some self, some self⟩)
                alreadySet := key :: current.alreadySet }

/-- `uniform_storage::bind_uniforms_for_shader` -/
def UniformStorage.bindUniforms (world : ω) (blocks : List UniformBlock) (pointer : ι)
    (storage : UniformStorage ω ν)
    (heap : Combinations ι ν) (state : HashTable String (UniformState ι)) :
    Option (Combinations ι ν × HashTable String (UniformState ι)) :=
  (blocks.foldlM (storage.bindBlock world pointer) ⟨heap, state, []⟩).map fun bound =>
    (bound.heap, bound.state)

/-- The first loop of `uniform_manager::bind_uniforms_for_shader`. -/
def bindSources (world : ω) (blocks : List UniformBlock)
    (storages : ι → UniformStorage ω ν) (sources : List ι) (heap : Combinations ι ν) :
    Option (Combinations ι ν × HashTable String (UniformState ι)) :=
  sources.foldlM
    (fun current pointer =>
      (storages pointer).bindUniforms world blocks pointer current.1 current.2)
    (heap, HashTable.empty)

end VoxelEngine.Graphics
