import VoxelEngine.Data.FoldOrder
import VoxelEngine.Data.HashTable
import VoxelEngine.Event.PriorityOrder

/-!
# Settings of the shader compiler

The settings hold two hash maps, the values of the specialization constants and the context of
the preprocessors.  Their hash visits the entries of both in the order in which they are stored,
and the cache of shaders looks for a shader by the hash of the settings it was compiled with.
-/

namespace VoxelEngine.Graphics

open Data Event

/-- A preprocessor, as far as its base class knows it.  Different objects have different
identities. -/
structure ShaderPreprocessor where
  identity : Nat
  name : List Char
  priority : NamedPriority
  deriving DecidableEq

/-- The values of specialization constants, of which a floating-point one is given by its bits. -/
inductive SpecializationConstant where
  | bool (value : Bool)
  | i32 (value : Int32)
  | u32 (value : UInt32)
  | float (bits : UInt32)
  deriving DecidableEq

/-- An object in a storage.  Its hash is the one it had when it was stored. -/
structure StoredObject (V : Type) where
  value : V
  hash : UInt64

/-- Objects of any type by their names. -/
abbrev ArbitraryStorage (V : Type) :=
  HashTable (List Char) (StoredObject V)

structure ShaderSpecializeSettings where
  constants : HashTable (List Char) SpecializationConstant

/-- The options of the compiler and the type of the pipeline are pointers. -/
structure ShaderCompileSettings (V : Type) where
  compilerOptions : Nat
  preprocessorContext : ArbitraryStorage V
  additionalPreprocessors : List ShaderPreprocessor
  specializationSettings : ShaderSpecializeSettings
  pipelineType : Nat
  preprocessorDefinitions : List (List Char × List Char)

/-- The hashes of other types, the function that combines a seed with a hash, and the function
that sorts preprocessors by their priority. -/
structure HashFunctions where
  combine : UInt64 → UInt64 → UInt64
  string : List Char → UInt64
  size : UInt64 → UInt64
  pointer : Nat → UInt64
  constant : SpecializationConstant → UInt64
  preprocessor : ShaderPreprocessor → UInt64
  sort : List ShaderPreprocessor → List ShaderPreprocessor

variable {V : Type} (functions : HashFunctions)

/-- Combine a seed with a name and its constant. -/
def combineConstant (seed : UInt64) (entry : List Char × SpecializationConstant) : UInt64 :=
  functions.combine (functions.combine seed (functions.string entry.1))
    (functions.constant entry.2)

def ShaderSpecializeSettings.hash (settings : ShaderSpecializeSettings) : UInt64 :=
  settings.constants.entries.foldl (combineConstant functions) 0

/-- Combine a seed with a name and the hash of what is stored by it. -/
def combineStored (seed : UInt64) (entry : List Char × StoredObject V) : UInt64 :=
  functions.combine (functions.combine seed (functions.string entry.1))
    (functions.size entry.2.hash)

def storageHash (storage : ArbitraryStorage V) : UInt64 :=
  storage.entries.foldl (combineStored functions) 0

/-- Combine a seed with a definition. -/
def combineDefinition (seed : UInt64) (definition : List Char × List Char) : UInt64 :=
  functions.combine (functions.combine seed (functions.string definition.1))
    (functions.string definition.2)

/-- What is combined with the seed behind the two hash maps. -/
def ShaderCompileSettings.hashRest (settings : ShaderCompileSettings V) (seed : UInt64) : UInt64 :=
  (functions.sort settings.additionalPreprocessors).foldl
    (fun result preprocessor => functions.combine result (functions.preprocessor preprocessor))
    (settings.preprocessorDefinitions.foldl (combineDefinition functions)
      (functions.combine seed (functions.pointer settings.pipelineType)))

def ShaderCompileSettings.hash (settings : ShaderCompileSettings V) : UInt64 :=
  settings.hashRest functions
    (functions.combine
      (functions.combine (functions.combine 0 (functions.pointer settings.compilerOptions))
        (storageHash functions settings.preprocessorContext))
      (settings.specializationSettings.hash functions))

/-- Settings that are equal as values: the entries of the hash maps may be stored in different
orders. -/
structure SameSettings (first second : ShaderCompileSettings V) : Prop where
  compilerOptions : first.compilerOptions = second.compilerOptions
  preprocessorContext : ∀ name, first.preprocessorContext.find name =
    second.preprocessorContext.find name
  additionalPreprocessors : first.additionalPreprocessors = second.additionalPreprocessors
  constants : ∀ name, first.specializationSettings.constants.find name =
    second.specializationSettings.constants.find name
  pipelineType : first.pipelineType = second.pipelineType
  preprocessorDefinitions : first.preprocessorDefinitions = second.preprocessorDefinitions

/-- The shaders that were compiled, by the hash of their names and settings. -/
abbrev ShaderCache (S : Type) :=
  HashTable UInt64 S

def hashForSettings (name : List Char) (settings : ShaderCompileSettings V) : UInt64 :=
  functions.combine (functions.combine 0 (functions.string name)) (settings.hash functions)

namespace ShaderCache

variable {S : Type}

def get (cache : ShaderCache S) (name : List Char) (settings : ShaderCompileSettings V) :
    Option S :=
  cache.find (hashForSettings functions name settings)

/-- Get a shader, and compile it if it is not there.  When compiling throws, the cache stays as it
is. -/
def getOrLoad (cache : ShaderCache S) (name : List Char) (settings : ShaderCompileSettings V)
    (compile : List Char → ShaderCompileSettings V → Option S) : Option S × ShaderCache S :=
  match cache.get functions name settings with
  | some shader => (some shader, cache)
  | none =>
      match compile name settings with
      | some shader =>
          (some shader, cache.emplace (hashForSettings functions name settings, shader))
      | none => (none, cache)

end ShaderCache

end VoxelEngine.Graphics
