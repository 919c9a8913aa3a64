import Mathlib.Data.List.Sort
import VoxelEngine.Graphics.CompileSettings

/-!
# The hash of equal settings

Settings that are equal as values may hold their constants and the context of their preprocessors
in different orders.  For one hash function they have the same hash if neighbouring entries can
change places; for every hash function, only if there are no neighbours.
-/

namespace VoxelEngine.Graphics

open Data

variable {V : Type} {functions : HashFunctions} {settings : ShaderCompileSettings V}

/-- Settings that are equal to the given ones have the same hash, and the shader that was loaded
with the given ones is found for them. -/
def HashesByValue (functions : HashFunctions) (settings : ShaderCompileSettings V) : Prop :=
  ∀ other, SameSettings settings other →
    other.hash functions = settings.hash functions ∧
      ∀ (S : Type) (cache loaded : ShaderCache S) (name : List Char)
        (compile : List Char → ShaderCompileSettings V → Option S) (shader : S),
        cache.getOrLoad functions name settings compile = (some shader, loaded) →
          loaded.get functions name other = some shader

/-- The function that combines a seed with a hash loses neither of them. -/
structure HashFunctions.Lawful (functions : HashFunctions) : Prop where
  seeds : ∀ value, Function.Injective fun seed => functions.combine seed value
  values : ∀ seed, Function.Injective (functions.combine seed)

/-- A shader is found by what it was loaded with. -/
theorem ShaderCache.get_getOrLoad {S : Type} {cache loaded : ShaderCache S} {name : List Char}
    {compile : List Char → ShaderCompileSettings V → Option S} {shader : S}
    (loadEq : cache.getOrLoad functions name settings compile = (some shader, loaded)) :
    loaded.get functions name settings = some shader := by
  unfold getOrLoad at loadEq
  cases found : cache.get functions name settings with
  | some there =>
      rw [found] at loadEq
      rcases Prod.mk.inj loadEq with ⟨shader_eq, rfl⟩
      exact found.trans shader_eq
  | none =>
      rw [found] at loadEq
      dsimp only at loadEq
      cases compiled : compile name settings with
      | none =>
          rw [compiled] at loadEq
          cases (Prod.mk.inj loadEq).1
      | some made =>
          rw [compiled] at loadEq
          rcases Prod.mk.inj loadEq with ⟨made_eq, rfl⟩
          unfold get at found ⊢
          rw [HashTable.find_emplace, found, if_pos rfl, Option.none_or]
          exact made_eq

/-- Equal hashes are looked up at the same place. -/
theorem ShaderCache.get_of_hash_eq {S : Type} {cache : ShaderCache S} {name : List Char}
    {other : ShaderCompileSettings V}
    (same : other.hash functions = settings.hash functions) :
    cache.get functions name other = cache.get functions name settings := by
  unfold get hashForSettings
  rw [same]

theorem ShaderCompileSettings.hashRest_injective (lawful : functions.Lawful) :
    Function.Injective (settings.hashRest functions) := by
  have definitions : ∀ definition, Function.Injective fun seed =>
      combineDefinition functions seed definition := fun definition =>
    (lawful.seeds (functions.string definition.2)).comp
      (lawful.seeds (functions.string definition.1))
  have preprocessors : ∀ preprocessor, Function.Injective fun seed =>
      functions.combine seed (functions.preprocessor preprocessor) := fun preprocessor =>
    lawful.seeds (functions.preprocessor preprocessor)
  exact (foldl_injective preprocessors _).comp
    ((foldl_injective definitions _).comp (lawful.seeds (functions.pointer settings.pipelineType)))

/-- The hash of settings of which the hash maps hash as given. -/
def ShaderCompileSettings.hashWith (functions : HashFunctions)
    (settings : ShaderCompileSettings V) (context constants : UInt64) : UInt64 :=
  settings.hashRest functions
    (functions.combine
      (functions.combine (functions.combine 0 (functions.pointer settings.compilerOptions))
        context)
      constants)

theorem ShaderCompileSettings.hashWith_inj (lawful : functions.Lawful)
    {context constants : UInt64} :
    (∀ other, settings.hashWith functions other constants =
        settings.hashWith functions context constants → other = context) ∧
      ∀ other, settings.hashWith functions context other =
        settings.hashWith functions context constants → other = constants := by
  constructor
  · intro other equal
    exact lawful.values _ (lawful.seeds _ (hashRest_injective lawful equal))
  · intro other equal
    exact lawful.values _ (hashRest_injective lawful equal)

/-- Equal settings hash as their hash maps do. -/
theorem SameSettings.hash_eq {other : ShaderCompileSettings V}
    (same : SameSettings settings other) :
    other.hash functions = settings.hashWith functions
      (storageHash functions other.preprocessorContext)
      (other.specializationSettings.hash functions) := by
  unfold ShaderCompileSettings.hash ShaderCompileSettings.hashWith ShaderCompileSettings.hashRest
  rw [same.compilerOptions, same.pipelineType, same.preprocessorDefinitions,
    same.additionalPreprocessors]

/-- Equal settings have the same hash and the same shader in the cache if and only if neighbouring
entries of each of the two hash maps can change places. -/
theorem hashesByValue_iff (lawful : functions.Lawful) :
    HashesByValue functions settings ↔
      Exchangeable (combineConstant functions) 0
          settings.specializationSettings.constants.entries ∧
        Exchangeable (combineStored functions) 0 settings.preprocessorContext.entries := by
  have constantSeeds : ∀ entry, Function.Injective fun seed =>
      combineConstant functions seed entry := fun entry =>
    (lawful.seeds (functions.constant entry.2)).comp (lawful.seeds (functions.string entry.1))
  have storedSeeds : ∀ entry : List Char × StoredObject V, Function.Injective fun seed =>
      combineStored functions seed entry := fun entry =>
    (lawful.seeds (functions.size entry.2.hash)).comp (lawful.seeds (functions.string entry.1))
  rw [← foldl_eq_of_perm_iff constantSeeds, ← foldl_eq_of_perm_iff storedSeeds]
  have itself : SameSettings settings settings := ⟨rfl, fun _ => rfl, rfl, fun _ => rfl, rfl, rfl⟩
  have apart := @ShaderCompileSettings.hashWith_inj V functions settings lawful
    (storageHash functions settings.preprocessorContext)
    (settings.specializationSettings.hash functions)
  constructor
  · intro byValue
    constructor
    · intro entries perm
      let reordered : ShaderCompileSettings V :=
        { settings with
          specializationSettings :=
            ⟨settings.specializationSettings.constants.reorder entries perm⟩ }
      have same : SameSettings settings reordered :=
        ⟨rfl, fun _ => rfl, rfl, fun name => (HashTable.find_reorder perm name).symm, rfl, rfl⟩
      have equal := (byValue reordered same).1
      rw [same.hash_eq, itself.hash_eq] at equal
      exact apart.2 _ equal
    · intro entries perm
      let reordered : ShaderCompileSettings V :=
        { settings with
          preprocessorContext := settings.preprocessorContext.reorder entries perm }
      have same : SameSettings settings reordered :=
        ⟨rfl, fun name => (HashTable.find_reorder perm name).symm, rfl, fun _ => rfl, rfl, rfl⟩
      have equal := (byValue reordered same).1
      rw [same.hash_eq, itself.hash_eq] at equal
      exact apart.1 _ equal
  · rintro ⟨constantsSame, contextSame⟩ other same
    have constants_eq : other.specializationSettings.hash functions =
        settings.specializationSettings.hash functions :=
      constantsSame _ (HashTable.perm_entries_iff.mpr fun name => (same.constants name).symm)
    have context_eq : storageHash functions other.preprocessorContext =
        storageHash functions settings.preprocessorContext :=
      contextSame _ (HashTable.perm_entries_iff.mpr fun name =>
        (same.preprocessorContext name).symm)
    have hash_eq : other.hash functions = settings.hash functions := by
      rw [same.hash_eq, itself.hash_eq, constants_eq, context_eq]
    refine ⟨hash_eq, ?_⟩
    intro S cache loaded name compile shader loadEq
    rw [ShaderCache.get_of_hash_eq hash_eq]
    exact ShaderCache.get_getOrLoad loadEq

/-- Each of the two hash maps has one entry at most. -/
structure ShaderCompileSettings.SingleEntries (settings : ShaderCompileSettings V) : Prop where
  constants : settings.specializationSettings.constants.entries.length ≤ 1
  preprocessorContext : settings.preprocessorContext.entries.length ≤ 1

/-- Hash functions that tell one name from all others, and nothing else. -/
def namingHashes (name : List Char) : HashFunctions where
  combine := fun seed value => seed * 3 + value
  string := fun text => if text = name then 1 else 0
  size := fun _ => 0
  pointer := fun _ => 0
  constant := fun _ => 0
  preprocessor := fun _ => 0
  sort := id

theorem lawful_namingHashes (name : List Char) : (namingHashes name).Lawful := by
  constructor
  · intro value left right equal
    have tripled : left * 3 = right * 3 := (UInt64.add_left_inj value).mp equal
    have inverse : (3 : UInt64) * 0xaaaaaaaaaaaaaaab = 1 := by decide
    calc
      left = left * 3 * 0xaaaaaaaaaaaaaaab := by rw [UInt64.mul_assoc, inverse, UInt64.mul_one]
      _ = right * 3 * 0xaaaaaaaaaaaaaaab := by rw [tripled]
      _ = right := by rw [UInt64.mul_assoc, inverse, UInt64.mul_one]
  · intro seed left right equal
    exact (UInt64.add_right_inj (seed * 3)).mp equal

/-- Two entries with different names are not exchanged by every hash function. -/
theorem length_le_one_of_exchangeable {W : Type} {table : HashTable (List Char) W}
    {step : HashFunctions → UInt64 → List Char × W → UInt64}
    (named : ∀ name seed entry, step (namingHashes name) seed entry =
      (seed * 3 + if entry.1 = name then 1 else 0) * 3 + 0)
    (exchangeable : ∀ name, Exchangeable (step (namingHashes name)) 0 table.entries) :
    table.entries.length ≤ 1 := by
  rcases table with ⟨entries, nodup⟩
  match entries, nodup, exchangeable with
  | [], _, _ => exact Nat.zero_le 1
  | [entry], _, _ => exact Nat.le_refl 1
  | first :: second :: rest, nodup, exchangeable =>
      have different : second.1 ≠ first.1 := by
        intro equal
        rw [List.map_cons, List.nodup_cons] at nodup
        exact nodup.1 (equal ▸ List.mem_cons_self)
      have swapped := exchangeable first.1 [] first second rest (List.Perm.refl _)
      simp only [List.foldl_nil, named, if_true, if_neg different] at swapped
      exact absurd swapped (by decide)

/-- A single entry has nothing to change places with. -/
theorem exchangeable_of_length_le_one {σ α : Type} {step : σ → α → σ} {start : σ}
    {elements : List α} (short : elements.length ≤ 1) : Exchangeable step start elements := by
  intro before first second after perm
  have lengths := perm.length_eq
  rw [List.length_append, List.length_cons, List.length_cons] at lengths
  omega

/-- Equal settings have the same hash and the same shader in the cache, whatever the hash functions
are, if and only if each of the two hash maps has one entry at most. -/
theorem hashesByValue_iff_singleEntries (settings : ShaderCompileSettings V) :
    (∀ functions : HashFunctions, functions.Lawful → HashesByValue functions settings) ↔
      settings.SingleEntries := by
  constructor
  · intro byValue
    have exchanged (name : List Char) :=
      (hashesByValue_iff (lawful_namingHashes name)).mp
        (byValue (namingHashes name) (lawful_namingHashes name))
    constructor
    · exact length_le_one_of_exchangeable (fun _ _ _ => rfl) fun name => (exchanged name).1
    · exact length_le_one_of_exchangeable (fun _ _ _ => rfl) fun name => (exchanged name).2
  · intro single functions lawful
    rw [hashesByValue_iff lawful]
    exact ⟨exchangeable_of_length_le_one single.constants,
      exchangeable_of_length_le_one single.preprocessorContext⟩

/-! ## The hash functions of one platform -/

/-- The hash of bytes by the method of Fowler, Noll and Vo. -/
def fnv1a (bytes : List UInt8) : UInt64 :=
  bytes.foldl (fun hash byte => (hash ^^^ byte.toUInt64) * 0x100000001b3) 0xcbf29ce484222325

/-- The given number of bytes of a number, the lowest one first. -/
def bytesOf (value : UInt64) : Nat → List UInt8
  | 0 => []
  | count + 1 => value.toUInt8 :: bytesOf (value >>> 8) count

/-- The odd number by which `boost::hash_combine` multiplies numbers of 64 bits. -/
def boostFactor : UInt64 :=
  0xc6a4a7935bd1e995

/-- Take the upper bits of a number into account in its lower ones. -/
def boostShift (value : UInt64) : UInt64 :=
  value ^^^ value >>> 47

def boostMix (value : UInt64) : UInt64 :=
  boostShift (value * boostFactor) * boostFactor

def boostCombine (seed value : UInt64) : UInt64 :=
  (seed ^^^ boostMix value) * boostFactor + 0xe6546b64

/-- Hash functions that hash the bytes of the values. -/
def byteHashes : HashFunctions where
  combine := boostCombine
  string := fun text => fnv1a (text.map fun char => char.toNat.toUInt8)
  size := fun value => fnv1a (bytesOf value 8)
  pointer := fun address => fnv1a (bytesOf address.toUInt64 8)
  constant
    | .bool value => fnv1a [value.toUInt8]
    | .i32 value => fnv1a (bytesOf value.toUInt32.toUInt64 4)
    | .u32 value => fnv1a (bytesOf value.toUInt64 4)
    | .float bits => fnv1a (bytesOf (if bits = 0x80000000 then 0 else bits.toUInt64) 4)
  preprocessor := fun preprocessor => preprocessor.identity.toUInt64
  sort := List.insertionSort fun first second => first.priority.code ≤ second.priority.code

theorem boostFactor_injective : Function.Injective fun value => value * boostFactor := by
  have inverse : boostFactor * 0x5f7a0ea7e59b19bd = 1 := by decide
  intro left right equal
  have unscaled := congrArg (fun value : UInt64 => value * 0x5f7a0ea7e59b19bd) equal
  dsimp only at unscaled
  rw [UInt64.mul_assoc, UInt64.mul_assoc, inverse, UInt64.mul_one, UInt64.mul_one] at unscaled
  exact unscaled

/-- Because it shifts by more than half of the bits, the second shift undoes the first one. -/
@[simp]
theorem boostShift_boostShift (value : UInt64) : boostShift (boostShift value) = value := by
  have shiftedOut : value >>> 47 >>> 47 = 0 := by
    apply UInt64.toNat_inj.mp
    rw [UInt64.toNat_shiftRight, UInt64.toNat_shiftRight]
    change value.toNat >>> 47 >>> 47 = 0
    rw [Nat.shiftRight_eq_div_pow, Nat.shiftRight_eq_div_pow, Nat.div_div_eq_div_mul]
    exact Nat.div_eq_of_lt (Nat.lt_trans value.toNat_lt (by decide))
  unfold boostShift
  rw [UInt64.shiftRight_xor, shiftedOut, UInt64.xor_zero, UInt64.xor_assoc, UInt64.xor_self,
    UInt64.xor_zero]

theorem boostMix_injective : Function.Injective boostMix :=
  boostFactor_injective.comp
    ((Function.LeftInverse.injective boostShift_boostShift).comp boostFactor_injective)

theorem boostCombine_seed_injective (value : UInt64) :
    Function.Injective fun seed => boostCombine seed value := by
  intro left right equal
  have scaled := (UInt64.add_left_inj 0xe6546b64).mp equal
  exact (UInt64.xor_left_inj (boostMix value)).mp (boostFactor_injective scaled)

theorem boostCombine_value_injective (seed : UInt64) :
    Function.Injective (boostCombine seed) := by
  intro left right equal
  have scaled := (UInt64.add_left_inj 0xe6546b64).mp equal
  exact boostMix_injective ((UInt64.xor_right_inj seed).mp (boostFactor_injective scaled))

/-- Settings with the given constants and nothing else. -/
def constantSettings (constants : HashTable (List Char) SpecializationConstant) :
    ShaderCompileSettings Unit where
  compilerOptions := 0
  preprocessorContext := HashTable.empty
  additionalPreprocessors := []
  specializationSettings := ⟨constants⟩
  pipelineType := 0
  preprocessorDefinitions := []

/-- The constants `a` and `b`, in the order in which they were set. -/
def twoConstants : HashTable (List Char) SpecializationConstant :=
  ⟨[(['a'], .bool true), (['b'], .bool false)], by decide⟩

/-- The same constants in the other order. -/
def swappedConstants : HashTable (List Char) SpecializationConstant :=
  ⟨[(['b'], .bool false), (['a'], .bool true)], by decide⟩

theorem lawful_byteHashes : byteHashes.Lawful where
  seeds := boostCombine_seed_injective
  values := boostCombine_value_injective

/-- The first of these constants alone. -/
def oneConstant : HashTable (List Char) SpecializationConstant :=
  ⟨[(['a'], .bool true)], by decide⟩

theorem hashesByValue_oneConstant : HashesByValue byteHashes (constantSettings oneConstant) :=
  (hashesByValue_iff_singleEntries (constantSettings oneConstant)).mpr
    ⟨Nat.le_refl 1, Nat.zero_le 1⟩ byteHashes lawful_byteHashes

/-- Two settings with the same two constants, of which the second is not found in a cache that
holds a shader for the first. -/
theorem hashes_by_order :
    ∃ first second : ShaderCompileSettings Unit, SameSettings first second ∧
      first.hash byteHashes ≠ second.hash byteHashes ∧
      (ShaderCache.getOrLoad byteHashes HashTable.empty ['s'] first
          fun _ _ => some ()).2.get byteHashes ['s'] first = some () ∧
      (ShaderCache.getOrLoad byteHashes HashTable.empty ['s'] first
          fun _ _ => some ()).2.get byteHashes ['s'] second = none := by
  exists constantSettings twoConstants, constantSettings swappedConstants
  have perm : twoConstants.entries.Perm swappedConstants.entries := List.Perm.swap _ _ []
  constructor
  · exact ⟨rfl, fun _ => rfl, rfl, HashTable.perm_entries_iff.mp perm, rfl, rfl⟩
  · decide

end VoxelEngine.Graphics
