import VoxelEngine.Graphics.UniformStorage

/-!
# What the storages on a stack give to a shader

Although the values are passed on by pointers into fields that are written again in each draw
call, a block gets the value that its layers give: each storage contributes once, on top of those
below it.  A uniform that two blocks look for is used for the first of them only.
-/

namespace VoxelEngine.Graphics

open VoxelEngine.Data

variable {ι ω ν : Type}

/-- Blocks of one name have the same members in all stages, or the shader could not be linked. -/
def DeclaredAlike (blocks : List UniformBlock) : Prop :=
  ∀ first ∈ blocks, ∀ second ∈ blocks, first.name = second.name → first.members = second.members

namespace UniformStorage

/-- The name of the first block that looks for a uniform. -/
def user (storage : UniformStorage ω ν) (blocks : List UniformBlock) (key : String) :
    Option String :=
  (blocks.find? fun block => storage.blockKey block = some key).map UniformBlock.name

/-- The key of the uniform that is used for the blocks of a name. -/
def provider (storage : UniformStorage ω ν) (blocks : List UniformBlock) (name : String) :
    Option String :=
  (blocks.find? fun block => block.name = name).bind fun block =>
    (storage.blockKey block).filter fun key => storage.user blocks key = some name

/-- The storage as a layer. -/
def layer (world : ω) (blocks : List UniformBlock) (pointer : ι)
    (storage : UniformStorage ω ν) (name : String) :
    Option (LayerEntry ν (UniformAddress ι)) :=
  (storage.provider blocks name).bind fun key =>
    (storage.uniforms.find key).map fun uniform =>
      ⟨uniform.current world, uniform.combineFn, ⟨pointer, key⟩⟩

variable {storage : UniformStorage ω ν} {blocks done todo : List UniformBlock}
  {block : UniformBlock} {name other key : String}

/-! ## Which uniform a block gets -/

theorem blockKey_congr (storage : UniformStorage ω ν) {first second : UniformBlock}
    (name_eq : first.name = second.name) (members_eq : first.members = second.members) :
    storage.blockKey first = storage.blockKey second := by
  rw [blockKey, blockKey, name_eq, members_eq]

theorem isSome_find_of_blockKey (keyEq : storage.blockKey block = some key) :
    (storage.uniforms.find key).isSome = true := by
  rw [blockKey] at keyEq
  split at keyEq
  · rename_i contained
    rw [← Option.some.inj keyEq]
    exact contained
  · split at keyEq
    · split at keyEq
      · rename_i contained
        rw [← Option.some.inj keyEq]
        exact contained
      · cases keyEq
    · cases keyEq

/-- Different names get different uniforms. -/
theorem provider_injective (first : storage.provider blocks name = some key)
    (second : storage.provider blocks other = some key) : name = other := by
  rw [provider] at first second
  rcases Option.bind_eq_some_iff.mp first with ⟨_, _, firstEq⟩
  rcases Option.bind_eq_some_iff.mp second with ⟨_, _, secondEq⟩
  have firstUser := of_decide_eq_true (Option.filter_eq_some_iff.mp firstEq).2
  have secondUser := of_decide_eq_true (Option.filter_eq_some_iff.mp secondEq).2
  exact Option.some.inj (firstUser.symm.trans secondUser)

/-- Who gets a uniform looks for it. -/
theorem exists_block_of_provider (provided : storage.provider blocks name = some key) :
    ∃ block ∈ blocks, block.name = name ∧ storage.blockKey block = some key := by
  rw [provider] at provided
  rcases Option.bind_eq_some_iff.mp provided with ⟨block, foundEq, filterEq⟩
  have named := List.find?_some foundEq
  exact ⟨block, List.mem_of_find?_eq_some foundEq, of_decide_eq_true named,
    (Option.filter_eq_some_iff.mp filterEq).1⟩

/-- A block gets the uniform that it looks for exactly if it is the first to do so, up to blocks of
the same name. -/
theorem provider_eq_some_iff (alike : DeclaredAlike blocks) (mem : block ∈ blocks)
    (keyEq : storage.blockKey block = some key) :
    storage.provider blocks block.name = some key ↔
      storage.user blocks key = some block.name := by
  have found : ∃ first, blocks.find? (fun other => other.name = block.name) = some first ∧
      storage.blockKey first = some key := by
    have exists_first : (blocks.find? fun other => other.name = block.name).isSome = true := by
      rw [List.find?_isSome]
      exact ⟨block, mem, decide_eq_true rfl⟩
    rcases Option.isSome_iff_exists.mp exists_first with ⟨first, firstEq⟩
    have named := List.find?_some firstEq
    have name_eq := of_decide_eq_true named
    refine ⟨first, firstEq, ?_⟩
    rw [← keyEq]
    exact storage.blockKey_congr name_eq
      (alike first (List.mem_of_find?_eq_some firstEq) block mem name_eq)
  rcases found with ⟨first, firstEq, firstKey⟩
  rw [provider, firstEq, Option.bind_some, firstKey, Option.filter_eq_some_iff]
  constructor
  · rintro ⟨_, used⟩
    exact of_decide_eq_true used
  · intro used
    exact ⟨rfl, decide_eq_true used⟩

/-- The first block that looks for a uniform gets it. -/
theorem provider_of_first (alike : DeclaredAlike blocks) (split_eq : blocks = done ++ block :: todo)
    (keyEq : storage.blockKey block = some key)
    (first : ∀ earlier ∈ done, storage.blockKey earlier ≠ some key) :
    storage.provider blocks block.name = some key := by
  have mem : block ∈ blocks := by
    rw [split_eq]
    exact List.mem_append_right _ List.mem_cons_self
  rw [provider_eq_some_iff alike mem keyEq, user, split_eq, List.find?_append,
    List.find?_eq_none.mpr (fun earlier inside => by
      simpa only [decide_eq_true_eq] using first earlier inside),
    Option.none_or, List.find?_cons]
  simp only [keyEq, decide_true, Option.map_some]

/-- Blocks of different names look for different uniforms. -/
def SeekApart (storage : UniformStorage ω ν) (blocks : List UniformBlock) : Prop :=
  ∀ first ∈ blocks, ∀ second ∈ blocks, ∀ key, storage.blockKey first = some key →
    storage.blockKey second = some key → first.name = second.name

/-- Every block gets what it looks for exactly if no block of another name looks for the same. -/
theorem provided_iff_seekApart (alike : DeclaredAlike blocks) (storage : UniformStorage ω ν) :
    (∀ block ∈ blocks, ∀ key, storage.blockKey block = some key →
        storage.provider blocks block.name = some key) ↔
      storage.SeekApart blocks := by
  constructor
  · intro provided first firstMem second secondMem key firstKey secondKey
    exact provider_injective (provided first firstMem key firstKey)
      (provided second secondMem key secondKey)
  · intro apart block mem key keyEq
    rw [provider_eq_some_iff alike mem keyEq, user]
    have exists_user : (blocks.find? fun other => storage.blockKey other = some key).isSome =
        true := by
      rw [List.find?_isSome]
      exact ⟨block, mem, decide_eq_true keyEq⟩
    rcases Option.isSome_iff_exists.mp exists_user with ⟨first, firstEq⟩
    have selected := List.find?_some firstEq
    rw [firstEq, Option.map_some]
    exact congrArg some (apart first (List.mem_of_find?_eq_some firstEq) block mem key
      (of_decide_eq_true selected) keyEq)

/-- Two blocks whose only member has the same name. -/
def lightBlocks : List UniformBlock :=
  [⟨"day", ["light"]⟩, ⟨"night", ["light"]⟩]

theorem declaredAlike_lightBlocks : DeclaredAlike lightBlocks := by
  intro first firstMem second secondMem name_eq
  simp only [lightBlocks, List.mem_cons, List.not_mem_nil, or_false] at firstMem secondMem
  rcases firstMem with rfl | rfl <;> rcases secondMem with rfl | rfl
  · rfl
  · exact absurd name_eq (by decide)
  · exact absurd name_eq (by decide)
  · rfl

def lightStorage (value : Nat) : UniformStorage Unit Nat :=
  empty.setUniform ⟨"light", .value value, CombineFunctions.add⟩

end UniformStorage

/-! ## Values behind pointers -/

/-- The value of a block and the uniform that was the last to set it. -/
def foundUniform (heap : Combinations ι ν) (state : HashTable String (UniformState ι))
    (name : String) : Option (ν × UniformAddress ι) :=
  (state.find name).bind fun target =>
    target.currentValue.bind fun pointer =>
      target.uniformSource.bind fun source =>
        (heap pointer).map fun value => (value, source)

/-- The value of each block is in the uniform that was the last to set it, and this is the one that
its storage provides for the block. -/
def Owned (storages : ι → UniformStorage ω ν) (blocks : List UniformBlock)
    (heap : Combinations ι ν) (state : HashTable String (UniformState ι)) : Prop :=
  ∀ name target, state.find name = some target →
    ∃ address : UniformAddress ι, target = ⟨some address, some address⟩ ∧
      (storages address.storage).provider blocks name = some address.key ∧
      (heap address).isSome = true

section Step

variable [DecidableEq ι] {world : ω} {storages : ι → UniformStorage ω ν} {pointer : ι}
  {blocks done todo : List UniformBlock} {block : UniformBlock} {name key : String}
  {heap : Combinations ι ν} {state : HashTable String (UniformState ι)}
  {start current : BindState ι ν} {uniform : Uniform ω ν} {entry : LayerEntry ν (UniformAddress ι)}

omit [DecidableEq ι] in
theorem foundUniform_of_none (absent : state.find name = none) :
    foundUniform heap state name = none := by
  rw [foundUniform, absent, Option.bind_none]

/-- A uniform combines its value with the one that the pointer leads to. -/
theorem combine_of_owned (owned : Owned storages blocks heap state) (world : ω)
    (uniform : Uniform ω ν) (self : UniformAddress ι) (name : String) :
    uniform.combine world self ((state.find name).getD ⟨none, none⟩).currentValue heap =
      some (Function.update heap self
        (some (LayerEntry.over ⟨uniform.current world, uniform.combineFn, self⟩
          (foundUniform heap state name)).1)) := by
  cases targetEq : state.find name with
  | none =>
      rw [foundUniform_of_none targetEq]
      rfl
  | some target =>
      rcases owned name target targetEq with ⟨address, rfl, _, stored⟩
      rcases Option.isSome_iff_exists.mp stored with ⟨old, oldEq⟩
      rw [foundUniform, targetEq]
      simp only [Option.getD_some, Option.bind_some, Uniform.combine, oldEq, Option.map_some]
      rfl

/-- Setting a block shows at this block only, since no other block has its value in the same
uniform. -/
theorem foundUniform_update (owned : Owned storages blocks heap state) {value : ν}
    (provided : (storages pointer).provider blocks name = some key) (other : String) :
    foundUniform (Function.update heap ⟨pointer, key⟩ (some value))
        (state.insertOrAssign (name, ⟨some ⟨pointer, key⟩, some ⟨pointer, key⟩⟩)) other =
      if other = name then some (value, ⟨pointer, key⟩) else foundUniform heap state other := by
  rw [foundUniform, HashTable.find_insertOrAssign]
  by_cases same : other = name
  · rw [if_pos same, if_pos same]
    simp only [Option.bind_some, Function.update_self, Option.map_some]
  · rw [if_neg same, if_neg same]
    cases targetEq : state.find other with
    | none => rw [foundUniform_of_none targetEq, Option.bind_none]
    | some target =>
        rcases owned other target targetEq with ⟨address, rfl, otherProvided, _⟩
        have apart : address ≠ ⟨pointer, key⟩ := by
          rintro rfl
          exact same (UniformStorage.provider_injective otherProvided provided)
        rw [foundUniform, targetEq]
        simp only [Option.bind_some, Function.update_of_ne apart]

theorem Owned.update (owned : Owned storages blocks heap state) {value : ν}
    (provided : (storages pointer).provider blocks name = some key) :
    Owned storages blocks (Function.update heap ⟨pointer, key⟩ (some value))
      (state.insertOrAssign (name, ⟨some ⟨pointer, key⟩, some ⟨pointer, key⟩⟩)) := by
  intro other target targetEq
  rw [HashTable.find_insertOrAssign] at targetEq
  by_cases same : other = name
  · rw [if_pos same] at targetEq
    rw [← Option.some.inj targetEq, same]
    refine ⟨⟨pointer, key⟩, rfl, provided, ?_⟩
    rw [Function.update_self]
    rfl
  · rw [if_neg same] at targetEq
    rcases owned other target targetEq with ⟨address, rfl, otherProvided, stored⟩
    refine ⟨address, rfl, otherProvided, ?_⟩
    by_cases here : address = ⟨pointer, key⟩
    · rw [here, Function.update_self]
      rfl
    · rw [Function.update_of_ne here]
      exact stored

/-- What the loop over the blocks has done after some of them. -/
structure Progress (world : ω) (storages : ι → UniformStorage ω ν) (pointer : ι)
    (blocks done : List UniformBlock) (start current : BindState ι ν) : Prop where
  alreadySet : ∀ key, key ∈ current.alreadySet ↔
    ∃ block ∈ done, (storages pointer).blockKey block = some key
  owned : Owned storages blocks current.heap current.state
  found : ∀ name, foundUniform current.heap current.state name =
    addLayer
      (((storages pointer).layer world blocks pointer name).filter fun entry =>
        entry.label.key ∈ current.alreadySet)
      (foundUniform start.heap start.state name)

omit [DecidableEq ι] in
/-- The layer of a storage is the uniform that it provides. -/
theorem layer_of_provider (provided : (storages pointer).provider blocks name = some key)
    (uniformEq : (storages pointer).uniforms.find key = some uniform) :
    (storages pointer).layer world blocks pointer name =
      some ⟨uniform.current world, uniform.combineFn, ⟨pointer, key⟩⟩ := by
  rw [UniformStorage.layer, provided, Option.bind_some, uniformEq, Option.map_some]

omit [DecidableEq ι] in
theorem provider_of_layer
    (layerEq : (storages pointer).layer world blocks pointer name = some entry) :
    (storages pointer).provider blocks name = some entry.label.key := by
  rw [UniformStorage.layer] at layerEq
  rcases Option.bind_eq_some_iff.mp layerEq with ⟨key, provided, mapEq⟩
  rcases Option.map_eq_some_iff.mp mapEq with ⟨_, _, rfl⟩
  exact provided

omit [DecidableEq ι] in
/-- Blocks that look for no uniform, or for one that is set already, change nothing. -/
theorem Progress.skip
    (progress : Progress world storages pointer blocks done start current)
    (known : ∀ key, (storages pointer).blockKey block = some key → key ∈ current.alreadySet) :
    Progress world storages pointer blocks (done ++ [block]) start current := by
  refine ⟨?_, progress.owned, progress.found⟩
  intro key
  rw [progress.alreadySet]
  constructor
  · rintro ⟨earlier, mem, keyEq⟩
    exact ⟨earlier, List.mem_append_left _ mem, keyEq⟩
  · rintro ⟨earlier, mem, keyEq⟩
    rcases List.mem_append.mp mem with before | last
    · exact ⟨earlier, before, keyEq⟩
    · rw [List.mem_singleton.mp last] at keyEq
      exact (progress.alreadySet key).mp (known key keyEq)

/-- A block that is the first to look for a uniform gets it on top of what it had. -/
theorem Progress.set (alike : DeclaredAlike blocks) (split_eq : blocks = done ++ block :: todo)
    (progress : Progress world storages pointer blocks done start current)
    (keyEq : (storages pointer).blockKey block = some key)
    (uniformEq : (storages pointer).uniforms.find key = some uniform)
    (unset : key ∉ current.alreadySet) :
    Progress world storages pointer blocks (done ++ [block]) start
      { heap := Function.update current.heap ⟨pointer, key⟩
          (some (LayerEntry.over
            ⟨uniform.current world, uniform.combineFn, (⟨pointer, key⟩ : UniformAddress ι)⟩
            (foundUniform current.heap current.state block.name)).1)
        state := current.state.insertOrAssign
          (block.name, ⟨some ⟨pointer, key⟩, some ⟨pointer, key⟩⟩)
        alreadySet := key :: current.alreadySet } := by
  have first : ∀ earlier ∈ done, (storages pointer).blockKey earlier ≠ some key := by
    intro earlier mem earlierKey
    exact unset ((progress.alreadySet key).mpr ⟨earlier, mem, earlierKey⟩)
  have provided := UniformStorage.provider_of_first alike split_eq keyEq first
  constructor
  · intro other
    rw [List.mem_cons, progress.alreadySet]
    constructor
    · rintro (rfl | ⟨earlier, mem, earlierKey⟩)
      · exact ⟨block, List.mem_append_right _ (List.mem_singleton_self block), keyEq⟩
      · exact ⟨earlier, List.mem_append_left _ mem, earlierKey⟩
    · rintro ⟨earlier, mem, earlierKey⟩
      rcases List.mem_append.mp mem with before | last
      · exact Or.inr ⟨earlier, before, earlierKey⟩
      · rw [List.mem_singleton.mp last, keyEq] at earlierKey
        exact Or.inl (Option.some.inj earlierKey).symm
  · exact progress.owned.update provided
  · intro name
    rw [foundUniform_update progress.owned provided]
    by_cases same : name = block.name
    · rw [if_pos same, same, layer_of_provider provided uniformEq, progress.found block.name,
        layer_of_provider provided uniformEq]
      simp only [Option.filter_some, List.mem_cons_self, decide_true, if_true, unset, decide_false,
        Bool.false_eq_true, if_false, addLayer]
      rfl
    · rw [if_neg same, progress.found name]
      cases layerEq : (storages pointer).layer world blocks pointer name with
      | none => rfl
      | some entry =>
          have different : entry.label.key ≠ key := by
            intro key_eq
            have otherProvided := provider_of_layer layerEq
            rw [key_eq] at otherProvided
            exact same (UniformStorage.provider_injective otherProvided provided)
          simp only [Option.filter_some, List.mem_cons, different, false_or]

/-- The body of the loop does not follow a pointer to nothing, and makes progress. -/
theorem Progress.step (alike : DeclaredAlike blocks) (split_eq : blocks = done ++ block :: todo)
    (progress : Progress world storages pointer blocks done start current) :
    ∃ next, (storages pointer).bindBlock world pointer current block = some next ∧
      Progress world storages pointer blocks (done ++ [block]) start next := by
  rw [UniformStorage.bindBlock]
  cases keyEq : (storages pointer).blockKey block with
  | none =>
      refine ⟨current, rfl, progress.skip ?_⟩
      intro key blockEq
      rw [keyEq] at blockEq
      cases blockEq
  | some key =>
      rcases Option.isSome_iff_exists.mp (UniformStorage.isSome_find_of_blockKey keyEq) with
        ⟨uniform, uniformEq⟩
      simp only [uniformEq]
      by_cases known : key ∈ current.alreadySet
      · rw [if_pos known]
        refine ⟨current, rfl, progress.skip ?_⟩
        intro other blockEq
        rw [keyEq] at blockEq
        rw [← Option.some.inj blockEq]
        exact known
      · rw [if_neg known, combine_of_owned progress.owned, Option.map_some]
        exact ⟨_, rfl, progress.set alike split_eq keyEq uniformEq known⟩

theorem Progress.run (alike : DeclaredAlike blocks) (split_eq : blocks = done ++ todo)
    (progress : Progress world storages pointer blocks done start current) :
    ∃ final, todo.foldlM ((storages pointer).bindBlock world pointer) current = some final ∧
      Progress world storages pointer blocks blocks start final := by
  induction todo generalizing done current with
  | nil =>
      rw [List.append_nil] at split_eq
      exact ⟨current, rfl, split_eq ▸ progress⟩
  | cons block rest ih =>
      rcases progress.step alike split_eq with ⟨next, stepEq, nextProgress⟩
      have nextSplit : blocks = (done ++ [block]) ++ rest := by
        rw [split_eq, List.append_assoc, List.singleton_append]
      rcases ih nextSplit nextProgress with ⟨final, restEq, finalProgress⟩
      refine ⟨final, ?_, finalProgress⟩
      rw [List.foldlM_cons, stepEq]
      exact restEq

/-- A storage adds its layer. -/
theorem UniformStorage.bindUniforms_adds (alike : DeclaredAlike blocks)
    (owned : Owned storages blocks heap state) (world : ω) (pointer : ι) :
    ∃ nextHeap nextState,
      (storages pointer).bindUniforms world blocks pointer heap state =
        some (nextHeap, nextState) ∧
      Owned storages blocks nextHeap nextState ∧
      ∀ name, foundUniform nextHeap nextState name =
        addLayer ((storages pointer).layer world blocks pointer name)
          (foundUniform heap state name) := by
  have begin : Progress world storages pointer blocks [] ⟨heap, state, []⟩ ⟨heap, state, []⟩ := by
    constructor
    · intro key
      simp
    · exact owned
    · intro name
      cases (storages pointer).layer world blocks pointer name with
      | none => rfl
      | some entry => simp [addLayer]
  rcases begin.run alike (List.nil_append blocks).symm with ⟨final, foldEq, progress⟩
  refine ⟨final.heap, final.state, ?_, progress.owned, ?_⟩
  · rw [bindUniforms, foldEq, Option.map_some]
  · intro name
    rw [progress.found]
    cases layerEq : (storages pointer).layer world blocks pointer name with
    | none => rfl
    | some entry =>
        rcases exists_block_of_provider (provider_of_layer layerEq) with ⟨block, mem, _, keyEq⟩
        have set := (progress.alreadySet entry.label.key).mpr ⟨block, mem, keyEq⟩
        simp only [Option.filter_some, set, decide_true, if_true]

end Step

/-- From whatever the draw calls before have left in the uniforms, no pointer to nothing is
followed, and each block gets what the layers of the stack give it. -/
theorem bindSources_resolves [DecidableEq ι] {blocks : List UniformBlock}
    (alike : DeclaredAlike blocks) (world : ω) (storages : ι → UniformStorage ω ν)
    (sources : List ι) (heap : Combinations ι ν) :
    ∃ nextHeap state,
      bindSources world blocks storages sources heap = some (nextHeap, state) ∧
      Owned storages blocks nextHeap state ∧
      ∀ name, foundUniform nextHeap state name =
        resolve (sources.map fun pointer => (storages pointer).layer world blocks pointer)
          name := by
  induction sources using List.reverseRecOn with
  | nil =>
      refine ⟨heap, HashTable.empty, rfl, ?_, fun name => rfl⟩
      intro name target targetEq
      cases targetEq
  | append_singleton lower pointer ih =>
      rcases ih with ⟨lowerHeap, lowerState, lowerEq, owned, found⟩
      rcases UniformStorage.bindUniforms_adds alike owned world pointer with
        ⟨nextHeap, state, bindEq, nextOwned, added⟩
      refine ⟨nextHeap, state, ?_, nextOwned, ?_⟩
      · rw [bindSources] at lowerEq ⊢
        rw [List.foldlM_append, lowerEq]
        simp only [List.foldlM_cons, List.foldlM_nil, bind, Option.bind_some, bindEq, pure]
      · intro name
        rw [added, found, List.map_append, List.map_singleton, resolve_append_singleton]

/-- One storage twice, with another one in between. -/
theorem bindSources_resolves_lightBlocks :
    ∃ nextHeap state,
      bindSources () UniformStorage.lightBlocks UniformStorage.lightStorage [5, 7, 5]
          (fun _ => some 100) = some (nextHeap, state) ∧
      foundUniform nextHeap state "day" = some (17, ⟨5, "light"⟩) ∧
      foundUniform nextHeap state "night" = none := by
  rcases bindSources_resolves UniformStorage.declaredAlike_lightBlocks ()
    UniformStorage.lightStorage [5, 7, 5] (fun _ => some 100) with
      ⟨nextHeap, state, bindEq, _, found⟩
  refine ⟨nextHeap, state, bindEq, ?_, ?_⟩
  · rw [found]
    rfl
  · rw [found]
    rfl

/-! ## Which blocks are served -/

/-- Each block for which the storage has a uniform gets its value on top of what it had, and is
attributed to it. -/
def ServesAll (world : ω) (storages : ι → UniformStorage ω ν) (blocks : List UniformBlock)
    (pointer : ι) (before after : String → Option (ν × UniformAddress ι)) : Prop :=
  ∀ block ∈ blocks, ∀ key uniform, (storages pointer).blockKey block = some key →
    (storages pointer).uniforms.find key = some uniform →
    after block.name =
      some (LayerEntry.over ⟨uniform.current world, uniform.combineFn, ⟨pointer, key⟩⟩
        (before block.name))

/-- A block has the value of a uniform exactly if the storage provides this one for it. -/
theorem found_iff_provider {storages : ι → UniformStorage ω ν}
    {blocks : List UniformBlock} {pointer : ι} {world : ω} {key name : String}
    {uniform : Uniform ω ν} {heap : Combinations ι ν} {state : HashTable String (UniformState ι)}
    {before : Option (ν × UniformAddress ι)} (owned : Owned storages blocks heap state)
    (added : foundUniform heap state name =
      addLayer ((storages pointer).layer world blocks pointer name) before)
    (uniformEq : (storages pointer).uniforms.find key = some uniform) :
    foundUniform heap state name =
        some (LayerEntry.over ⟨uniform.current world, uniform.combineFn, ⟨pointer, key⟩⟩ before) ↔
      (storages pointer).provider blocks name = some key := by
  constructor
  · intro set
    rw [foundUniform] at set
    rcases Option.bind_eq_some_iff.mp set with ⟨target, targetEq, valueEq⟩
    rcases owned name target targetEq with ⟨address, rfl, provided, _⟩
    simp only [Option.bind_some] at valueEq
    rcases Option.map_eq_some_iff.mp valueEq with ⟨value, _, same⟩
    have address_eq : address = ⟨pointer, key⟩ := (congrArg Prod.snd same).trans rfl
    rw [address_eq] at provided
    exact provided
  · intro provided
    rw [added, layer_of_provider provided uniformEq]
    rfl

/-- From whatever the draw calls before have left, the storage on top of a stack serves all blocks
exactly if no two blocks of different names look for the same uniform. -/
theorem bindSources_servesAll_iff [DecidableEq ι] {blocks : List UniformBlock}
    (alike : DeclaredAlike blocks) (world : ω) (storages : ι → UniformStorage ω ν)
    (lower : List ι) (pointer : ι) (heap : Combinations ι ν) :
    ∃ lowerHeap lowerState nextHeap nextState,
      bindSources world blocks storages lower heap = some (lowerHeap, lowerState) ∧
      bindSources world blocks storages (lower ++ [pointer]) heap = some (nextHeap, nextState) ∧
      (ServesAll world storages blocks pointer (foundUniform lowerHeap lowerState)
          (foundUniform nextHeap nextState) ↔
        (storages pointer).SeekApart blocks) := by
  rcases bindSources_resolves alike world storages lower heap with
    ⟨lowerHeap, lowerState, lowerEq, _, lowerFound⟩
  rcases bindSources_resolves alike world storages (lower ++ [pointer]) heap with
    ⟨nextHeap, nextState, nextEq, owned, nextFound⟩
  refine ⟨lowerHeap, lowerState, nextHeap, nextState, lowerEq, nextEq, ?_⟩
  rw [← UniformStorage.provided_iff_seekApart alike, ServesAll]
  have added : ∀ name, foundUniform nextHeap nextState name =
      addLayer ((storages pointer).layer world blocks pointer name)
        (foundUniform lowerHeap lowerState name) := by
    intro name
    rw [nextFound, lowerFound, List.map_append, List.map_singleton, resolve_append_singleton]
  constructor
  · intro serves block mem key keyEq
    rcases Option.isSome_iff_exists.mp (UniformStorage.isSome_find_of_blockKey keyEq) with
      ⟨uniform, uniformEq⟩
    exact (found_iff_provider owned (added block.name) uniformEq).mp
      (serves block mem key uniform keyEq uniformEq)
  · intro provided block mem key uniform keyEq uniformEq
    exact (found_iff_provider owned (added block.name) uniformEq).mpr
      (provided block mem key keyEq)

/-- The light of a storage reaches the day only. -/
theorem bindSources_servesAll_lightBlocks :
    ∃ lowerHeap lowerState nextHeap nextState,
      bindSources () UniformStorage.lightBlocks UniformStorage.lightStorage [5]
          (fun _ => some 100) = some (lowerHeap, lowerState) ∧
      bindSources () UniformStorage.lightBlocks UniformStorage.lightStorage [5, 7]
          (fun _ => some 100) = some (nextHeap, nextState) ∧
      ¬ ServesAll () UniformStorage.lightStorage UniformStorage.lightBlocks 7
        (foundUniform lowerHeap lowerState) (foundUniform nextHeap nextState) := by
  rcases bindSources_servesAll_iff UniformStorage.declaredAlike_lightBlocks ()
    UniformStorage.lightStorage [5] 7 (fun _ => some 100) with
      ⟨lowerHeap, lowerState, nextHeap, nextState, lowerEq, nextEq, serves_iff⟩
  refine ⟨lowerHeap, lowerState, nextHeap, nextState, lowerEq, nextEq, ?_⟩
  rw [serves_iff]
  intro apart
  have same := apart ⟨"day", ["light"]⟩ List.mem_cons_self
    ⟨"night", ["light"]⟩ (List.mem_cons_of_mem _ List.mem_cons_self) "light" rfl rfl
  exact absurd same (by decide)

end VoxelEngine.Graphics
