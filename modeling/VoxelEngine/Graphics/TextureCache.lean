import VoxelEngine.Graphics.TextureLookup

/-!
# The cache of the texture manager

The subtextures in the cache take up all that is occupied in the atlas, as long as a list of
textures that is loaded does not have a name twice.
-/

namespace VoxelEngine.Graphics

open VoxelEngine.Data VoxelEngine.Transition

namespace TextureManager

/-- The subtextures in the cache. -/
def cached (manager : TextureManager) : List BoundSubtexture :=
  manager.subtextures.entries.map Prod.snd

/-- The occupied blocks are those of the subtextures in the cache, which do not share any. -/
structure Accounts (manager : TextureManager) : Prop where
  bound : ∀ subtexture ∈ manager.cached,
    subtexture.binding.toNat < manager.atlas.atlases.length
  disjoint : ∀ (index : Nat) (atlas : TextureAtlas), manager.atlas.atlases[index]? = some atlas →
    (GenerativeUse.regionsAt manager.cached index).Pairwise fun first second =>
      ∀ block, atlas.Covers first block → ¬atlas.Covers second block
  occupied_iff : ∀ (index : Nat) (atlas : TextureAtlas),
    manager.atlas.atlases[index]? = some atlas → ∀ block, block ∈ atlas.occupiedBlocks ↔
      ∃ region ∈ GenerativeUse.regionsAt manager.cached index, atlas.Covers region block

/-- No name occurs twice, other than for the same empty image. -/
def NamedOnce (sources : List TextureSource) : Prop :=
  sources.Pairwise fun first second => first.name = second.name →
    first.size = second.size ∧ (first.size.x = 0 ∨ first.size.y = 0)

end TextureManager

/-! ## Regions -/

namespace TextureAtlas

variable {atlas : TextureAtlas} {size other : Vec2 UInt32} {first second : Subtexture}
  {live : List Subtexture}

/-- A coordinate can be read off the fraction of the extent that it makes up. -/
theorem quotient_inj {extent coordinate another : UInt32}
    (coordinate_le : coordinate.toNat ≤ extent.toNat) (another_le : another.toNat ≤ extent.toNat)
    (same : exact coordinate / exact extent = exact another / exact extent) :
    coordinate = another := by
  apply UInt32.toNat_inj.mp
  rcases Nat.eq_zero_or_pos extent.toNat with zero | positive
  · rw [zero] at coordinate_le another_le
    rw [Nat.eq_zero_of_le_zero coordinate_le, Nat.eq_zero_of_le_zero another_le]
  · have numerators := (div_left_inj' (exact_pos positive).ne').mp same
    exact Nat.cast_injective numerators

theorem not_solid_iff (admits : atlas.Admits size) (shape : first.wh = atlas.fraction size) :
    first.solid = false ↔ size.x = 0 ∨ size.y = 0 := by
  have zero_iff : ∀ {extent coordinate : UInt32}, coordinate.toNat ≤ extent.toNat →
      (exact coordinate / exact extent = 0 ↔ coordinate = 0) := by
    intro extent coordinate coordinate_le
    have zero : exact 0 / exact extent = 0 := by
      rw [show exact 0 = 0 from Nat.cast_zero, zero_div]
    constructor
    · intro quotient
      exact quotient_inj coordinate_le (Nat.zero_le _) (quotient.trans zero.symm)
    · rintro rfl
      exact zero
  rw [Subtexture.solid, decide_eq_false_iff_not, not_and_or, not_not, not_not, shape]
  exact or_congr (zero_iff admits.le_x) (zero_iff admits.le_y)

end TextureAtlas

namespace GenerativeUse

variable {atlas : GenerativeAtlas} {live others : List BoundSubtexture}

/-- Empty subtextures may be forgotten. -/
theorem Sound.forget (sound : Sound ⟨atlas, live⟩) (subset : ∀ texture ∈ others, texture ∈ live)
    (solids : (others.filter fun texture => texture.region.solid) =
      live.filter fun texture => texture.region.solid) : Sound ⟨atlas, others⟩ := by
  have solidsAt : ∀ index, (regionsAt others index).filter Subtexture.solid =
      (regionsAt live index).filter Subtexture.solid := by
    intro index
    have commuted : ∀ textures : List BoundSubtexture,
        (regionsAt textures index).filter Subtexture.solid =
          regionsAt (textures.filter fun texture => texture.region.solid) index := by
      intro textures
      rw [regionsAt, regionsAt, List.filter_map, List.filter_filter, List.filter_filter]
      simp only [Function.comp_def, Bool.and_comm]
    rw [commuted, commuted, solids]
  constructor
  · exact sound.made
  · exact sound.length_le
  · intro index found foundEq
    have keeps := sound.keeps index found foundEq
    constructor
    · rw [solidsAt]
      exact keeps.sound
    · intro region mem
      rcases mem_regionsAt_iff.mp mem with ⟨texture, textureMem, here, rfl⟩
      apply keeps.corner
      exact mem_regionsAt_iff.mpr ⟨texture, subset texture textureMem, here, rfl⟩
  · exact sound.sameFrame
  · intro texture mem
    exact sound.bound texture (subset texture mem)

end GenerativeUse

/-! ## Loading -/

namespace TextureManager

/-- What holds between calls for lists that do not have a name twice. -/
structure Sound (constructor : Nat → TextureAtlas) (manager : TextureManager) : Prop where
  same : manager.atlas.constructor = constructor
  use : GenerativeUse.Sound ⟨manager.atlas, manager.cached⟩

section Loading

variable {constructor : Nat → TextureAtlas} {manager next : TextureManager}
  {sources : List TextureSource} {index : Nat} {atlases : List TextureAtlas}
  {regions : List Subtexture}

theorem Sound.accounts (sound : Sound constructor manager) : manager.Accounts where
  bound := sound.use.bound
  disjoint index atlas atlasEq := (sound.use.keeps index atlas atlasEq).disjoint
  occupied_iff index atlas atlasEq := (sound.use.keeps index atlas atlasEq).occupied_iff

/-- The subtextures of the regions in the atlas of an index. -/
def textures (index : Nat) (regions : List Subtexture) : List BoundSubtexture :=
  regions.map fun region => ⟨region, UInt8.ofNat index⟩

/-- The entries for the textures that are loaded. -/
def loadedEntries (sources : List TextureSource) (index : Nat) (regions : List Subtexture) :
    List (String × BoundSubtexture) :=
  (sources.map TextureSource.name).zip (textures index regions)

/-- The storage for the sources is handed out. -/
abbrev Stored (manager : TextureManager) (sources : List TextureSource) (index : Nat)
    (atlases : List TextureAtlas) (regions : List Subtexture) : Prop :=
  GenerativeUse.HandsOut ⟨manager.atlas, manager.cached⟩ (sources.map TextureSource.size) index
    atlases regions

/-- The manager after the storage was handed out. -/
def afterLoading (manager : TextureManager) (sources : List TextureSource) (index : Nat)
    (atlases : List TextureAtlas) (regions : List Subtexture) : TextureManager :=
  ⟨{ manager.atlas with atlases := atlases },
    manager.subtextures.emplaceAll (loadedEntries sources index regions)⟩

/-- Loading either stores all of the textures or none of them. -/
theorem Sound.load (sound : Sound constructor manager)
    (fitting : ∀ source ∈ sources, ∀ index < 255, (constructor index).Admits source.size)
    {result : Except String (List BoundSubtexture)}
    (loadEq : manager.loadToCommonTexture sources = some (next, result)) :
    (manager.atlas.Stores (sources.map TextureSource.size) ∧ ∃ index atlases regions,
        manager.Stored sources index atlases regions ∧
        next = manager.afterLoading sources index atlases regions ∧
        result = .ok (textures index regions)) ∨
      ¬manager.atlas.Stores (sources.map TextureSource.size) ∧ Sound constructor next ∧
        ∃ text, result = .error text := by
  have admissible : GenerativeUse.Admissible ⟨manager.atlas, manager.cached⟩
      (sources.map TextureSource.size) := by
    intro size mem index index_lt
    rcases List.mem_map.mp mem with ⟨source, sourceMem, rfl⟩
    rw [sound.same]
    exact fitting source sourceMem index index_lt
  rcases sound.use.prepareStorageForAll admissible with
    ⟨stores, index, atlases, regions, handsOut⟩ | ⟨notStores, text, atlases, turnsDown⟩
  · rw [loadToCommonTexture, handsOut.prepareEq] at loadEq
    cases loadEq
    exact Or.inl ⟨stores, index, atlases, regions, handsOut, rfl, rfl⟩
  · rw [loadToCommonTexture, turnsDown.prepareEq] at loadEq
    cases loadEq
    exact Or.inr ⟨notStores, ⟨sound.same, turnsDown.sound⟩, text, rfl⟩

theorem length_eq_of_stored (stored : manager.Stored sources index atlases regions) :
    sources.length = regions.length := by
  rcases stored.reached with ⟨_, _, _, shapes⟩
  rw [← shapes.length_eq, List.length_map]

/-- Each of the sources has a region of its own size. -/
theorem Sound.regions_of_stored (sound : Sound constructor manager)
    (fitting : ∀ source ∈ sources, ∀ index < 255, (constructor index).Admits source.size)
    (stored : manager.Stored sources index atlases regions) :
    ∃ atlas : TextureAtlas, atlas.Keeps (GenerativeUse.regionsAt manager.cached index ++ regions) ∧
      ∀ loaded ∈ sources.zip regions,
        atlas.Admits loaded.1.size ∧ loaded.2.wh = atlas.fraction loaded.1.size := by
  rcases stored.reached with ⟨atlas, atlasEq, keeps, shapes⟩
  rw [List.forall₂_map_left_iff, List.forall₂_iff_zip] at shapes
  refine ⟨atlas, keeps, fun loaded mem => ⟨?_, shapes.2 mem⟩⟩
  apply (stored.sound.sameFrame index atlas atlasEq).admits
  rw [show GenerativeAtlas.constructor _ = constructor from sound.same]
  exact fitting loaded.1 (List.of_mem_zip mem).1 index stored.index_lt

theorem loadedEntries_eq (sources : List TextureSource) (index : Nat)
    (regions : List Subtexture) :
    loadedEntries sources index regions = (sources.zip regions).map fun loaded =>
      (loaded.1.name, (⟨loaded.2, UInt8.ofNat index⟩ : BoundSubtexture)) :=
  List.zip_map

theorem namedOnce_iff (lengths : sources.length = regions.length) :
    NamedOnce sources ↔ (sources.zip regions).Pairwise fun first second =>
      first.1.name = second.1.name →
        first.1.size = second.1.size ∧ (first.1.size.x = 0 ∨ first.1.size.y = 0) := by
  have sources_eq : (sources.zip regions).map Prod.fst = sources :=
    List.map_fst_zip (Nat.le_of_eq lengths)
  rw [NamedOnce]
  conv_lhs => rw [← sources_eq, List.pairwise_map]

/-- Loading a list that does not have a name twice puts all of it into the cache, but for empty
textures that are there already. -/
theorem Sound.afterLoading (sound : Sound constructor manager)
    (fitting : ∀ source ∈ sources, ∀ index < 255, (constructor index).Admits source.size)
    (fresh : manager.Fresh sources) (stored : manager.Stored sources index atlases regions)
    (named : NamedOnce sources) :
    Sound constructor (manager.afterLoading sources index atlases regions) := by
  have lengths : sources.length = (textures index regions).length := by
    rw [textures, List.length_map]
    exact length_eq_of_stored stored
  have values_eq : (loadedEntries sources index regions).map Prod.snd = textures index regions := by
    apply List.map_snd_zip
    rw [List.length_map]
    exact Nat.le_of_eq lengths.symm
  have known : ∀ entry ∈ loadedEntries sources index regions,
      entry.1 ∈ manager.subtextures.entries.map Prod.fst → entry.2.region.solid = false := by
    intro entry mem used
    rcases List.mem_map.mp (List.of_mem_zip mem).1 with ⟨source, sourceMem, name_eq⟩
    rcases List.mem_map.mp used with ⟨other, otherMem, other_eq⟩
    have missing := List.lookup_eq_none_iff.mp (fresh source sourceMem) other otherMem
    rw [name_eq, other_eq] at missing
    simp at missing
  have repeated : (loadedEntries sources index regions).Pairwise fun first second =>
      first.1 = second.1 → second.2.region.solid = false := by
    rcases sound.regions_of_stored fitting stored with ⟨atlas, _, shapes⟩
    rw [loadedEntries_eq, List.pairwise_map]
    refine ((namedOnce_iff (length_eq_of_stored stored)).mp named).imp_of_mem ?_
    intro first second _ secondMem equal same
    rcases shapes second secondMem with ⟨admits, shape⟩
    rcases equal same with ⟨size_eq, empty⟩
    rw [size_eq] at empty
    exact (TextureAtlas.not_solid_iff admits shape).mpr empty
  have solids := HashTable.filter_emplaceAll known repeated
  refine ⟨sound.same, GenerativeUse.Sound.forget stored.sound ?_ ?_⟩
  · intro texture mem
    rcases List.mem_map.mp mem with ⟨entry, entryMem, rfl⟩
    rcases HashTable.mem_emplaceAll entryMem with before | added
    · exact List.mem_append_left _ (List.mem_map_of_mem before)
    · apply List.mem_append_right
      exact (List.of_mem_zip added).2
  · have split : ∀ entries : List (String × BoundSubtexture),
        (entries.map Prod.snd).filter (fun texture => texture.region.solid) =
          (entries.filter fun entry => entry.2.region.solid).map Prod.snd :=
      fun entries => List.filter_map
    rw [List.filter_append, cached, split, cached, split]
    change _ = _ ++ (textures index regions).filter _
    rw [← values_eq, split, ← List.map_append, ← solids]
    rfl

end Loading

section Runs

variable {constructor : Nat → TextureAtlas} {calls : List TextureCall} {final : TextureManager}

/-! ## Runs -/

theorem sound_create (created : ∀ index, ∃ size alignment,
    TextureAtlas.create size alignment = some (constructor index)) :
    Sound constructor (create constructor) :=
  ⟨rfl, GenerativeUse.sound_create created⟩

end Runs

end TextureManager

end VoxelEngine.Graphics
