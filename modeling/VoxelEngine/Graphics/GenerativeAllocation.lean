import VoxelEngine.Graphics.GroupStorage

/-!
# Allocation in a generative atlas

A group of textures is stored in one of the atlases, or in a new one, or nothing happens.  If the
group does not even have room in a new atlas, then that atlas is there nevertheless.
-/

namespace VoxelEngine.Graphics

open VoxelEngine.Data VoxelEngine.Transition

namespace GenerativeAtlas

variable {β : Type}

/-- An atlas of a generative atlas takes the group, or can be made for it. -/
def Stores (atlas : GenerativeAtlas) (sizes : List (Vec2 UInt32)) : Prop :=
  (∃ existing ∈ atlas.atlases, existing.Takes sizes) ∨
    atlas.atlases.length < 255 ∧ (atlas.constructor atlas.atlases.length).Takes sizes

/-- The loop goes on to the first atlas that takes the group. -/
theorem invokeEach_spec {sizes : List (Vec2 UInt32)} {atlases : List TextureAtlas}
    (answers : ∀ atlas ∈ atlases,
      (∃ next regions, atlas.prepareStorageForAll sizes = some (next, .ok regions)) ∨
        ∃ text, atlas.prepareStorageForAll sizes = some (atlas, .error text)) (index : Nat) :
    (∃ position atlas next regions, atlases[position]? = some atlas ∧
        atlas.prepareStorageForAll sizes = some (next, .ok regions) ∧
        invokeEach (prepareGroup sizes) index atlases =
          some (atlases.set position next, some (regions.map fun region =>
            ⟨region, UInt8.ofNat (index + position)⟩))) ∨
      (∀ atlas ∈ atlases, ∃ text, atlas.prepareStorageForAll sizes = some (atlas, .error text)) ∧
        invokeEach (prepareGroup sizes) index atlases = some (atlases, none) := by
  induction atlases generalizing index with
  | nil => exact Or.inr ⟨fun _ mem => (by cases mem), rfl⟩
  | cons atlas rest ih =>
      rcases answers atlas List.mem_cons_self with ⟨next, regions, okEq⟩ | ⟨text, errorEq⟩
      · refine Or.inl ⟨0, atlas, next, regions, rfl, okEq, ?_⟩
        rw [invokeEach, prepareGroup, okEq]
        rfl
      · have restAnswers := fun other mem => answers other (List.mem_cons_of_mem atlas mem)
        have goOn : invokeEach (prepareGroup sizes) index (atlas :: rest) =
            (invokeEach (prepareGroup sizes) (index + 1) rest).map
              fun (others, value) => (atlas :: others, value) := by
          rw [invokeEach, prepareGroup, errorEq]
          rfl
        rw [goOn]
        rcases ih restAnswers (index + 1) with
          ⟨position, other, next, regions, otherEq, okEq, eachEq⟩ | ⟨none, eachEq⟩
        · refine Or.inl ⟨position + 1, other, next, regions, ?_, okEq, ?_⟩
          · rwa [List.getElem?_cons_succ]
          · rw [eachEq, Option.map_some, List.set_cons_succ, Nat.add_assoc index 1 position,
              Nat.add_comm 1 position]
        · refine Or.inr ⟨?_, by rw [eachEq, Option.map_some]⟩
          intro other mem
          rcases List.mem_cons.mp mem with rfl | mem
          · exact ⟨text, errorEq⟩
          · exact none other mem

/-- Trying a group of one size is trying the size. -/
theorem prepareGroup_singleton (size : Vec2 UInt32) (atlas : TextureAtlas) (index : UInt8) :
    prepareGroup [size] atlas index = (prepareOne size atlas index).map fun (next, result) =>
      (next, result.map fun subtexture => [subtexture]) := by
  rw [prepareGroup, prepareOne, TextureAtlas.prepareStorageForAll, TextureAtlas.prepareEach]
  cases atlas.prepareStorage size with
  | none => rfl
  | some outcome =>
      rcases outcome with ⟨next, result⟩
      cases result with
      | error text => rfl
      | ok region => rfl

theorem invokeEach_map {γ : Type} {attempt : Attempt β} {mapped : Attempt γ} {change : β → γ}
    (each : ∀ atlas index, mapped atlas index =
      (attempt atlas index).map fun (next, result) => (next, result.map change))
    (index : Nat) (atlases : List TextureAtlas) :
    invokeEach mapped index atlases =
      (invokeEach attempt index atlases).map fun (next, value) => (next, value.map change) := by
  induction atlases generalizing index with
  | nil => rfl
  | cons atlas rest ih =>
      rw [invokeEach, invokeEach, each]
      cases attempt atlas (UInt8.ofNat index) with
      | none => rfl
      | some outcome =>
          rcases outcome with ⟨next, result⟩
          cases result with
          | ok value => rfl
          | error text =>
              simp only [Option.map_some, Except.map, ih]
              cases invokeEach attempt (index + 1) rest <;> rfl

/-- Invoking a function whose result is changed. -/
theorem invokeUntilSuccess_map {γ : Type} {attempt : Attempt β} {mapped : Attempt γ}
    {change : β → γ} (each : ∀ atlas index, mapped atlas index =
      (attempt atlas index).map fun (next, result) => (next, result.map change))
    (atlas : GenerativeAtlas) :
    atlas.invokeUntilSuccess mapped =
      (atlas.invokeUntilSuccess attempt).map fun (next, result) => (next, result.map change) := by
  rw [invokeUntilSuccess, invokeUntilSuccess, invokeEach_map each]
  cases invokeEach attempt 0 atlas.atlases with
  | none => rfl
  | some outcome =>
      rcases outcome with ⟨atlases, value⟩
      cases value with
      | some value => rfl
      | none =>
          simp only [Option.map_some, Option.map_none, each]
          split
          · rfl
          · cases attempt (atlas.constructor atlases.length) (UInt8.ofNat atlases.length) <;> rfl

/-- Preparing storage for one size is preparing it for a group. -/
theorem prepareStorageForAll_singleton (atlas : GenerativeAtlas) (size : Vec2 UInt32) :
    atlas.prepareStorageForAll [size] =
      (atlas.prepareStorage size).map fun (next, result) =>
        (next, result.map fun subtexture => [subtexture]) :=
  invokeUntilSuccess_map (prepareGroup_singleton size) atlas

end GenerativeAtlas

namespace GenerativeUse

/-- The regions that lie in the atlas of an index. -/
def regionsAt (live : List BoundSubtexture) (index : Nat) : List Subtexture :=
  (live.filter fun subtexture => decide (subtexture.binding.toNat = index)).map
    BoundSubtexture.region

/-- No size is larger than any of the atlases that can be made. -/
def Admissible (use : GenerativeUse) (sizes : List (Vec2 UInt32)) : Prop :=
  ∀ size ∈ sizes, ∀ index < 255, (use.atlas.constructor index).Admits size

/-- What holds between calls. -/
structure Sound (use : GenerativeUse) : Prop where
  made : ∀ index, (use.atlas.constructor index).Keeps []
  length_le : use.atlas.atlases.length ≤ 255
  keeps : ∀ (index : Nat) (atlas : TextureAtlas), use.atlas.atlases[index]? = some atlas →
    atlas.Keeps (regionsAt use.live index)
  sameFrame : ∀ (index : Nat) (atlas : TextureAtlas), use.atlas.atlases[index]? = some atlas →
    TextureAtlas.SameFrame (use.atlas.constructor index) atlas
  bound : ∀ subtexture ∈ use.live, subtexture.binding.toNat < use.atlas.atlases.length

section Regions

variable {live : List BoundSubtexture} {regions : List Subtexture} {index other : Nat}

theorem toNat_ofNat_binding (index_lt : index < 255) : (UInt8.ofNat index).toNat = index :=
  UInt8.toNat_ofNat_of_lt' (Nat.lt_succ_of_lt index_lt)

theorem regionsAt_append_same (index_lt : index < 255) (live : List BoundSubtexture)
    (regions : List Subtexture) :
    regionsAt (live ++ regions.map fun region => ⟨region, UInt8.ofNat index⟩) index =
      regionsAt live index ++ regions := by
  have all : (regions.map fun region => (⟨region, UInt8.ofNat index⟩ : BoundSubtexture)).filter
      (fun subtexture => decide (subtexture.binding.toNat = index)) =
        regions.map fun region => ⟨region, UInt8.ofNat index⟩ := by
    apply List.filter_eq_self.mpr
    intro subtexture mem
    rcases List.mem_map.mp mem with ⟨region, _, rfl⟩
    exact decide_eq_true (toNat_ofNat_binding index_lt)
  rw [regionsAt, List.filter_append, List.map_append, all, List.map_map]
  exact congrArg _ (List.map_id regions)

theorem regionsAt_append_other (index_lt : index < 255) (different : other ≠ index)
    (live : List BoundSubtexture) (regions : List Subtexture) :
    regionsAt (live ++ regions.map fun region => ⟨region, UInt8.ofNat index⟩) other =
      regionsAt live other := by
  have none : (regions.map fun region => (⟨region, UInt8.ofNat index⟩ : BoundSubtexture)).filter
      (fun subtexture => decide (subtexture.binding.toNat = other)) = [] := by
    apply List.filter_eq_nil_iff.mpr
    intro subtexture mem
    rcases List.mem_map.mp mem with ⟨region, _, rfl⟩
    rw [decide_eq_true_iff, toNat_ofNat_binding index_lt]
    exact Ne.symm different
  rw [regionsAt, List.filter_append, none, List.append_nil]
  rfl

/-- Nothing lies in an atlas that is not there yet. -/
theorem regionsAt_eq_nil (bound : ∀ subtexture ∈ live, subtexture.binding.toNat < index) :
    regionsAt live index = [] := by
  rw [regionsAt, List.map_eq_nil_iff, List.filter_eq_nil_iff]
  intro subtexture mem
  rw [decide_eq_true_iff]
  exact Nat.ne_of_lt (bound subtexture mem)

theorem mem_regionsAt_iff {region : Subtexture} :
    region ∈ regionsAt live index ↔
      ∃ subtexture ∈ live, subtexture.binding.toNat = index ∧ subtexture.region = region := by
  simp only [regionsAt, List.mem_map, List.mem_filter, decide_eq_true_eq, and_assoc]

end Regions

section Storage

variable {use : GenerativeUse} {sizes : List (Vec2 UInt32)}

/-- How an atlas answers. -/
theorem Sound.answer (sound : use.Sound) (admissible : use.Admissible sizes) {index : Nat}
    {atlas : TextureAtlas} (atlasEq : use.atlas.atlases[index]? = some atlas) :
    (∃ reached regions, atlas.prepareStorageForAll sizes = some (reached, .ok regions) ∧
        TextureAtlas.SameFrame atlas reached ∧
        reached.Keeps (regionsAt use.live index ++ regions) ∧
        List.Forall₂ (fun size region => region.wh = atlas.fraction size) sizes regions ∧
        atlas.Takes sizes) ∨
      (∃ text, atlas.prepareStorageForAll sizes = some (atlas, .error text)) ∧
        ¬atlas.Takes sizes := by
  apply (sound.keeps index atlas atlasEq).prepareStorageForAll
  intro size mem
  apply (sound.sameFrame index atlas atlasEq).admits
  apply admissible size mem
  exact Nat.lt_of_lt_of_le (List.getElem?_eq_some_iff.mp atlasEq).1 sound.length_le

/-- What is handed out in an atlas that stays. -/
theorem Sound.replace (sound : use.Sound) {index : Nat} {atlas reached : TextureAtlas}
    {regions : List Subtexture} (atlasEq : use.atlas.atlases[index]? = some atlas)
    (same : TextureAtlas.SameFrame atlas reached)
    (keeps : reached.Keeps (regionsAt use.live index ++ regions)) :
    Sound ⟨{ use.atlas with atlases := use.atlas.atlases.set index reached },
      use.live ++ regions.map fun region => ⟨region, UInt8.ofNat index⟩⟩ := by
  have inside := (List.getElem?_eq_some_iff.mp atlasEq).1
  have index_lt := Nat.lt_of_lt_of_le inside sound.length_le
  have entry : ∀ other found, (use.atlas.atlases.set index reached)[other]? = some found →
      other = index ∧ found = reached ∨
        other ≠ index ∧ use.atlas.atlases[other]? = some found := by
    intro other found foundEq
    by_cases here : other = index
    · rw [here, List.getElem?_set_self inside] at foundEq
      exact Or.inl ⟨here, (Option.some.inj foundEq).symm⟩
    · rw [List.getElem?_set_ne (Ne.symm here)] at foundEq
      exact Or.inr ⟨here, foundEq⟩
  constructor
  · exact sound.made
  · rw [List.length_set]
    exact sound.length_le
  · intro other found foundEq
    rcases entry other found foundEq with ⟨rfl, rfl⟩ | ⟨different, before⟩
    · rw [regionsAt_append_same index_lt]
      exact keeps
    · rw [regionsAt_append_other index_lt different]
      exact sound.keeps other found before
  · intro other found foundEq
    rcases entry other found foundEq with ⟨rfl, rfl⟩ | ⟨different, before⟩
    · exact (sound.sameFrame other atlas atlasEq).trans same
    · exact sound.sameFrame other found before
  · intro subtexture mem
    rw [List.length_set]
    rcases List.mem_append.mp mem with before | added
    · exact sound.bound subtexture before
    · rcases List.mem_map.mp added with ⟨region, _, rfl⟩
      rw [toNat_ofNat_binding index_lt]
      exact inside

/-- What is handed out in a new atlas. -/
theorem Sound.add (sound : use.Sound) {made : TextureAtlas} {regions : List Subtexture}
    (room : use.atlas.atlases.length < 255)
    (same : TextureAtlas.SameFrame (use.atlas.constructor use.atlas.atlases.length) made)
    (keeps : made.Keeps regions) :
    Sound ⟨{ use.atlas with atlases := use.atlas.atlases ++ [made] },
      use.live ++ regions.map fun region => ⟨region, UInt8.ofNat use.atlas.atlases.length⟩⟩ := by
  have entry : ∀ other found, (use.atlas.atlases ++ [made])[other]? = some found →
      other = use.atlas.atlases.length ∧ found = made ∨
        other ≠ use.atlas.atlases.length ∧ use.atlas.atlases[other]? = some found := by
    intro other found foundEq
    rcases Nat.lt_or_ge other use.atlas.atlases.length with inside | outside
    · rw [List.getElem?_append_left inside] at foundEq
      exact Or.inr ⟨Nat.ne_of_lt inside, foundEq⟩
    · rw [List.getElem?_append_right outside, List.getElem?_singleton] at foundEq
      split at foundEq
      · rename_i last
        exact Or.inl ⟨Nat.le_antisymm (Nat.le_of_sub_eq_zero last) outside,
          (Option.some.inj foundEq).symm⟩
      · cases foundEq
  constructor
  · exact sound.made
  · rw [List.length_append, List.length_singleton]
    exact room
  · intro other found foundEq
    rcases entry other found foundEq with ⟨rfl, rfl⟩ | ⟨different, before⟩
    · rw [regionsAt_append_same room, regionsAt_eq_nil sound.bound, List.nil_append]
      exact keeps
    · rw [regionsAt_append_other room different]
      exact sound.keeps other found before
  · intro other found foundEq
    rcases entry other found foundEq with ⟨rfl, rfl⟩ | ⟨different, before⟩
    · exact same
    · exact sound.sameFrame other found before
  · intro subtexture mem
    rw [List.length_append, List.length_singleton]
    rcases List.mem_append.mp mem with before | added
    · exact Nat.lt_succ_of_lt (sound.bound subtexture before)
    · rcases List.mem_map.mp added with ⟨region, _, rfl⟩
      rw [toNat_ofNat_binding room]
      exact Nat.lt_succ_self _

/-- Storage for a group is handed out in one of the atlases. -/
structure HandsOut (use : GenerativeUse) (sizes : List (Vec2 UInt32)) (index : Nat)
    (atlases : List TextureAtlas) (regions : List Subtexture) : Prop where
  prepareEq : use.atlas.prepareStorageForAll sizes =
    some ({ use.atlas with atlases := atlases },
      .ok (regions.map fun region => ⟨region, UInt8.ofNat index⟩))
  index_lt : index < 255
  reached : ∃ atlas, atlases[index]? = some atlas ∧
    atlas.Keeps (regionsAt use.live index ++ regions) ∧
    List.Forall₂ (fun size region => region.wh = atlas.fraction size) sizes regions
  sound : Sound ⟨{ use.atlas with atlases := atlases },
    use.live ++ regions.map fun region => ⟨region, UInt8.ofNat index⟩⟩

/-- Storage for a group is refused, perhaps after an atlas was made. -/
structure TurnsDown (use : GenerativeUse) (sizes : List (Vec2 UInt32)) (text : String)
    (atlases : List TextureAtlas) : Prop where
  prepareEq : use.atlas.prepareStorageForAll sizes =
    some ({ use.atlas with atlases := atlases }, .error text)
  same_iff : atlases = use.atlas.atlases ↔ 255 ≤ use.atlas.atlases.length
  sound : Sound ⟨{ use.atlas with atlases := atlases }, use.live⟩

theorem fraction_of_sameFrame {before after : TextureAtlas}
    (same : TextureAtlas.SameFrame before after) : after.fraction = before.fraction := by
  funext size
  rw [TextureAtlas.fraction, TextureAtlas.fraction, same.1]

/-- How preparing storage for a group ends. -/
theorem Sound.prepareStorageForAll (sound : use.Sound) (admissible : use.Admissible sizes) :
    (use.atlas.Stores sizes ∧ ∃ index atlases regions, HandsOut use sizes index atlases regions) ∨
      (¬use.atlas.Stores sizes ∧ ∃ text atlases, TurnsDown use sizes text atlases) := by
  have answers : ∀ atlas ∈ use.atlas.atlases,
      (∃ next regions, atlas.prepareStorageForAll sizes = some (next, .ok regions)) ∨
        ∃ text, atlas.prepareStorageForAll sizes = some (atlas, .error text) := by
    intro atlas mem
    rcases List.mem_iff_getElem?.mp mem with ⟨index, atlasEq⟩
    rcases sound.answer admissible atlasEq with ⟨reached, regions, okEq, _⟩ | ⟨errorEq, _⟩
    · exact Or.inl ⟨reached, regions, okEq⟩
    · exact Or.inr errorEq
  rcases GenerativeAtlas.invokeEach_spec answers 0 with
    ⟨index, atlas, next, regions, atlasEq, okEq, eachEq⟩ | ⟨none, eachEq⟩
  · apply Or.inl
    rcases sound.answer admissible atlasEq with
      ⟨reached, found, foundEq, same, keeps, shapes, takes⟩ | ⟨⟨text, errorEq⟩, _⟩
    · cases okEq.symm.trans foundEq
      have inside := (List.getElem?_eq_some_iff.mp atlasEq).1
      refine ⟨Or.inl ⟨atlas, List.mem_of_getElem? atlasEq, takes⟩, index,
        use.atlas.atlases.set index next, regions, ?_,
        Nat.lt_of_lt_of_le inside sound.length_le, ⟨next, List.getElem?_set_self inside, keeps, ?_⟩,
        sound.replace atlasEq same keeps⟩
      · rw [GenerativeAtlas.prepareStorageForAll, GenerativeAtlas.invokeUntilSuccess, eachEq]
        simp only [Nat.zero_add]
      · rw [fraction_of_sameFrame same]
        exact shapes
    · cases okEq.symm.trans errorEq
  · have notTaken : ¬∃ existing ∈ use.atlas.atlases, existing.Takes sizes := by
      rintro ⟨existing, mem, takes⟩
      rcases List.mem_iff_getElem?.mp mem with ⟨index, existingEq⟩
      rcases sound.answer admissible existingEq with ⟨_, _, okEq, _⟩ | ⟨_, notTakes⟩
      · rcases none existing mem with ⟨text, errorEq⟩
        cases okEq.symm.trans errorEq
      · exact notTakes takes
    rcases Nat.lt_or_ge use.atlas.atlases.length 255 with room | full
    · have prepareEq : use.atlas.prepareStorageForAll sizes =
          ((use.atlas.constructor use.atlas.atlases.length).prepareStorageForAll sizes).map
            fun outcome => ({ use.atlas with atlases := use.atlas.atlases ++ [outcome.1] },
              outcome.2.map fun regions => regions.map fun region =>
                ⟨region, UInt8.ofNat use.atlas.atlases.length⟩) := by
        rw [GenerativeAtlas.prepareStorageForAll, GenerativeAtlas.invokeUntilSuccess, eachEq]
        simp only [if_neg (Nat.not_le_of_lt room), GenerativeAtlas.prepareGroup, Option.map_map]
        rfl
      have admits : ∀ size ∈ sizes,
          (use.atlas.constructor use.atlas.atlases.length).Admits size :=
        fun size mem => admissible size mem _ room
      rcases (sound.made use.atlas.atlases.length).prepareStorageForAll admits with
        ⟨made, regions, okEq, same, keeps, shapes, takes⟩ | ⟨⟨text, errorEq⟩, notTakes⟩
      · rw [List.nil_append] at keeps
        refine Or.inl ⟨Or.inr ⟨room, takes⟩, use.atlas.atlases.length,
          use.atlas.atlases ++ [made], regions, ?_, room, ⟨made, ?_, ?_, ?_⟩,
          sound.add room same keeps⟩
        · rw [prepareEq, okEq]
          rfl
        · exact List.getElem?_concat_length
        · rwa [regionsAt_eq_nil sound.bound, List.nil_append]
        · rw [fraction_of_sameFrame same]
          exact shapes
      · have added := sound.add room (TextureAtlas.SameFrame.refl _)
          (sound.made use.atlas.atlases.length)
        rw [List.map_nil, List.append_nil] at added
        refine Or.inr ⟨?_, text, use.atlas.atlases ++
          [use.atlas.constructor use.atlas.atlases.length], ?_, ?_, added⟩
        · rintro (existing | ⟨_, takes⟩)
          · exact notTaken existing
          · exact notTakes takes
        · rw [prepareEq, errorEq]
          rfl
        · apply iff_of_false
          · intro same
            have lengths := congrArg List.length same
            rw [List.length_append, List.length_singleton] at lengths
            omega
          · exact Nat.not_le_of_lt room
    · have refusedEq : ∃ text, use.atlas.prepareStorageForAll sizes =
          some (use.atlas, .error text) := by
        rw [GenerativeAtlas.prepareStorageForAll, GenerativeAtlas.invokeUntilSuccess, eachEq]
        simp only [if_pos full]
        exact ⟨_, rfl⟩
      rcases refusedEq with ⟨text, refusedEq⟩
      refine Or.inr ⟨?_, text, use.atlas.atlases, refusedEq, iff_of_true rfl full, sound⟩
      rintro (existing | ⟨room, _⟩)
      · exact notTaken existing
      · exact absurd room (Nat.not_lt_of_le full)

/-! ## Runs -/

/-- A call for one size is a call for a group. -/
theorem step_eq_map (use : GenerativeUse) (call : GenerativeCall) :
    step use call = (use.atlas.prepareStorageForAll call.sizes).map use.handOut := by
  cases call with
  | prepareAll sizes => rfl
  | prepare size =>
      rw [step, GenerativeCall.sizes, GenerativeAtlas.prepareStorageForAll_singleton,
        Option.map_map]
      rfl

/-- A call keeps what holds. -/
theorem Sound.step {call : GenerativeCall} (sound : use.Sound)
    (admissible : use.Admissible call.sizes) :
    ∃ next, GenerativeUse.step use call = some next ∧ next.Sound := by
  rw [step_eq_map]
  rcases sound.prepareStorageForAll admissible with
    ⟨_, index, atlases, regions, handsOut⟩ | ⟨_, text, atlases, turnsDown⟩
  · rw [handsOut.prepareEq]
    exact ⟨_, rfl, handsOut.sound⟩
  · rw [turnsDown.prepareEq]
    exact ⟨_, rfl, turnsDown.sound⟩

end Storage

theorem sound_create {constructor : Nat → TextureAtlas}
    (created : ∀ index, ∃ size alignment,
      TextureAtlas.create size alignment = some (constructor index)) :
    Sound ⟨GenerativeAtlas.create constructor, []⟩ := by
  have made : ∀ index, (constructor index).Keeps [] := by
    intro index
    rcases created index with ⟨size, alignment, createEq⟩
    exact ⟨AtlasUse.sound_create createEq, fun _ mem => by cases mem⟩
  have only : ∀ (index : Nat) (atlas : TextureAtlas), [constructor 0][index]? = some atlas →
      index = 0 ∧ atlas = constructor 0 := by
    intro index atlas atlasEq
    rw [List.getElem?_singleton] at atlasEq
    split at atlasEq
    · rename_i first
      exact ⟨first, (Option.some.inj atlasEq).symm⟩
    · cases atlasEq
  constructor
  · exact made
  · exact (by decide : 1 ≤ 255)
  · intro index atlas atlasEq
    rcases only index atlas atlasEq with ⟨rfl, rfl⟩
    exact made 0
  · intro index atlas atlasEq
    rcases only index atlas atlasEq with ⟨rfl, rfl⟩
    exact TextureAtlas.SameFrame.refl _
  · intro subtexture mem
    cases mem

instance (atlas : TextureAtlas) (size : Vec2 UInt32) : Decidable (atlas.Admits size) :=
  decidable_of_iff
    ((size.x.toNat ≤ atlas.atlasSize.x.toNat ∧ size.y.toNat ≤ atlas.atlasSize.y.toNat) ∧
      size.x.toNat + atlas.atlasAlignment.toNat ≤ UInt32.size ∧
      size.y.toNat + atlas.atlasAlignment.toNat ≤ UInt32.size)
    ⟨fun ⟨le, rounding⟩ => ⟨le.1, le.2, rounding.1, rounding.2⟩,
      fun admits => ⟨⟨admits.le_x, admits.le_y⟩, admits.rounding_x, admits.rounding_y⟩⟩

instance (use : GenerativeUse) (sizes : List (Vec2 UInt32)) : Decidable (use.Admissible sizes) :=
  inferInstanceAs (Decidable (∀ size ∈ sizes, ∀ index < 255,
    (use.atlas.constructor index).Admits size))

end GenerativeUse

end VoxelEngine.Graphics
