import Mathlib.Data.List.Induction

/-!
# Layers of values

A stack of layers gives values to keys.  A layer may leave a key alone, or combine a value of its
own with the one that the layers below give.  A label says which layer was the last to do so.
-/

namespace VoxelEngine.Data

universe u v w

/-- What a layer does with a key. -/
structure LayerEntry (ν : Type u) (ε : Type v) where
  value : ν
  combine : ν → ν → ν
  label : ε

variable {κ : Type w} {ν : Type u} {ε : Type v}

/-- The value and label over what the layers below give. -/
def LayerEntry.over (entry : LayerEntry ν ε) (below : Option (ν × ε)) : ν × ε :=
  (match below with
    | none => entry.value
    | some (old, _) => entry.combine old entry.value,
    entry.label)

/-- What one more layer makes of a value. -/
def addLayer (entry : Option (LayerEntry ν ε)) (below : Option (ν × ε)) : Option (ν × ε) :=
  match entry with
  | none => below
  | some entry => some (entry.over below)

/-- What a stack of layers gives to a key, from the bottom to the top. -/
def resolve (layers : List (κ → Option (LayerEntry ν ε))) (key : κ) : Option (ν × ε) :=
  layers.foldl (fun below layer => addLayer (layer key) below) none

variable {layers lower upper : List (κ → Option (LayerEntry ν ε))}
  {layer : κ → Option (LayerEntry ν ε)} {key : κ} {entry : LayerEntry ν ε}

@[simp]
theorem resolve_nil (key : κ) : resolve ([] : List (κ → Option (LayerEntry ν ε))) key = none :=
  rfl

@[simp]
theorem resolve_append_singleton (layers : List (κ → Option (LayerEntry ν ε)))
    (layer : κ → Option (LayerEntry ν ε)) (key : κ) :
    resolve (layers ++ [layer]) key = addLayer (layer key) (resolve layers key) := by
  rw [resolve, List.foldl_append]
  rfl

end VoxelEngine.Data
