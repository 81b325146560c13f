import Telemetry.Proofs.Settings.Variables
import Telemetry.Settings.Source

/-! Merging layers. A layer is determined by the values of its fields and by the sections that it has,
and merging treats each of them for itself: so the grouping of layers does not matter, a layer
without sections changes nothing, and a layer that has been merged is not noticed when it comes
again at once. -/

namespace Telemetry

namespace Layer

/-- A section is there after a merge if one of the layers has it, even one that sets nothing. -/
theorem has_merge (earlier later : Layer) (part : Part) :
    (earlier.merge later).has part = (later.has part || earlier.has part) := by
  have sections {σ : Type} (merge : σ → σ → σ) (first second : Option σ) :
      (mergeSection merge first second).isSome = (second.isSome || first.isSome) := by
    cases first <;> cases second <;> rfl
  cases part with
  | identity => exact sections IdentityLayer.merge _ _
  | delivery => exact sections DeliveryLayer.merge _ _

theorem has_empty (part : Part) : Layer.empty.has part = false := by
  cases part <;> rfl

/-- Two merges come to the same if they do so in every field and in every section. -/
theorem merge_congr {first second third fourth : Layer}
    (fields : ∀ {α : Type} (field : Field α),
      (second.get field).or (first.get field) = (fourth.get field).or (third.get field))
    (parts : ∀ part, (second.has part || first.has part) = (fourth.has part || third.has part)) :
    first.merge second = third.merge fourth := by
  apply ext_get
  · intro α field
    rw [get_merge, get_merge]
    exact fields field
  · intro part
    rw [has_merge, has_merge]
    exact parts part

theorem merge_assoc (first second third : Layer) :
    (first.merge second).merge third = first.merge (second.merge third) := by
  apply merge_congr
  · intro α field
    rw [get_merge, get_merge, Option.or_assoc]
  · intro part
    rw [has_merge, has_merge, Bool.or_assoc]

theorem merge_empty (layer : Layer) : layer.merge .empty = layer := by
  apply ext_get
  · intro α field
    rw [get_merge, get_empty, Option.none_or]
  · intro part
    rw [has_merge, has_empty, Bool.false_or]

theorem empty_merge (layer : Layer) : Layer.empty.merge layer = layer := by
  apply ext_get
  · intro α field
    rw [get_merge, get_empty, Option.or_none]
  · intro part
    rw [has_merge, has_empty, Bool.or_false]

theorem merge_self (layer : Layer) : layer.merge layer = layer := by
  apply ext_get
  · intro α field
    rw [get_merge, Option.or_self]
  · intro part
    rw [has_merge, Bool.or_self]

/-- Layers are a monoid under merging, and merging the same layer twice in a row is merging it
once. -/
theorem merge_laws (first second third : Layer) :
    (first.merge second).merge third = first.merge (second.merge third) ∧
      first.merge .empty = first ∧ Layer.empty.merge first = first ∧
      (first.merge second).merge second = first.merge second := by
  refine ⟨merge_assoc first second third, merge_empty first, empty_merge first, ?_⟩
  rw [merge_assoc, merge_self]

example : Layer.merge {} { identity := some {} } ≠ {} := by
  decide

end Layer

end Telemetry
