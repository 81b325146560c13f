import Mathlib.Data.List.Nodup
import Telemetry.Registry

/-! One registrant among others. It is registered under the number that it was given and under no
other, and what it does leaves the registrations of all others in their places. -/

namespace Telemetry.Registry

variable {α : Type} {registry : Registry α} {own item : α} {number : Nat} {held : Option Nat}

/-- The registrations of one registrant are the one under the given number, or none. -/
def Enrolled (registry : Registry α) (own : α) (held : Option Nat) : Prop :=
  ∀ number, (number, own) ∈ registry.entries ↔ held = some number

theorem Enrolled.below (enrolled : registry.Enrolled own held) (known : held = some number) :
    number < registry.next :=
  registry.below _ ((enrolled number).mpr known)

theorem Enrolled.add_own (enrolled : registry.Enrolled own none) :
    (registry.add own).Enrolled own (some registry.next) := by
  intro number
  have nobody := enrolled number
  simp only [reduceCtorEq, iff_false] at nobody
  simp only [add, List.mem_append, nobody, List.mem_singleton, Prod.mk.injEq, and_true, false_or,
    Option.some.injEq]
  exact eq_comm

theorem Enrolled.remove_own (enrolled : registry.Enrolled own (some number)) :
    (registry.remove number).Enrolled own none := by
  intro other
  simp only [remove, List.mem_filter, enrolled other, Option.some.injEq, bne_iff_ne, ne_eq,
    reduceCtorEq, iff_false, not_and]
  intro same apart
  exact apart same.symm

theorem Enrolled.add_other (enrolled : registry.Enrolled own held) (other : item ≠ own) :
    (registry.add item).Enrolled own held := by
  intro number
  rw [← enrolled number]
  simp [add, other.symm]

theorem Enrolled.remove_other (enrolled : registry.Enrolled own held)
    (apart : held ≠ some number) : (registry.remove number).Enrolled own held := by
  intro other
  rw [← enrolled other]
  simp only [remove, List.mem_filter, bne_iff_ne, ne_eq, and_iff_left_iff_imp]
  intro member same
  exact apart (same ▸ (enrolled other).mp member)

theorem eq_of_number {first second : Nat × α} (one : first ∈ registry.entries)
    (other : second ∈ registry.entries) (same : first.1 = second.1) : first = second := by
  have distinct : (registry.entries.map (·.1)).Nodup :=
    List.pairwise_map.mpr (registry.ordered.imp Nat.ne_of_lt)
  exact List.inj_on_of_nodup_map distinct one other same

def remaining (given : List (Nat × α)) (gone : List Nat) : List (Nat × α) :=
  given.filter fun entry => entry.1 ∉ gone

/-- The registry holds what was registered and not taken back, and no number was given twice. -/
structure Recalls (registry : Registry α) (given : List (Nat × α)) (gone : List Nat) : Prop where
  entries : registry.entries = remaining given gone
  distinct : (given.map (·.1)).Nodup
  given : ∀ number ∈ given.map (·.1), number < registry.next
  gone : ∀ number ∈ gone, number < registry.next

theorem recalls_empty : (empty : Registry α).Recalls [] [] :=
  ⟨rfl, .nil, List.forall_mem_nil _, List.forall_mem_nil _⟩

variable {given : List (Nat × α)} {gone : List Nat}

theorem Recalls.add (recalls : registry.Recalls given gone) (item : α) :
    (registry.add item).Recalls (given ++ [(registry.next, item)]) gone := by
  constructor
  · have unused : registry.next ∉ gone := fun member => Nat.lt_irrefl _ (recalls.gone _ member)
    have kept := recalls.entries
    unfold remaining at kept
    simp [Registry.add, remaining, List.filter_append, unused, kept]
  · rw [List.map_append, List.nodup_append]
    refine ⟨recalls.distinct, by simp, ?_⟩
    intro number old other new
    cases List.mem_singleton.mp new
    exact Nat.ne_of_lt (recalls.given number old)
  · intro number member
    rw [List.map_append] at member
    rcases List.mem_append.mp member with old | new
    · exact Nat.lt_succ_of_lt (recalls.given number old)
    · cases List.mem_singleton.mp new
      exact Nat.lt_succ_self registry.next
  · exact fun number member => Nat.lt_succ_of_lt (recalls.gone number member)

theorem Recalls.remove (recalls : registry.Recalls given gone)
    (known : number ∈ given.map (·.1)) :
    (registry.remove number).Recalls given (gone ++ [number]) := by
  constructor
  · have kept := recalls.entries
    unfold remaining at kept
    simp only [Registry.remove, remaining, kept, List.filter_filter]
    apply List.filter_congr
    intro entry _
    by_cases same : entry.1 = number <;> simp [same]
  · exact recalls.distinct
  · exact recalls.given
  · intro other member
    rcases List.mem_append.mp member with old | new
    · exact recalls.gone other old
    · cases List.mem_singleton.mp new
      exact recalls.given number known

theorem Recalls.holds (recalls : registry.Recalls given gone) (number : Nat) :
    registry.holds number = decide (number ∈ (remaining given gone).map (·.1)) := by
  rw [← recalls.entries, Bool.eq_iff_iff]
  simp [Registry.holds]

variable [DecidableEq α]

/-- The registrant is registered once, which is under the number, or without a number not at all. -/
def ListsOnce (registry : Registry α) (own : α) : Option Nat → Prop
  | none => registry.items.count own = 0
  | some number => registry.items.count own = 1 ∧ (number, own) ∈ registry.entries

theorem Enrolled.count (enrolled : registry.Enrolled own (some number)) :
    registry.items.count own = 1 := by
  have once : registry.entries.Nodup :=
    registry.ordered.imp fun earlier same => Nat.ne_of_lt earlier (congrArg _ same)
  have member := (enrolled number).mpr rfl
  rw [← List.count_eq_one_of_mem once member]
  unfold items List.count
  rw [List.countP_map]
  apply List.countP_congr
  intro entry there
  obtain ⟨other, listed⟩ := entry
  simp only [Function.comp_apply, beq_iff_eq, Prod.mk.injEq]
  constructor
  · rintro rfl
    exact ⟨(Option.some.inj ((enrolled other).mp there)).symm, rfl⟩
  · exact And.right

theorem Enrolled.listsOnce (enrolled : registry.Enrolled own held) :
    registry.ListsOnce own held := by
  cases held with
  | none =>
      refine List.count_eq_zero.mpr fun member => ?_
      obtain ⟨⟨number, listed⟩, there, rfl⟩ := List.mem_map.mp member
      cases (enrolled number).mp there
  | some number => exact ⟨enrolled.count, (enrolled number).mpr rfl⟩

theorem ListsOnce.count_le (lists : registry.ListsOnce own held) :
    registry.items.count own ≤ 1 := by
  cases held with
  | none => exact le_of_eq_of_le lists (Nat.zero_le 1)
  | some number => exact Nat.le_of_eq lists.1

theorem ListsOnce.mem_iff (lists : registry.ListsOnce own held) :
    own ∈ registry.items ↔ held ≠ none := by
  rw [← List.count_pos_iff]
  cases held with
  | none => simp [show registry.items.count own = 0 from lists]
  | some number => simp [lists.1]

def others (registry : Registry α) (own : α) : List (Nat × α) :=
  registry.entries.filter fun entry => entry.2 ≠ own

theorem others_add_own : (registry.add own).others own = registry.others own := by
  simp [others, add]

theorem others_add_other (other : item ≠ own) :
    (registry.add item).others own = registry.others own ++ [(registry.next, item)] := by
  simp [others, add, other]

theorem others_remove (number : Nat) : (registry.remove number).others own =
    (registry.others own).filter fun entry => entry.1 ∉ [number] := by
  simp only [others, remove, List.filter_filter]
  apply List.filter_congr
  intro entry _
  simp [bne, Bool.and_comm, Bool.beq_eq_decide_eq]

theorem Enrolled.others_remove_own (enrolled : registry.Enrolled own (some number)) :
    (registry.remove number).others own = registry.others own := by
  rw [others_remove, List.filter_eq_self]
  intro entry member
  obtain ⟨there, other⟩ := List.mem_filter.mp member
  have apart : entry.1 ≠ number := by
    intro same
    have equal := eq_of_number there ((enrolled number).mpr rfl) same
    rw [equal] at other
    simp at other
  simp [apart]

/-- The others keep their places: of those who were there only the given numbers go, and whoever
comes stands behind all who were there. -/
structure Rearranged (own : α) (gone : List Nat) (before after : Registry α) : Prop where
  next : before.next ≤ after.next
  others : ∃ newcomers,
    after.others own = ((before.others own).filter fun entry => entry.1 ∉ gone) ++ newcomers ∧
      ∀ entry ∈ newcomers, before.next ≤ entry.1

variable {before between after : Registry α} {gone left : List Nat}

theorem Rearranged.of_others (next : before.next ≤ after.next)
    (same : after.others own = before.others own) : Rearranged own [] before after := by
  refine ⟨next, [], ?_, List.forall_mem_nil _⟩
  simp [same]

theorem Rearranged.trans (first : Rearranged own gone before between)
    (second : Rearranged own left between after) :
    Rearranged own (gone ++ left) before after := by
  obtain ⟨early, here, behind⟩ := first.others
  obtain ⟨late, there, beyond⟩ := second.others
  refine ⟨Nat.le_trans first.next second.next,
    (early.filter fun entry => entry.1 ∉ left) ++ late, ?_, ?_⟩
  · rw [there, here, List.filter_append, List.filter_filter, List.append_assoc]
    congr 1
    apply List.filter_congr
    intro entry _
    simp [Bool.and_comm]
  · intro entry member
    rcases List.mem_append.mp member with old | new
    · exact behind entry (List.mem_filter.mp old).1
    · exact Nat.le_trans first.next (beyond entry new)

theorem rearranged_add (other : item ≠ own) : Rearranged own [] registry (registry.add item) := by
  refine ⟨Nat.le_succ _, [(registry.next, item)], ?_, ?_⟩
  · simp [others_add_other other]
  · intro entry member
    cases List.mem_singleton.mp member
    exact Nat.le_refl registry.next

theorem rearranged_remove (number : Nat) :
    Rearranged own [number] registry (registry.remove number) := by
  refine ⟨Nat.le_refl _, [], ?_, List.forall_mem_nil _⟩
  rw [others_remove, List.append_nil]

end Telemetry.Registry
