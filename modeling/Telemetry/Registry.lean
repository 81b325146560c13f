/-!
Numbered registrations.

Everything that is registered gets a number of its own, in ascending order.  Numbers are never
used again, also when a registration has been taken back.
-/

namespace Telemetry

structure Registry (α : Type) where
  next : Nat
  entries : List (Nat × α)
  /-- Only numbers that were given out are in use. -/
  below : ∀ entry ∈ entries, entry.1 < next
  ordered : entries.Pairwise fun earlier later => earlier.1 < later.1

namespace Registry

variable {α : Type}

def empty : Registry α where
  next := 0
  entries := []
  below := fun _ member => absurd member List.not_mem_nil
  ordered := .nil

instance : Inhabited (Registry α) := ⟨empty⟩

def add (registry : Registry α) (item : α) : Registry α where
  next := registry.next + 1
  entries := registry.entries ++ [(registry.next, item)]
  below := by
    intro entry member
    rcases List.mem_append.mp member with old | new
    · exact Nat.lt_succ_of_lt (registry.below entry old)
    · simp only [List.mem_singleton] at new
      simp [new]
  ordered := by
    refine List.pairwise_append.mpr ⟨registry.ordered, by simp, ?_⟩
    intro earlier member later last
    simp only [List.mem_singleton] at last
    simpa [last] using registry.below earlier member

def remove (registry : Registry α) (number : Nat) : Registry α where
  next := registry.next
  entries := registry.entries.filter fun entry => entry.1 != number
  below := fun entry member => registry.below entry (List.mem_filter.mp member).1
  ordered := registry.ordered.filter _

def holds (registry : Registry α) (number : Nat) : Bool :=
  registry.entries.any fun entry => entry.1 == number

def items (registry : Registry α) : List α := registry.entries.map (·.2)

def size (registry : Registry α) : Nat := registry.entries.length

end Registry

end Telemetry
