/-!
Sums over what is still to be done.

Everything on an agenda is weighed; an agenda on which the weights only fall comes to its end.
-/

namespace Telemetry

def total {α : Type} (measure : α → Nat) (items : List α) : Nat :=
  items.foldr (fun item sum => measure item + sum) 0

@[simp] theorem total_nil {α : Type} (measure : α → Nat) : total measure [] = 0 := rfl

@[simp] theorem total_cons {α : Type} (measure : α → Nat) (item : α) (items : List α) :
    total measure (item :: items) = measure item + total measure items := rfl

@[simp] theorem total_append {α : Type} (measure : α → Nat) (first second : List α) :
    total measure (first ++ second) = total measure first + total measure second := by
  induction first with
  | nil => simp
  | cons item rest ih =>
      simp only [List.cons_append, total_cons, ih]
      omega

theorem total_set {α : Type} (measure : α → Nat) (items : List α) (index : Nat) (item old : α)
    (found : items[index]? = some old) :
    total measure (items.set index item) + measure old = total measure items + measure item := by
  induction items generalizing index with
  | nil => simp at found
  | cons first rest ih =>
      cases index with
      | zero =>
          simp only [List.getElem?_cons_zero, Option.some.injEq] at found
          subst found
          simp only [List.set_cons_zero, total_cons]
          omega
      | succ index =>
          simp only [List.getElem?_cons_succ] at found
          have := ih index found
          simp only [List.set_cons_succ, total_cons]
          omega

/-- What is left of an agenda: every step may still call everyone who may ever be called. -/
def agendaWeight (steps cost reach : Nat) : Nat := cost + steps * (2 * reach + 5)

theorem agendaWeight_falls {steps cost reach fewer dearer nearer : Nat}
    (steps_le : fewer ≤ steps) (reach_le : nearer ≤ reach)
    (pays : fewer < steps ∧ dearer ≤ cost + 2 * reach + 4 ∨ dearer < cost) :
    agendaWeight fewer dearer nearer < agendaWeight steps cost reach := by
  unfold agendaWeight
  have bound : fewer * (2 * nearer + 5) ≤ fewer * (2 * reach + 5) :=
    Nat.mul_le_mul_left _ (by omega)
  rcases pays with ⟨less, dear⟩ | cheaper
  · have whole : (fewer + 1) * (2 * reach + 5) ≤ steps * (2 * reach + 5) :=
      Nat.mul_le_mul_right _ less
    rw [Nat.succ_mul] at whole
    omega
  · have whole : fewer * (2 * reach + 5) ≤ steps * (2 * reach + 5) :=
      Nat.mul_le_mul_right _ steps_le
    omega

end Telemetry
