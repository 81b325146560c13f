import Telemetry.Text.Blank

/-! Pieces in which a separator does not occur are found again when they are written one after the
other with the separator in between. -/

namespace Telemetry.Text

variable {α : Type} {separator : α}

theorem mem_intercalate {item : α} {pieces : List (List α)}
    (among : item ∈ List.intercalate [separator] pieces) :
    item = separator ∨ ∃ piece ∈ pieces, item ∈ piece := by
  induction pieces with
  | nil => cases among
  | cons piece others inductionHypothesis =>
      cases others with
      | nil =>
          rw [List.intercalate_singleton] at among
          exact .inr ⟨piece, List.mem_cons_self, among⟩
      | cons next rest =>
          rw [List.intercalate_cons_cons, List.mem_append, List.mem_append,
            List.mem_singleton] at among
          rcases among with (first | between) | later
          · exact .inr ⟨piece, List.mem_cons_self, first⟩
          · exact .inl between
          · rcases inductionHypothesis later with same | ⟨other, present, inside⟩
            · exact .inl same
            · exact .inr ⟨other, List.mem_cons_of_mem _ present, inside⟩

variable [DecidableEq α]

theorem splitFirst?_append {before after : List α} (absent : separator ∉ before) :
    splitFirst? separator (before ++ separator :: after) = some (before, after) := by
  induction before with
  | nil => rw [List.nil_append, splitFirst?, if_pos rfl]
  | cons item rest inductionHypothesis =>
      rw [List.mem_cons, not_or] at absent
      rw [List.cons_append, splitFirst?, if_neg (Ne.symm absent.1), inductionHypothesis absent.2,
        Option.map_some]

theorem splitFirst?_eq_some {items before after : List α}
    (split : splitFirst? separator items = some (before, after)) :
    items = before ++ separator :: after := by
  induction items generalizing before with
  | nil => cases split
  | cons item rest ih =>
      rw [splitFirst?] at split
      by_cases here : item = separator
      · rw [if_pos here] at split
        cases split
        rw [here]
        rfl
      · rw [if_neg here] at split
        obtain ⟨parts, later, same⟩ := Option.map_eq_some_iff.mp split
        obtain ⟨first, last⟩ := parts
        cases same
        rw [ih later]
        rfl

theorem splitAll_absent {piece : List α} (absent : separator ∉ piece) :
    splitAll separator piece = [piece] := by
  induction piece with
  | nil => rfl
  | cons item rest inductionHypothesis =>
      rw [List.mem_cons, not_or] at absent
      rw [splitAll, if_neg (Ne.symm absent.1), inductionHypothesis absent.2]

theorem splitAll_append {piece rest : List α} (absent : separator ∉ piece) :
    splitAll separator (piece ++ separator :: rest) = piece :: splitAll separator rest := by
  induction piece with
  | nil => rw [List.nil_append, splitAll, if_pos rfl]
  | cons item others inductionHypothesis =>
      rw [List.mem_cons, not_or] at absent
      rw [List.cons_append, splitAll, if_neg (Ne.symm absent.1), inductionHypothesis absent.2]

theorem splitAll_ne_nil (items : List α) : splitAll separator items ≠ [] := by
  cases items with
  | nil => exact List.cons_ne_nil _ _
  | cons item rest =>
      rw [splitAll]
      split
      · exact List.cons_ne_nil _ _
      · split
        · exact List.cons_ne_nil _ _
        · exact List.cons_ne_nil _ _

theorem splitAll_parts (before after : List α) :
    splitAll separator (before ++ separator :: after) =
      splitAll separator before ++ splitAll separator after := by
  induction before with
  | nil => exact if_pos rfl
  | cons item rest inductionHypothesis =>
      rw [List.cons_append, splitAll, splitAll, inductionHypothesis]
      by_cases here : item = separator
      · rw [if_pos here, if_pos here, List.cons_append]
      · rw [if_neg here, if_neg here]
        cases first : splitAll separator rest with
        | nil => exact absurd first (splitAll_ne_nil rest)
        | cons piece pieces => rfl

theorem splitAll_intercalate {pieces : List (List α)} (nonempty : pieces ≠ [])
    (absent : ∀ piece ∈ pieces, separator ∉ piece) :
    splitAll separator (List.intercalate [separator] pieces) = pieces := by
  induction pieces with
  | nil => exact absurd rfl nonempty
  | cons piece others inductionHypothesis =>
      rw [List.forall_mem_cons] at absent
      cases others with
      | nil => rw [List.intercalate_singleton, splitAll_absent absent.1]
      | cons next rest =>
          rw [List.intercalate_cons_cons, List.append_assoc, List.singleton_append,
            splitAll_append absent.1, inductionHypothesis (List.cons_ne_nil next rest) absent.2]

end Telemetry.Text
