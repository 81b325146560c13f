import Telemetry.Text.Blank

/-! The ends of a text. A word is found at the start just when the text is the word with something
behind it. What is trimmed from the end is exactly what ought to go: the rest ends in something else,
and a text that does so already is left alone. -/

namespace Telemetry.Text

variable {word characters rest : List Char}

theorem dropStart?_append (word rest : List Char) : dropStart? word (word ++ rest) = some rest := by
  induction word with
  | nil => rfl
  | cons expected more ih => rw [List.cons_append, dropStart?, if_pos rfl, ih]

theorem eq_append_of_dropStart? (found : dropStart? word characters = some rest) :
    characters = word ++ rest := by
  induction word generalizing characters with
  | nil => exact Option.some.inj found
  | cons expected more ih =>
      cases characters with
      | nil => cases found
      | cons character others =>
          rw [dropStart?] at found
          by_cases same : expected = character
          · rw [if_pos same] at found
            rw [same, ih found, List.cons_append]
          · rw [if_neg same] at found
            cases found

variable {α : Type} {test : α → Bool} {items : List α}

theorem getLast_dropEndWhile {last : α}
    (ends : (dropEndWhile test items).getLast? = some last) : test last = false := by
  unfold dropEndWhile at ends
  rw [List.getLast?_reverse] at ends
  have stopped := List.head?_dropWhile_not test items.reverse
  rw [ends] at stopped
  exact stopped

theorem dropEndWhile_eq_self (stays : ∀ last, items.getLast? = some last → test last = false) :
    dropEndWhile test items = items := by
  unfold dropEndWhile
  rw [← List.head?_reverse] at stays
  cases reversed : items.reverse with
  | nil => exact (List.reverse_eq_nil_iff.mp reversed).symm
  | cons last front =>
      rw [reversed] at stays
      rw [List.dropWhile_cons_of_neg (by rw [stays last rfl]; exact Bool.false_ne_true),
        ← reversed, List.reverse_reverse]

theorem dropEndWhile_append (test : α → Bool) (items : List α) :
    ∃ dropped, items = dropEndWhile test items ++ dropped ∧
      ∀ item ∈ dropped, test item = true := by
  refine ⟨(items.reverse.takeWhile test).reverse, ?_, ?_⟩
  · rw [dropEndWhile, ← List.reverse_append, List.takeWhile_append_dropWhile,
      List.reverse_reverse]
  · intro item member
    exact List.all_eq_true.mp List.all_takeWhile item (List.mem_reverse.mp member)

variable {character : Char} {text : String}

theorem trim_eq_empty : trim text = "" ↔ IsBlankText text := by
  have left : trim text = "" ↔ dropEndWhile isBlank (text.toList.dropWhile isBlank) = [] := by
    unfold trim
    rw [← String.toList_inj, String.toList_ofList]
    rfl
  rw [left]
  constructor
  · intro nothing character among
    obtain ⟨dropped, same, blank⟩ :=
      dropEndWhile_append isBlank (text.toList.dropWhile isBlank)
    rw [nothing, List.nil_append] at same
    rw [← List.takeWhile_append_dropWhile (p := isBlank) (l := text.toList),
      List.mem_append] at among
    rcases among with first | later
    · exact List.all_eq_true.mp List.all_takeWhile character first
    · exact blank character (same ▸ later)
  · intro blank
    rw [← List.append_nil text.toList, List.dropWhile_append_of_pos blank]
    rfl

theorem trimEndOf_ends (character : Char) (text : String) :
    (trimEndOf character text).toList.getLast? ≠ some character := by
  intro ends
  unfold trimEndOf at ends
  rw [String.toList_ofList] at ends
  have other := getLast_dropEndWhile ends
  rw [beq_self_eq_true] at other
  cases other

theorem trimEndOf_eq_self (other : text.toList.getLast? ≠ some character) :
    trimEndOf character text = text := by
  unfold trimEndOf
  rw [dropEndWhile_eq_self, String.ofList_toList]
  intro last ends
  apply Bool.eq_false_iff.mpr
  intro same
  rw [beq_iff_eq] at same
  exact other (same ▸ ends)

end Telemetry.Text
