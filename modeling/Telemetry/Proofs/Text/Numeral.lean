import Telemetry.Text.Digits

/-! How truth values and words are written. A word is written with ASCII digits, which may have a
plus sign before and zeros in front, and it is less than two to the power of sixty-four. -/

namespace Telemetry.Text

open Telemetry.Number

variable {written : String}

def IsFlag (written : String) (value : Bool) : Prop :=
  written = if value then "true" else "false"

def IsWord (written : String) (value : Nat) : Prop :=
  value < wordLimit ∧ ∃ digits : List Char, digits ≠ [] ∧
    (∀ digit ∈ digits, digit.isDigit = true) ∧ Nat.ofDigitChars 10 digits 0 = value ∧
    (written.toList = digits ∨ written.toList = '+' :: digits)

theorem readBool?_eq_some {value : Bool} : readBool? written = some value ↔ IsFlag written value := by
  unfold readBool? IsFlag
  by_cases yes : written = "true"
  · rw [if_pos yes, yes]
    cases value with
    | true => exact iff_of_true rfl rfl
    | false => exact iff_of_false (by decide) (by decide)
  · rw [if_neg yes]
    by_cases no : written = "false"
    · rw [if_pos no, no]
      cases value with
      | true => exact iff_of_false (by decide) (by decide)
      | false => exact iff_of_true rfl rfl
    · rw [if_neg no]
      cases value with
      | true => exact iff_of_false (Option.some_ne_none _).symm yes
      | false => exact iff_of_false (Option.some_ne_none _).symm no

theorem foldl_decimalValue (digits : List Char) (start : Nat) :
    digits.foldl (fun value digit => value * 10 + decimalValue digit) start =
      Nat.ofDigitChars 10 digits start := by
  induction digits generalizing start with
  | nil => rfl
  | cons digit rest ih =>
      rw [List.foldl_cons, Nat.ofDigitChars_cons, ih, Nat.mul_comm start 10]
      rfl

theorem decimalNumber_eq (digits : List Char) :
    decimalNumber digits = Nat.ofDigitChars 10 digits 0 := foldl_decimalValue digits 0

theorem toList_toString_ofNat (size : Nat) :
    (toString (Int.ofNat size)).toList = Nat.toDigits 10 size := Nat.toList_repr

theorem toList_toString_negSucc (size : Nat) :
    (toString (Int.negSucc size)).toList = '-' :: Nat.toDigits 10 (size + 1) := by
  show ("-" ++ Nat.repr (size + 1)).toList = _
  rw [String.toList_append, Nat.toList_repr]
  rfl

/-- The digits of a text are what is left of it without a plus sign in front. -/
def unsigned : List Char → List Char
  | '+' :: rest => rest
  | characters => characters

theorem unsigned_eq {characters digits : List Char}
    (plain : ∀ digit ∈ digits, digit.isDigit = true)
    (form : characters = digits ∨ characters = '+' :: digits) : unsigned characters = digits := by
  rcases form with same | signed
  · rw [same]
    unfold unsigned
    split
    · have sign := plain '+' List.mem_cons_self
      cases sign
    · rfl
  · rw [signed]
    rfl

theorem eq_or_signed (characters : List Char) :
    characters = unsigned characters ∨ characters = '+' :: unsigned characters := by
  unfold unsigned
  split
  · exact .inr rfl
  · exact .inl rfl

theorem readWord?_eq_some {value : Nat} : readWord? written = some value ↔ IsWord written value := by
  have reads : readWord? written =
      if unsigned written.toList ≠ [] ∧ (unsigned written.toList).all isDecimalDigit = true ∧
          decimalNumber (unsigned written.toList) < wordLimit then
        some (decimalNumber (unsigned written.toList))
      else none := rfl
  rw [reads, decimalNumber_eq]
  constructor
  · intro found
    by_cases good : unsigned written.toList ≠ [] ∧
        (unsigned written.toList).all isDecimalDigit = true ∧
          Nat.ofDigitChars 10 (unsigned written.toList) 0 < wordLimit
    · rw [if_pos good] at found
      have same := Option.some.inj found
      obtain ⟨some_digits, plain, small⟩ := good
      refine ⟨same ▸ small, unsigned written.toList, some_digits, ?_, same,
        eq_or_signed written.toList⟩
      exact List.all_eq_true.mp plain
    · rw [if_neg good] at found
      cases found
  · rintro ⟨small, digits, some_digits, plain, same, form⟩
    rw [unsigned_eq plain form, same, if_pos ⟨some_digits, List.all_eq_true.mpr plain, small⟩]

end Telemetry.Text
