import Telemetry.Proofs.Json.Strings
import Telemetry.Proofs.Text.Numeral

/-! Written JSON is cut into the tokens it was written from. A scalar ends where a character
follows that cannot belong to it, which what is written behind a value never can. -/

namespace Telemetry.Json

open Telemetry.Text Telemetry.Number

def Delimits (rest : List Char) : Prop :=
  ∀ character ∈ rest.head?, isNumberCharacter character = false ∧ character.isAlpha = false

/-- A text that is cut into the tokens, wherever it stands in front of a delimiter. -/
def IsCutInto (text : List Char) (pieces : List Token) : Prop :=
  ∀ rest, Delimits rest → tokens (text ++ rest) = (tokens rest).map (pieces ++ ·)

theorem delimits_nil : Delimits [] := by
  intro character among
  cases among

theorem delimits_cons {character : Char} (noNumber : isNumberCharacter character = false)
    (noLetter : character.isAlpha = false) (rest : List Char) : Delimits (character :: rest) := by
  intro other among
  cases among
  exact ⟨noNumber, noLetter⟩

theorem takeWhile_delimited {accepts : Char → Bool} {characters rest : List Char}
    (inside : ∀ character ∈ characters, accepts character = true)
    (outside : ∀ character ∈ rest.head?, accepts character = false) :
    (characters ++ rest).takeWhile accepts = characters := by
  rw [List.takeWhile_append_of_pos inside]
  cases rest with
  | nil => exact List.append_nil characters
  | cons character others =>
      rw [List.takeWhile_cons_of_neg (by rw [outside character rfl]; exact Bool.false_ne_true),
        List.append_nil]

theorem dropWhile_delimited {accepts : Char → Bool} {characters rest : List Char}
    (inside : ∀ character ∈ characters, accepts character = true)
    (outside : ∀ character ∈ rest.head?, accepts character = false) :
    (characters ++ rest).dropWhile accepts = rest := by
  rw [List.dropWhile_append_of_pos inside]
  cases rest with
  | nil => rfl
  | cons character others =>
      rw [List.dropWhile_cons_of_neg (by rw [outside character rfl]; exact Bool.false_ne_true)]

theorem tokens_punctuation {character : Char} {token : Token}
    (solid : isSpace character = false) (noQuote : character ≠ '"')
    (means : punctuation? character = some token) (rest : List Char) :
    tokens (character :: rest) = (tokens rest).map (token :: ·) := by
  rw [tokens, if_neg (by rw [solid]; exact Bool.false_ne_true), if_neg noQuote, means]

theorem tokens_string (characters rest : List Char) :
    tokens ('"' :: (characters.flatMap escapeCharacter ++ '"' :: rest)) =
      (tokens rest).map (.scalar (.text (String.ofList characters)) :: ·) := by
  rw [tokens, if_neg (by decide), if_pos rfl]
  split
  · rename_i missing
    rw [readString_written] at missing
    cases missing
  · rename_i found
    rw [readString_written] at found
    cases found
    rfl

theorem isCutInto_string (text : String) :
    IsCutInto (stringText text).toList [.scalar (.text text)] := by
  intro rest _
  unfold stringText
  rw [String.toList_ofList, List.cons_append, List.cons_append, List.append_assoc,
    List.singleton_append, tokens_string, String.ofList_toList]
  rfl

theorem isCutInto_word {first : Char} {others : List Char} {value : Json}
    (solid : isSpace first = false) (noQuote : first ≠ '"') (noMark : punctuation? first = none)
    (noNumber : isNumberCharacter first = false)
    (letters : others.all Char.isAlpha = true)
    (means : readWordToken? (first :: others) = some value) :
    IsCutInto (first :: others) [.scalar value] := by
  intro rest delimits
  have inside : ∀ character ∈ others, character.isAlpha = true := List.all_eq_true.mp letters
  have ends : ∀ character ∈ rest.head?, character.isAlpha = false :=
    fun character among => (delimits character among).2
  rw [List.cons_append, tokens, if_neg (by rw [solid]; exact Bool.false_ne_true), if_neg noQuote,
    noMark]
  dsimp only
  rw [if_neg (by rw [noNumber]; exact Bool.false_ne_true), takeWhile_delimited inside ends, means,
    dropWhile_delimited inside ends]
  rfl

theorem plain_of_isNumberCharacter {character : Char}
    (inside : isNumberCharacter character = true) :
    isSpace character = false ∧ character ≠ '"' ∧ punctuation? character = none := by
  refine ⟨?_, ?_, ?_⟩
  · rw [Bool.eq_false_iff]
    intro space
    simp only [isSpace, Bool.or_eq_true, beq_iff_eq] at space
    rcases space with ((rfl | rfl) | rfl) | rfl
    all_goals exact absurd inside (by decide)
  · rintro rfl
    exact absurd inside (by decide)
  · unfold punctuation?
    split
    all_goals first
      | exact absurd inside (by decide)
      | rfl

theorem isCutInto_number {first : Char} {others : List Char} {value : Json}
    (inside : ∀ character ∈ first :: others, isNumberCharacter character = true)
    (means : readNumber? (first :: others) = some value) :
    IsCutInto (first :: others) [.scalar value] := by
  intro rest delimits
  have ends : ∀ character ∈ rest.head?, isNumberCharacter character = false :=
    fun character among => (delimits character among).1
  rw [List.forall_mem_cons] at inside
  obtain ⟨solid, noQuote, noMark⟩ := plain_of_isNumberCharacter inside.1
  rw [List.cons_append, tokens, if_neg (by rw [solid]; exact Bool.false_ne_true), if_neg noQuote,
    noMark]
  dsimp only
  rw [if_pos inside.1, takeWhile_delimited inside.2 ends, means, dropWhile_delimited inside.2 ends]
  rfl

theorem isNumberCharacter_of_isDigit {character : Char} (digit : character.isDigit = true) :
    isNumberCharacter character = true := by
  have decimal : isDecimalDigit character = true := digit
  unfold isNumberCharacter
  rw [decimal]
  rfl

theorem head?_toDigits_ne {number : Nat} (positive : 0 < number) :
    (Nat.toDigits 10 number).head? ≠ some '0' := by
  induction number using Nat.strongRecOn with
  | ind number ih =>
      by_cases small : number < 10
      · rw [Nat.toDigits_of_lt_base small]
        have digits : ∀ digit < 10, 0 < digit → [digit.digitChar].head? ≠ some '0' := by decide
        exact digits number small positive
      · have tens : 0 < number / 10 := Nat.div_pos (by omega) (by decide)
        have front := ih (number / 10) (Nat.div_lt_self positive (by decide)) tens
        rw [Nat.toDigits_of_base_le (by decide) (by omega)]
        cases higher : Nat.toDigits 10 (number / 10) with
        | nil => exact absurd higher Nat.toDigits_ne_nil
        | cons digit others =>
            rw [higher] at front
            exact front

theorem takeDigits?_digits {digits : List Char} (nonempty : digits ≠ [])
    (plain : ∀ digit ∈ digits, digit.isDigit = true) :
    takeDigits? digits = some (digits, []) := by
  have nothing : ∀ character ∈ ([] : List Char).head?, isDecimalDigit character = false := by
    intro character among
    cases among
  have taken : (digits ++ []).takeWhile isDecimalDigit = digits :=
    takeWhile_delimited plain nothing
  have left : (digits ++ []).dropWhile isDecimalDigit = [] := dropWhile_delimited plain nothing
  rw [List.append_nil] at taken left
  unfold takeDigits?
  rw [taken, left]
  dsimp only
  rw [if_neg (by simpa using nonempty)]

/-- How the digits of a number can stand: at least one, and no zero in front of others. -/
structure IsWhole (digits : List Char) : Prop where
  nonempty : digits ≠ []
  plain : ∀ digit ∈ digits, digit.isDigit = true
  noZero : ¬(digits.head? = some '0' ∧ digits.length ≠ 1)

theorem isWhole_toDigits (number : Nat) : IsWhole (Nat.toDigits 10 number) where
  nonempty := Nat.toDigits_ne_nil
  plain digit among := Nat.isDigit_of_mem_toDigits (by decide) (by decide) among
  noZero := by
    rintro ⟨zero, several⟩
    by_cases positive : 0 < number
    · exact head?_toDigits_ne positive zero
    · have nothing : number = 0 := by omega
      rw [nothing] at several
      exact several rfl

theorem readNumber?_negative {digits : List Char} (whole : IsWhole digits) :
    readNumber? ('-' :: digits) = ofInteger true (decimalNumber digits) := by
  unfold readNumber?
  simp only [takeDigits?_digits whole.nonempty whole.plain]
  simp only [Option.bind_eq_bind, Option.bind_some, if_neg whole.noZero]
  rfl

theorem readNumber?_positive {digits : List Char} (whole : IsWhole digits) :
    readNumber? digits = ofInteger false (decimalNumber digits) := by
  unfold readNumber?
  split
  rename_i same
  split at same
  · exact absurd (whole.plain '-' List.mem_cons_self) (by decide)
  · cases same
    simp only [takeDigits?_digits whole.nonempty whole.plain]
    simp only [Option.bind_eq_bind, Option.bind_some, if_neg whole.noZero]
    rfl

def FitsWord (value : Int) : Prop := -signedLimit ≤ value ∧ value < wordLimit

theorem readNumber?_toString {value : Int} (fits : FitsWord value) :
    readNumber? (toString value).toList = some (.integer value) := by
  obtain ⟨least, most⟩ := fits
  cases value with
  | ofNat size =>
      have small : size < wordLimit := Int.ofNat_lt.mp most
      rw [toList_toString_ofNat, readNumber?_positive (isWhole_toDigits size), decimalNumber_eq,
        Nat.ofDigitChars_ten_toDigits]
      unfold ofInteger
      rw [if_neg Bool.false_ne_true, if_pos small]
      rfl
  | negSucc size =>
      have small : size + 1 ≤ signedLimit := by omega
      rw [toList_toString_negSucc, readNumber?_negative (isWhole_toDigits (size + 1)),
        decimalNumber_eq, Nat.ofDigitChars_ten_toDigits]
      unfold ofInteger
      rw [if_pos rfl, if_pos ⟨Nat.succ_ne_zero size, small⟩]
      rfl

theorem isNumberCharacter_of_mem_toString {value : Int} {character : Char}
    (among : character ∈ (toString value).toList) : isNumberCharacter character = true := by
  have digits : ∀ {size : Nat}, character ∈ Nat.toDigits 10 size →
      isNumberCharacter character = true := fun inside =>
    isNumberCharacter_of_isDigit (Nat.isDigit_of_mem_toDigits (by decide) (by decide) inside)
  cases value with
  | ofNat size =>
      rw [toList_toString_ofNat] at among
      exact digits among
  | negSucc size =>
      rw [toList_toString_negSucc, List.mem_cons] at among
      rcases among with rfl | inside
      · rfl
      · exact digits inside

theorem isCutInto_integer {value : Int} (fits : FitsWord value) :
    IsCutInto (toString value).toList [.scalar (.integer value)] := by
  have means := readNumber?_toString fits
  have inside : ∀ character ∈ (toString value).toList, isNumberCharacter character = true :=
    fun _ among => isNumberCharacter_of_mem_toString among
  cases written : (toString value).toList with
  | nil =>
      rw [written] at means
      cases means
  | cons first others =>
      rw [written] at means inside
      exact isCutInto_number inside means

theorem isCutInto_nil : IsCutInto [] [] := by
  intro rest _
  exact Option.map_id_apply.symm

theorem IsCutInto.mark {mark : Char} {token : Token} {text : List Char} {pieces : List Token}
    (cut : IsCutInto text pieces) (solid : isSpace mark = false) (noQuote : mark ≠ '"')
    (means : punctuation? mark = some token) : IsCutInto (mark :: text) (token :: pieces) := by
  intro rest delimits
  rw [List.cons_append, tokens_punctuation solid noQuote means, cut rest delimits, Option.map_map]
  rfl

theorem IsCutInto.append {text others : List Char} {mark : Char} {pieces further : List Token}
    (cut : IsCutInto text pieces) (cutOthers : IsCutInto (mark :: others) further)
    (noNumber : isNumberCharacter mark = false) (noLetter : mark.isAlpha = false) :
    IsCutInto (text ++ mark :: others) (pieces ++ further) := by
  intro rest delimits
  rw [List.append_assoc, List.cons_append, cut _ (delimits_cons noNumber noLetter _),
    ← List.cons_append, cutOthers rest delimits, Option.map_map]
  congr 1
  funext later
  exact (List.append_assoc pieces further later).symm

theorem isCutInto_commas {texts : List (List Char × List Token)}
    (cut : ∀ piece ∈ texts, IsCutInto piece.1 piece.2) :
    IsCutInto (List.intercalate [','] (texts.map Prod.fst))
      (List.intercalate [.comma] (texts.map Prod.snd)) := by
  induction texts with
  | nil => exact isCutInto_nil
  | cons piece others ih =>
      rw [List.forall_mem_cons] at cut
      cases others with
      | nil =>
          simp only [List.map_cons, List.map_nil, List.intercalate_singleton]
          exact cut.1
      | cons next rest =>
          have further := (ih cut.2).mark (by decide) (by decide) (show punctuation? ',' = _ from rfl)
          have whole := cut.1.append further rfl (by decide)
          simp only [List.map_cons, List.intercalate_cons_cons, List.append_assoc,
            List.singleton_append] at whole ⊢
          exact whole

end Telemetry.Json
