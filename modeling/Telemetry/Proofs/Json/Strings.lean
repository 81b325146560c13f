import Telemetry.Json.Printer
import Telemetry.Json.Reader

/-! Strings in JSON are read back as they were written. A character is written as itself, as a
backslash with a letter, or as a backslash with its code in four digits, and each of the three is
read as that one character, whatever stands behind it. -/

namespace Telemetry.Json

open Telemetry.Text

def prepend (character : Char) : Option (List Char × List Char) → Option (List Char × List Char) :=
  Option.map fun reading => (character :: reading.1, reading.2)

theorem hexValue?_hexDigit : ∀ value < 16, hexValue? (hexDigit value) = some value := by decide

theorem hexUnit?_hexDigit {first second third fourth : Nat} (first_small : first < 16)
    (second_small : second < 16) (third_small : third < 16) (fourth_small : fourth < 16) :
    hexUnit? (hexDigit first) (hexDigit second) (hexDigit third) (hexDigit fourth) =
      some ((first * 16 + second) * 256 + (third * 16 + fourth)) := by
  unfold hexUnit?
  rw [hexValue?_hexDigit first first_small, hexValue?_hexDigit second second_small,
    hexValue?_hexDigit third third_small, hexValue?_hexDigit fourth fourth_small]
  rfl

/-- A unit that is no half of a pair is a character by itself, whatever comes next. -/
theorem joinUnits?_alone {unit : Nat} (whole : unit < 0xD800) (next : Option Nat) :
    joinUnits? unit next = some (Char.ofNat unit, false) := by
  unfold joinUnits?
  rw [if_neg (by omega), if_neg (by omega)]

/-- A backslash, a `u` and four digits stand for one character also where another such escape
follows: the second one is left to be read. -/
theorem readString_unit {first second third fourth : Char} {unit : Nat}
    (digits : hexUnit? first second third fourth = some unit) (whole : unit < 0xD800)
    (rest : List Char) :
    readString ('\\' :: 'u' :: first :: second :: third :: fourth :: rest) =
      prepend (Char.ofNat unit) (readString rest) := by
  rw [readString.eq_def]
  split
  · rename_i same
    cases same
  · rename_i same
    cases same
  · rename_i same
    cases same
    simp only [digits, joinUnits?_alone whole]
    rfl
  · rename_i same
    cases same
    simp only [digits, joinUnits?_alone whole]
    rfl
  · rename_i noUnit same
    cases same
    exact absurd rfl (noUnit _ _ _ _ _ rfl)
  · rename_i noEscape same
    cases same
    exact absurd rfl (noEscape _ _ rfl)

theorem readString_letter {letter character : Char} (noUnit : letter ≠ 'u')
    (means : escaped? letter = some character) (rest : List Char) :
    readString ('\\' :: letter :: rest) = prepend character (readString rest) := by
  rw [readString]
  · rw [means]
    rfl
  · intro _ _ _ _ _ _ _ _ _ same
    exact absurd same noUnit
  · intro _ _ _ _ _ same
    exact absurd same noUnit

theorem readString_plain {character : Char} (noQuote : character ≠ '"')
    (noBackslash : character ≠ '\\') (visible : 0x20 ≤ character.toNat) (rest : List Char) :
    readString (character :: rest) = prepend character (readString rest) := by
  rw [readString]
  · rw [if_neg (by omega)]
    rfl
  · exact noQuote
  · intro _ _ _ _ _ _ _ _ _ same
    exact absurd same noBackslash
  · intro _ _ _ _ _ same
    exact absurd same noBackslash
  · intro _ _ same
    exact absurd same noBackslash

theorem readString_escapeByCode {character : Char} (small : character.toNat < 0xD800)
    (rest : List Char) :
    readString (escapeByCode character ++ rest) = prepend character (readString rest) := by
  have digits := hexUnit?_hexDigit
    (Nat.mod_lt (character.toNat / 4096) (show 16 > 0 by decide))
    (Nat.mod_lt (character.toNat / 256) (show 16 > 0 by decide))
    (Nat.mod_lt (character.toNat / 16) (show 16 > 0 by decide))
    (Nat.mod_lt character.toNat (show 16 > 0 by decide))
  have code : (character.toNat / 4096 % 16 * 16 + character.toNat / 256 % 16) * 256 +
      (character.toNat / 16 % 16 * 16 + character.toNat % 16) = character.toNat := by omega
  rw [code] at digits
  have unit := readString_unit digits small rest
  rwa [Char.ofNat_toNat] at unit

theorem readString_escapeCharacter (character : Char) (rest : List Char) :
    readString (escapeCharacter character ++ rest) = prepend character (readString rest) := by
  unfold escapeCharacter
  split
  · exact readString_letter (by decide) rfl rest
  · exact readString_letter (by decide) rfl rest
  · exact readString_letter (by decide) rfl rest
  · exact readString_letter (by decide) rfl rest
  · exact readString_letter (by decide) rfl rest
  · exact readString_letter (by decide) rfl rest
  · exact readString_letter (by decide) rfl rest
  · rename_i noQuote noBackslash _ _ _ _ _
    split
    · exact readString_escapeByCode (by omega) rest
    · exact readString_plain noQuote noBackslash (by omega) rest

theorem readString_written (characters rest : List Char) :
    readString (characters.flatMap escapeCharacter ++ '"' :: rest) = some (characters, rest) := by
  induction characters with
  | nil => rfl
  | cons character others ih =>
      rw [List.flatMap_cons, List.append_assoc, readString_escapeCharacter, ih]
      rfl

end Telemetry.Json
