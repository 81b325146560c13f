import Telemetry.Number.Word
/-!
Numbers written in ASCII digits.
-/

namespace Telemetry.Text

open Telemetry.Number

def isDecimalDigit (character : Char) : Bool := '0' ≤ character && character ≤ '9'

def decimalValue (character : Char) : Nat := character.toNat - '0'.toNat

def decimalNumber (digits : List Char) : Nat :=
  digits.foldl (fun value digit => value * 10 + decimalValue digit) 0

def hexValue? (character : Char) : Option Nat :=
  if isDecimalDigit character then some (decimalValue character)
  else if 'a' ≤ character && character ≤ 'f' then some (character.toNat - 'a'.toNat + 10)
  else if 'A' ≤ character && character ≤ 'F' then some (character.toNat - 'A'.toNat + 10)
  else none

def readWord? (text : String) : Option Nat :=
  let digits :=
    match text.toList with
    | '+' :: rest => rest
    | characters => characters
  if digits ≠ [] ∧ digits.all isDecimalDigit = true ∧ decimalNumber digits < wordLimit then
    some (decimalNumber digits)
  else none

def readBool? (text : String) : Option Bool :=
  if text = "true" then some true else if text = "false" then some false else none

end Telemetry.Text
