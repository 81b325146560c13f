import Telemetry.Number.Reading
import Telemetry.Number.Word
import Telemetry.Toml.Basic
import Telemetry.Toml.Text
/-!
Numbers, truth values and points in time in TOML.

Each of them is one word of letters, digits and a few marks; only a date and a time of day may
stand apart by a space.
-/

namespace Telemetry.Toml

open Telemetry.Text Telemetry.Number

def isWordCharacter (character : Char) : Bool :=
  character.isAlphanum || character == '+' || character == '-' || character == '_' ||
    character == '.' || character == ':'

def digits? (accept : Char → Bool) (written : List Char) : Option (List Char) :=
  let groups := splitAll '_' written
  if groups.all (fun group => !group.isEmpty && group.all accept) then some groups.flatten else none

def baseNumber (base : Nat) (digits : List Char) : Nat :=
  digits.foldl (fun value digit => value * base + (hexValue? digit).getD 0) 0

def isBaseDigit (base : Nat) (character : Char) : Bool :=
  (hexValue? character).any (· < base)

def wholeDigits? (written : List Char) : Option (List Char) := do
  let digits ← digits? isDecimalDigit written
  if digits.head? = some '0' ∧ digits.length ≠ 1 then none else some digits

/-- A sign, if there is one, and what follows it. -/
def splitSign : List Char → Option Bool × List Char
  | '-' :: rest => (some true, rest)
  | '+' :: rest => (some false, rest)
  | written => (none, written)

def integer? (written : List Char) : Option Int := do
  let value : Int ←
    match written with
    | '0' :: 'x' :: rest => (digits? (isBaseDigit 16) rest).map fun found => baseNumber 16 found
    | '0' :: 'o' :: rest => (digits? (isBaseDigit 8) rest).map fun found => baseNumber 8 found
    | '0' :: 'b' :: rest => (digits? (isBaseDigit 2) rest).map fun found => baseNumber 2 found
    | _ =>
        let (sign, unsigned) := splitSign written
        (wholeDigits? unsigned).map fun found =>
          if sign = some true then -(decimalNumber found : Int) else decimalNumber found
  if -signedLimit ≤ value ∧ value < signedLimit then some value else none

def power? (written : List Char) : Option Int := do
  let (sign, unsigned) := splitSign written
  let size : Int := decimalNumber (← digits? isDecimalDigit unsigned)
  return if sign = some true then -size else size

def splitPower? (written : List Char) : Option (List Char × Option Int) :=
  let isMark := fun (character : Char) => character == 'e' || character == 'E'
  match written.dropWhile (!isMark ·) with
  | [] => some (written, none)
  | _ :: rest => (power? rest).map fun power => (written.takeWhile (!isMark ·), some power)

/-- Whether a word is a number with a fraction or a power of ten, or one of the special numbers.
A positive number beyond all doubles is refused. -/
def isDecimal (written : List Char) : Bool :=
  let (sign, unsigned) := splitSign written
  if unsigned = ['i', 'n', 'f'] ∨ unsigned = ['n', 'a', 'n'] then true
  else
    match splitPower? unsigned with
    | none => false
    | some (mantissa, power) =>
        let parts :=
          match splitFirst? '.' mantissa with
          | some (whole, fraction) =>
              match wholeDigits? whole, digits? isDecimalDigit fraction with
              | some first, some second => some (first, second)
              | _, _ => none
          | none => if power.isSome then (wholeDigits? mantissa).map (·, []) else none
        match parts with
        | none => false
        | some (whole, fraction) =>
            let exponent := power.getD 0 - fraction.length
            sign = some true || (nearestFloat (decimalNumber (whole ++ fraction)) exponent).isFinite

def isPair (least most : Nat) (written : List Char) : Bool :=
  written.length == 2 && written.all isDecimalDigit &&
    least ≤ decimalNumber written && decimalNumber written ≤ most

def daysInMonth (year month : Nat) : Nat :=
  if month = 2 then
    if year % 4 = 0 ∧ (year % 100 ≠ 0 ∨ year % 400 = 0) then 29 else 28
  else if month = 4 ∨ month = 6 ∨ month = 9 ∨ month = 11 then 30
  else 31

def isDate (written : List Char) : Bool :=
  match splitAll '-' written with
  | [year, month, day] =>
      year.length == 4 && year.all isDecimalDigit && isPair 1 12 month &&
        isPair 1 (daysInMonth (decimalNumber year) (decimalNumber month)) day
  | _ => false

def isTime (written : List Char) : Bool :=
  match splitAll ':' written with
  | [hour, minute, second] =>
      let fraction := second.drop 2
      isPair 0 23 hour && isPair 0 59 minute && isPair 0 60 (second.take 2) &&
        (fraction.isEmpty ||
          (fraction.head? == some '.' && fraction.length ≠ 1 &&
            (fraction.drop 1).all isDecimalDigit))
  | _ => false

def isOffset (written : List Char) : Bool :=
  match splitAll ':' written with
  | [hour, minute] => isPair 0 23 hour && isPair 0 59 minute
  | _ => false

def isOffsetTime (written : List Char) : Bool :=
  let isMark := fun (character : Char) =>
    character == 'Z' || character == 'z' || character == '+' || character == '-'
  isTime (written.takeWhile (!isMark ·)) &&
    match written.dropWhile (!isMark ·) with
    | [] => true
    | mark :: offset => if mark == 'Z' || mark == 'z' then offset.isEmpty else isOffset offset

def isMoment (written : List Char) : Bool :=
  let date := written.take 10
  let rest := written.drop 10
  if isDate date then
    match rest with
    | [] => true
    | mark :: time => (mark == 'T' || mark == 't') && isOffsetTime time
  else isTime written

def wordValue? (written : List Char) : Option Toml :=
  if written = ['t', 'r', 'u', 'e'] then some (.boolean true)
  else if written = ['f', 'a', 'l', 's', 'e'] then some (.boolean false)
  else if isMoment written then some (.moment (String.ofList written))
  else
    match integer? written with
    | some value => some (.integer value)
    | none => if isDecimal written then some (.decimal (String.ofList written)) else none

/-- Reads a number, a truth value or a point in time.  After a date, a space and a digit begin
the time of that day. -/
def readWord (characters : List Char) : Scan Toml :=
  let word := characters.takeWhile isWordCharacter
  let rest := characters.dropWhile isWordCharacter
  match rest with
  | ' ' :: digit :: more =>
      if isDate word && isDecimalDigit digit then
        let time := (digit :: more).takeWhile isWordCharacter
        if isOffsetTime time then
          some (.moment (String.ofList (word ++ ' ' :: time)),
            (digit :: more).dropWhile isWordCharacter)
        else none
      else (wordValue? word).map (·, rest)
  | _ => (wordValue? word).map (·, rest)

end Telemetry.Toml
