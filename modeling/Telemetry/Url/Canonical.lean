import Telemetry.Url.CombiningClass
import Telemetry.Url.Composites
/-!
The composed form of domain names.

Names that look the same may be written with marks apart from their letters, or together.  The
composed form takes every character apart, puts the marks behind each letter into the order of
their classes, and then joins what belongs together.
-/

namespace Telemetry.Url

def firstSyllable : Nat := 0xAC00

def firstLead : Nat := 0x1100

def firstVowel : Nat := 0x1161

/-- The code point before the twenty-seven letters that close a syllable. -/
def noClose : Nat := 0x11A7

def syllableParts? (code : Nat) : Option (List Nat) :=
  let place := code - firstSyllable
  if firstSyllable ≤ code ∧ place < 19 * 21 * 28 then
    let start := [firstLead + place / (21 * 28), firstVowel + place / 28 % 21]
    some (if place % 28 = 0 then start else start ++ [noClose + place % 28])
  else none

/-- The syllable of Hangul that grows from a letter or a shorter syllable. -/
def syllable? (first second : Nat) : Option Nat :=
  let place := first - firstSyllable
  if firstLead ≤ first ∧ first < firstLead + 19 ∧ firstVowel ≤ second ∧
      second < firstVowel + 21 then
    some (firstSyllable + ((first - firstLead) * 21 + (second - firstVowel)) * 28)
  else if firstSyllable ≤ first ∧ place < 19 * 21 * 28 ∧ place % 28 = 0 ∧ noClose < second ∧
      second < noClose + 28 then
    some (first + (second - noClose))
  else none

def takeApart : Nat → Nat → List Nat
  | 0, code => [code]
  | depth + 1, code =>
      match syllableParts? code, parts? code with
      | some parts, _ => parts
      | none, some (first, second) => takeApart depth first ++ [second]
      | none, none => [code]

/-- Characters are made of characters no deeper than this. -/
def compositeDepth : Nat := 4

/-- Puts a character before the marks behind it, or behind those of them that have to come first. -/
def placeMark (character : Char) : List Char → List Char
  | [] => [character]
  | next :: rest =>
      if combiningClass next ≠ 0 ∧ combiningClass next < combiningClass character then
        next :: placeMark character rest
      else character :: next :: rest

def orderMarks : List Char → List Char
  | [] => []
  | character :: rest => placeMark character (orderMarks rest)

def join? (first second : Char) : Option Char :=
  if second.toNat < 0x300 then none
  else
    let found := (syllable? first.toNat second.toNat).or (composite? first.toNat second.toNat)
    found.map Char.ofNat

/-- Joins the marks and letters that follow a letter with it, as far as nothing stands between.
The marks that stay apart are given from the last. -/
def joinFrom (letter : Char) (apart : List Char) : List Char → List Char
  | [] => letter :: apart.reverse
  | next :: rest =>
      let isNear := apart.head?.all fun last => combiningClass last < combiningClass next
      match if isNear then join? letter next else none with
      | some made => joinFrom made apart rest
      | none =>
          if combiningClass next = 0 then letter :: apart.reverse ++ joinFrom next [] rest
          else joinFrom letter (next :: apart) rest

def joinAll : List Char → List Char
  | [] => []
  | character :: rest =>
      if combiningClass character = 0 then joinFrom character [] rest
      else character :: joinAll rest

/-- The composed form of characters that domain names keep.  Below the first mark every character
is its own composed form. -/
def compose (characters : List Char) : List Char :=
  if characters.all (·.toNat < 0x300) then characters
  else
    let apart := characters.flatMap fun character =>
      (takeApart compositeDepth character.toNat).map Char.ofNat
    joinAll (orderMarks apart)

end Telemetry.Url
