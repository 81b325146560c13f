import Telemetry.Text.Printable
import Telemetry.Url.Replacements.Forms
import Telemetry.Url.Replacements.Letters
import Telemetry.Url.Replacements.Runs
import Telemetry.Url.Replacements.Supplement
import Telemetry.Url.Replacements.Symbols
/-!
The characters of domain names.

Domain names that differ only in the forms of their letters are the same name.  So every character
is kept, dropped, replaced by the characters it is a form of, or refused.
-/

namespace Telemetry.Url

open Telemetry.Text

inductive Treatment where
  | kept
  | dropped
  | replaced (target : List Char)
  | refused
  deriving DecidableEq, Repr

def ignoredRanges : List (Nat × Nat) :=
  [(0xAD, 0xAD), (0x34F, 0x34F), (0x115F, 0x1160), (0x17B4, 0x17B5), (0x180B, 0x180F),
   (0x200B, 0x200B), (0x2060, 0x2064), (0x206A, 0x206F), (0x3164, 0x3164), (0xFE00, 0xFE0F),
   (0xFEFF, 0xFEFF), (0xFFA0, 0xFFA0), (0x1BCA0, 0x1BCA3), (0x1D173, 0x1D17A), (0xE0100, 0xE01EF)]

/-- The two joiners, which have no shape and are kept nevertheless. -/
def joinerRanges : List (Nat × Nat) := [(0x200C, 0x200D)]

/-- Characters with a shape that no domain name may have: forms of several marks or of a full
stop, descriptions of ideographs, and the signs for missing characters. -/
def refusedRanges : List (Nat × Nat) :=
  [(0x2024, 0x2026), (0x2488, 0x249B), (0x2FF0, 0x2FFF), (0x31EF, 0x31EF), (0x33C2, 0x33C2),
   (0x33C7, 0x33C7), (0x33D8, 0x33D8), (0xFE12, 0xFE12), (0xFE19, 0xFE19), (0xFE30, 0xFE30),
   (0xFE52, 0xFE52), (0xFFFC, 0xFFFD), (0x1F100, 0x1F100)]

/-- The code points that stand for one of neighbouring code points. -/
def blockTarget? (blocks : List (Nat × List (List Nat))) (code : Nat) : Option (List Nat) :=
  blocks.findSome? fun (first, targets) =>
    if first ≤ code then targets[code - first]? else none

def replacement? (code : Nat) : Option (List Nat) :=
  let run := replacementRuns.findSome? (·.standIn? code)
  let blocks :=
    if code < 0x2000 then replacedLetters
    else if code < 0x3000 then replacedSymbols
    else if code < 0xF900 then replacedIdeographs
    else if code < 0xFB00 then replacedCompatibilityForms
    else if code < 0x10000 then replacedPresentationForms
    else replacedSupplement
  (run.map fun target => [target]).or (blockTarget? blocks code)

def treatment (character : Char) : Treatment :=
  if character.toNat < 0x80 then
    if character.isUpper then .replaced [character.toLower] else .kept
  else if inRanges ignoredRanges character then .dropped
  else
    match replacement? character.toNat with
    | some target => .replaced (target.map Char.ofNat)
    | none =>
        if inRanges joinerRanges character then .kept
        else if isPrintable character && !inRanges refusedRanges character then .kept
        else .refused

def replaceAll? : List Char → Option (List Char)
  | [] => some []
  | character :: rest =>
      match treatment character with
      | .kept => (replaceAll? rest).map (character :: ·)
      | .dropped => replaceAll? rest
      | .replaced target => (replaceAll? rest).map (target ++ ·)
      | .refused => none

end Telemetry.Url
