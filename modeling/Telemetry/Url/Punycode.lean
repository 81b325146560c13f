import Telemetry.Text.Blank
/-!
Labels of domain names in their ASCII form.

The plain characters of a label stand first.  Each number after the last hyphen inserts one more
character: it says how far the place of the insertion and the code point move on.
-/

namespace Telemetry.Url

open Telemetry.Text

structure Unfolding where
  label : List Char
  code : Nat := 128
  place : Nat := 0
  bias : Nat := 72
  start : Nat := 0
  /-- What the next digit counts; between two numbers it is one. -/
  weight : Nat := 1
  position : Nat := 0

def unfoldingDigit? (character : Char) : Option Nat :=
  let lower := character.toLower
  if lower.isLower then some (lower.toNat - 97)
  else if lower.isDigit then some (lower.toNat - 22)
  else none

def shrink (distance : Nat) : Nat × Nat :=
  if distance ≤ 455 then (distance, 0)
  else
    let (small, count) := shrink (distance / 35)
    (small, count + 1)
termination_by distance
decreasing_by omega

def nextBias (distance length : Nat) (first : Bool) : Nat :=
  let scaled := if first then distance / 700 else distance / 2
  let (small, count) := shrink (scaled + scaled / length)
  36 * count + 36 * small / (small + 38)

namespace Unfolding

def threshold (unfolding : Unfolding) : Nat :=
  min 26 (max 1 (36 * (unfolding.position + 1) - unfolding.bias))

def insert? (unfolding : Unfolding) : Option Unfolding :=
  let length := unfolding.label.length + 1
  let code := unfolding.code + unfolding.place / length
  let place := unfolding.place % length
  if code < 0xD800 ∨ (0xE000 ≤ code ∧ code < 0x110000) then
    some
      { label := unfolding.label.insertIdx place (Char.ofNat code)
        code
        place := place + 1
        start := place + 1
        bias := nextBias (unfolding.place - unfolding.start) length (unfolding.start == 0) }
  else none

def read? (unfolding : Unfolding) (digit : Nat) : Option Unfolding :=
  let grown := { unfolding with place := unfolding.place + digit * unfolding.weight }
  if digit < unfolding.threshold then grown.insert?
  else
    some
      { grown with
        weight := unfolding.weight * (36 - unfolding.threshold)
        position := unfolding.position + 1 }

def readAll? (unfolding : Unfolding) : List Char → Option (List Char)
  | [] => if unfolding.position = 0 then some unfolding.label else none
  | character :: rest =>
      match (unfoldingDigit? character).bind unfolding.read? with
      | some next => next.readAll? rest
      | none => none

end Unfolding

def unfoldLabel? (written : List Char) : Option (List Char) :=
  match splitFirst? '-' written.reverse with
  | some (digits, plain@(_ :: _)) => Unfolding.readAll? { label := plain.reverse } digits.reverse
  | _ => Unfolding.readAll? { label := [] } written

end Telemetry.Url
