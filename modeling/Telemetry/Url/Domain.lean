import Telemetry.Text.Digits
import Telemetry.Text.Utf8
import Telemetry.Url.Canonical
import Telemetry.Url.Direction
import Telemetry.Url.Joining
import Telemetry.Url.Punycode
import Telemetry.Url.Replacements
/-!
Domain names.

A domain name is read as the bytes of UTF-8 that it stands for, in the form under which it is
looked up.  Its labels, also those in their ASCII form, may hold characters of all scripts as long
as they cannot be taken for other labels.
-/

namespace Telemetry.Url

open Telemetry.Text

def percentDecode : List Char → List UInt8
  | [] => []
  | '%' :: first :: second :: rest =>
      match hexValue? first, hexValue? second with
      | some high, some low => UInt8.ofNat (high * 16 + low) :: percentDecode rest
      | _, _ => 0x25 :: percentDecode (first :: second :: rest)
  | character :: rest => encodeScalar character ++ percentDecode rest

def forbiddenMarks : List Char := ['%', '#', '/', ':', '<', '>', '?', '@', '[', '\\', ']', '^', '|']

def isForbidden (character : Char) : Bool :=
  character.toNat ≤ 0x20 || character.toNat == 0x7F || forbiddenMarks.contains character

/-- The form under which a text is looked up, if all of its characters may stand in a domain
name. -/
def lookupForm? (characters : List Char) : Option (List Char) := do
  let found := compose (← replaceAll? characters)
  if found.any isForbidden then none else some found

def asciiFormStart : List Char := ['x', 'n', '-', '-']

/-- The longest ASCII form that is read, without its beginning. -/
def longestAsciiForm : Nat := 2000

def longestLabel : Nat := 1000

def isAscii (character : Char) : Bool := character.toNat < 0x80

/-- The label that stands behind one in its ASCII form.  It has to be written as it is looked
up. -/
def readAsciiForm? (written : List Char) : Option (List Char) := do
  if written.isEmpty || written.getLast? == some '-' || written.length > longestAsciiForm ||
      !written.all isAscii then
    none
  let label ← unfoldLabel? written
  if lookupForm? label = some label ∧ '.' ∉ label then some label else none

def readLabel? (label : List Char) : Option (List Char) :=
  match dropStart? asciiFormStart label with
  | some written => readAsciiForm? written
  | none => if label.length > longestLabel && !label.all isAscii then none else some label

def isLabel (label : List Char) : Bool := !label.head?.any isMark && joinersFit [] label

def domain? (host : List Char) : Option (List Char) := do
  let decoded ← decodeUtf8? (percentDecode host)
  let domain ← lookupForm? decoded.toList
  let labels ← (splitAll '.' domain).mapM readLabel?
  if labels.all isLabel && (!labels.any runsRight || labels.all keepsDirection) then some domain
  else none

end Telemetry.Url
