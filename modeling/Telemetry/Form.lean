import Telemetry.Text.Blank
import Telemetry.Text.Digits
import Telemetry.Text.Quoted
import Telemetry.Text.Utf8
/-!
Form data: named values on one line.

A form is written as `name=value` pairs between ampersands.  Letters, digits and the
characters `*-._` stand for themselves, a plus sign stands for a space, and every other byte of
the UTF-8 text is written as a percent sign and two hexadecimal digits.
-/

namespace Telemetry.Form

open Telemetry.Text

abbrev Pair := String × String

def isPlain (byte : UInt8) : Bool :=
  (0x30 ≤ byte && byte ≤ 0x39) || (0x41 ≤ byte && byte ≤ 0x5A) || (0x61 ≤ byte && byte ≤ 0x7A) ||
    byte == 0x2A || byte == 0x2D || byte == 0x2E || byte == 0x5F

def encodeByte (byte : UInt8) : List Char :=
  if isPlain byte then [Char.ofNat byte.toNat]
  else if byte == 0x20 then ['+']
  else ['%', hexDigitUpper (byte.toNat / 16), hexDigitUpper (byte.toNat % 16)]

def encodeText (text : String) : List Char := (encodeUtf8 text).flatMap encodeByte

def encodePair (pair : Pair) : List Char := encodeText pair.1 ++ '=' :: encodeText pair.2

def encode (pairs : List Pair) : String :=
  String.ofList (List.intercalate ['&'] (pairs.map encodePair))

/-- The bytes that a written text stands for.  A percent sign without two hexadecimal digits
stands for itself. -/
def decodeBytes : List Char → List UInt8
  | [] => []
  | '+' :: rest => 0x20 :: decodeBytes rest
  | '%' :: first :: second :: rest =>
      match hexValue? first, hexValue? second with
      | some high, some low => UInt8.ofNat (high * 16 + low) :: decodeBytes rest
      | _, _ => 0x25 :: decodeBytes (first :: second :: rest)
  | character :: rest => encodeScalar character ++ decodeBytes rest

def decodeText (written : List Char) : String := decodeUtf8Lenient (decodeBytes written)

/-- The pair that is written between two ampersands; without an equals sign the value is empty. -/
def decodePair (written : List Char) : Pair :=
  match splitFirst? '=' written with
  | some (name, value) => (decodeText name, decodeText value)
  | none => (decodeText written, "")

/-- The pairs of a form.  Empty stretches between ampersands count for nothing. -/
def decode (written : String) : List Pair :=
  ((splitAll '&' written.toList).filter (!·.isEmpty)).map decodePair

end Telemetry.Form
