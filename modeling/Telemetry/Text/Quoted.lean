import Telemetry.Text.Printable
/-!
Quoted text, as it appears inside messages.

A quoted text stands between double quotes.  Quotes, backslashes and the common controls are
escaped by a backslash, and every other character that would not show as itself is written by
its code point.
-/

namespace Telemetry.Text

def hexDigit (value : Nat) : Char :=
  if value < 10 then Char.ofNat (0x30 + value) else Char.ofNat (0x57 + value)

def hexDigitUpper (value : Nat) : Char :=
  if value < 10 then Char.ofNat (0x30 + value) else Char.ofNat (0x37 + value)

def hexDigits (value : Nat) : List Char :=
  (Nat.toDigits 16 value)

def quoteCharacter (character : Char) : List Char :=
  match character with
  | '\x00' => ['\\', '0']
  | '\t' => ['\\', 't']
  | '\n' => ['\\', 'n']
  | '\r' => ['\\', 'r']
  | '"' => ['\\', '"']
  | '\\' => ['\\', '\\']
  | _ =>
      if isPrintable character && !isExtending character then [character]
      else ['\\', 'u', '\x7b'] ++ hexDigits character.toNat ++ ['\x7d']

def quoted (text : String) : String :=
  String.ofList ('"' :: text.toList.flatMap quoteCharacter ++ ['"'])

end Telemetry.Text
