import Telemetry.Json.Basic
import Telemetry.Number.Shortest
import Telemetry.Text.Quoted
/-!
Writing JSON text on one line.
-/

namespace Telemetry.Json

open Telemetry.Text Telemetry.Number

def escapeByCode (character : Char) : List Char :=
  let code := character.toNat
  ['\\', 'u', hexDigit (code / 4096 % 16), hexDigit (code / 256 % 16), hexDigit (code / 16 % 16),
    hexDigit (code % 16)]

/-- One character of a string.  Only quotes, backslashes and control characters are escaped; the
line separators beyond ASCII stand as they are. -/
def escapeCharacter (character : Char) : List Char :=
  match character with
  | '"' => ['\\', '"']
  | '\\' => ['\\', '\\']
  | '\x08' => ['\\', 'b']
  | '\x0c' => ['\\', 'f']
  | '\n' => ['\\', 'n']
  | '\r' => ['\\', 'r']
  | '\t' => ['\\', 't']
  | _ => if character.toNat < 0x20 then escapeByCode character else [character]

def stringText (text : String) : String :=
  String.ofList ('"' :: text.toList.flatMap escapeCharacter ++ ['"'])

def commaText (texts : List String) : String := String.intercalate "," texts

mutual

def write : Json → String
  | .null => "null"
  | .boolean value => if value then "true" else "false"
  | .integer value => toString value
  | .decimal value => floatText value
  | .text value => stringText value
  | .list items => "[" ++ commaText (writeItems items) ++ "]"
  | .object entries => "\x7b" ++ commaText (writeEntries entries) ++ "\x7d"

def writeItems : List Json → List String
  | [] => []
  | item :: rest => write item :: writeItems rest

def writeEntries : List (String × Json) → List String
  | [] => []
  | (name, value) :: rest => (stringText name ++ ":" ++ write value) :: writeEntries rest

end

end Telemetry.Json
