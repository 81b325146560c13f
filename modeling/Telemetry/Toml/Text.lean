import Telemetry.Text.Blank
import Telemetry.Text.Digits
/-!
Texts in TOML: strings of four kinds.

All functions work on a document whose lines end in a single line feed.  A string is read up to
its closing mark; the result is its contents and what follows.
-/

namespace Telemetry.Toml

open Telemetry.Text

/-- Contents that were read, and the characters that follow. -/
abbrev Scan (α : Type) := Option (α × List Char)

def Scan.push (character : Char) (scan : Scan (List Char)) : Scan (List Char) :=
  scan.map fun (contents, rest) => (character :: contents, rest)

def isStringCharacter (character : Char) : Bool :=
  character == '\t' || (0x20 ≤ character.toNat && character.toNat != 0x7F)

def escaped? : Char → Option Char
  | 'b' => some '\x08'
  | 't' => some '\t'
  | 'n' => some '\n'
  | 'f' => some '\x0c'
  | 'r' => some '\r'
  | '"' => some '"'
  | '\\' => some '\\'
  | _ => none

/-- The character with a code point, unless the code point is reserved for surrogates. -/
def scalar? (code : Nat) : Option Char :=
  if code < 0xD800 ∨ (0xE000 ≤ code ∧ code < 0x110000) then some (Char.ofNat code) else none

inductive Escape where
  | closed
  | started
  /-- Inside a code point, with the count of missing digits and the value so far. -/
  | digits (missing : Nat) (code : Nat)

def readLiteral : List Char → Scan (List Char)
  | [] => none
  | '\'' :: rest => some ([], rest)
  | character :: rest =>
      if isStringCharacter character then Scan.push character (readLiteral rest) else none

/-- Reads the inside of a string between three single quotes.  Up to two quotes may stand right
before the closing ones. -/
def readLiteralLines : List Char → Scan (List Char)
  | [] => none
  | '\'' :: '\'' :: '\'' :: '\'' :: '\'' :: rest => some (['\'', '\''], rest)
  | '\'' :: '\'' :: '\'' :: '\'' :: rest => some (['\''], rest)
  | '\'' :: '\'' :: '\'' :: rest => some ([], rest)
  | character :: rest =>
      if isStringCharacter character || character == '\n' then
        Scan.push character (readLiteralLines rest)
      else none

/-- What an escape makes of the next character: the character that it stands for if the escape
is complete, and where the reading stands then. -/
def Escape.next? (escape : Escape) (character : Char) : Option (Option Char × Escape) :=
  match escape with
  | .closed => some (some character, .closed)
  | .started =>
      if character = 'u' then some (none, .digits 4 0)
      else if character = 'U' then some (none, .digits 8 0)
      else (escaped? character).map fun found => (some found, .closed)
  | .digits missing code => do
      let value := code * 16 + (← hexValue? character)
      if missing ≤ 1 then return (some (← scalar? value), .closed)
      else return (none, .digits (missing - 1) value)

def Escape.isClosed : Escape → Bool
  | .closed => true
  | _ => false

def readBasic (escape : Escape) : List Char → Scan (List Char)
  | [] => none
  | character :: rest =>
      if escape.isClosed && character == '"' then some ([], rest)
      else if escape.isClosed && character == '\\' then readBasic .started rest
      else if !isStringCharacter character then none
      else
        match escape.next? character with
        | none => none
        | some (none, after) => readBasic after rest
        | some (some found, after) => Scan.push found (readBasic after rest)

def isGap (character : Char) : Bool := character == ' ' || character == '\t' || character == '\n'

/-- The end of a string between three double quotes, after the first quote of a run: the quotes
that still belong to the string, and what follows the closing ones. -/
def closing? : List Char → Scan (List Char)
  | '"' :: '"' :: '"' :: '"' :: after => some (['"', '"'], after)
  | '"' :: '"' :: '"' :: after => some (['"'], after)
  | '"' :: '"' :: after => some ([], after)
  | _ => none

/-- Reads the inside of a string between three double quotes.  Up to two quotes may stand right
before the closing ones, and a backslash at the end of a line removes the break and all blanks
after it. -/
def readBasicLines (escape : Escape) (characters : List Char) : Scan (List Char) :=
  match characters with
  | [] => none
  | character :: rest =>
      if escape.isClosed && character == '"' then
        match closing? rest with
        | some found => some found
        | none => Scan.push '"' (readBasicLines .closed rest)
      else if escape.isClosed && character == '\\' then
        let gap := rest.takeWhile isGap
        if gap.isEmpty then readBasicLines .started rest
        else if gap.contains '\n' then readBasicLines .closed (rest.dropWhile isGap)
        else none
      else if !isStringCharacter character && !(escape.isClosed && character == '\n') then none
      else
        match escape.next? character with
        | none => none
        | some (none, after) => readBasicLines after rest
        | some (some found, after) => Scan.push found (readBasicLines after rest)
termination_by characters.length
decreasing_by
  all_goals simp only [List.length_cons]
  · omega
  · omega
  · have := (List.dropWhile_sublist isGap (l := rest)).length_le
    omega
  · omega
  · omega

def dropLineFeed : List Char → List Char
  | '\n' :: rest => rest
  | characters => characters

def readString : List Char → Scan String
  | '"' :: '"' :: '"' :: rest => finish (readBasicLines .closed (dropLineFeed rest))
  | '"' :: rest => finish (readBasic .closed rest)
  | '\'' :: '\'' :: '\'' :: rest => finish (readLiteralLines (dropLineFeed rest))
  | '\'' :: rest => finish (readLiteral rest)
  | _ => none
where
  finish (scan : Scan (List Char)) : Scan String :=
    scan.map fun (contents, rest) => (String.ofList contents, rest)

def readLineString : List Char → Scan String
  | '"' :: rest => readString.finish (readBasic .closed rest)
  | '\'' :: rest => readString.finish (readLiteral rest)
  | _ => none

end Telemetry.Toml
