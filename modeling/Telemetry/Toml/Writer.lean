import Telemetry.Text.Quoted
/-!
Writing keys and texts in TOML.

The first form that shows a text without escapes is taken; only a text that no such form can
hold is written with escapes.
-/

namespace Telemetry.Toml

open Telemetry.Text

def isControl (character : Char) : Bool :=
  (character.toNat < 0x20 || character.toNat == 0x7F) && character != '\t' && character != '\n'

def longestRun (character : Char) (characters : List Char) : Nat :=
  (characters.foldl (fun (run, longest) next =>
    if next == character then (run + 1, max longest (run + 1)) else (0, longest)) (0, 0)).2

def escapeBasic (lines : Bool) (character : Char) : List Char :=
  match character with
  | '\x08' => ['\\', 'b']
  | '\t' => ['\\', 't']
  | '\n' => if lines then ['\n'] else ['\\', 'n']
  | '\x0c' => ['\\', 'f']
  | '\r' => ['\\', 'r']
  | '\\' => ['\\', '\\']
  | _ =>
      if isControl character then
        ['\\', 'u', '0', '0', hexDigitUpper (character.toNat / 16),
          hexDigitUpper (character.toNat % 16)]
      else [character]

/-- The inside of a string between three double quotes: every third quote of a run is escaped.
The first argument is the number of quotes right before. -/
def insideBasicLines (quotes : Nat) : List Char → List Char
  | [] => []
  | '"' :: rest =>
      if quotes = 2 then '\\' :: '"' :: insideBasicLines 0 rest
      else '"' :: insideBasicLines (quotes + 1) rest
  | character :: rest => escapeBasic true character ++ insideBasicLines 0 rest

def insideBasic (characters : List Char) : List Char :=
  characters.flatMap fun character =>
    if character == '"' then ['\\', '"'] else escapeBasic false character

inductive TextForm where
  | basic
  | literal
  | basicLines
  | literalLines
  deriving DecidableEq, Repr

def TextForm.ofValue (characters : List Char) : TextForm :=
  let hasControl := characters.any isControl
  let hasLine := characters.contains '\n'
  let hasBackslash := characters.contains '\\'
  if !hasControl && !hasBackslash && !characters.contains '"' && !hasLine then .basic
  else if !hasControl && !characters.contains '\'' && !hasLine then .literal
  else if !hasControl && !hasBackslash && longestRun '"' characters < 3 then .basicLines
  else if !hasControl && longestRun '\'' characters < 3 then .literalLines
  else if hasLine then .basicLines
  else .basic

/-- The text in a form.  A text with line feeds begins on a line of its own. -/
def TextForm.write (form : TextForm) (characters : List Char) : List Char :=
  let start := if characters.contains '\n' then ['\n'] else []
  match form with
  | .basic => '"' :: insideBasic characters ++ ['"']
  | .literal => '\'' :: characters ++ ['\'']
  | .basicLines => ['"', '"', '"'] ++ start ++ insideBasicLines 0 characters ++ ['"', '"', '"']
  | .literalLines => ['\'', '\'', '\''] ++ start ++ characters ++ ['\'', '\'', '\'']

def writeText (text : String) : String :=
  String.ofList ((TextForm.ofValue text.toList).write text.toList)

def isPlainKeyCharacter (character : Char) : Bool :=
  character.isAlphanum || character == '_' || character == '-'

def writeKey (key : String) : String :=
  let characters := key.toList
  let hasControl := characters.any fun character => isControl character || character == '\n'
  String.ofList
    (if !characters.isEmpty && characters.all isPlainKeyCharacter then characters
    else if !hasControl && !characters.contains '"' && !characters.contains '\\' then
      TextForm.basic.write characters
    else if !hasControl && !characters.contains '\'' then TextForm.literal.write characters
    else TextForm.basic.write characters)

end Telemetry.Toml
