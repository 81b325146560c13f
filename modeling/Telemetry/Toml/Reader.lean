import Telemetry.Toml.Scalar
import Telemetry.Toml.Table
/-!
Reading TOML documents.

A document is read line by line.  Values are nested to a limited depth, and the same limit holds
for the parts of a key.
-/

namespace Telemetry.Toml

open Telemetry.Text

/-- Values are nested, and keys have parts, up to this many times. -/
def depthLimit : Nat := 79

def isLineBlank (character : Char) : Bool := character == ' ' || character == '\t'

def skipBlanks (characters : List Char) : List Char := characters.dropWhile isLineBlank

def isCommentCharacter (character : Char) : Bool :=
  character == '\t' || (0x20 ≤ character.toNat && character.toNat != 0x7F)

/-- The characters without blanks, line feeds and comments in front.  The flag says whether the
reading stands inside a comment. -/
def skipGap (inComment : Bool) : List Char → List Char
  | [] => []
  | character :: rest =>
      if inComment then
        if character == '\n' then skipGap false rest
        else if isCommentCharacter character then skipGap true rest
        else character :: rest
      else if isGap character then skipGap false rest
      else if character == '#' then skipGap true rest
      else character :: rest

def isBareCharacter (character : Char) : Bool :=
  character.isAlphanum || character == '_' || character == '-'

def readKeyPart (characters : List Char) : Scan String :=
  match readLineString characters with
  | some found => some found
  | none =>
      let bare := characters.takeWhile isBareCharacter
      if bare.isEmpty then none
      else some (String.ofList bare, characters.dropWhile isBareCharacter)

def readKeyParts : Nat → List Char → Option (List String × List Char)
  | 0, _ => none
  | limit + 1, characters => do
      let (part, rest) ← readKeyPart characters
      match skipBlanks rest with
      | '.' :: more =>
          let (parts, after) ← readKeyParts limit (skipBlanks more)
          return (part :: parts, after)
      | after => return ([part], after)

def readKey (characters : List Char) : Option ((List String × String) × List Char) := do
  let (parts, rest) ← readKeyParts depthLimit characters
  let last ← parts.getLast?
  return ((parts.dropLast, last), rest)

/-- Reads the items of a list up to the closing bracket.  Each item takes at least one
character, so as many steps as there are characters suffice. -/
def readItems (readValue : List Char → Scan Toml) :
    Nat → List Char → Option (List Toml × List Char)
  | 0, _ => none
  | steps + 1, characters =>
      match skipGap false characters with
      | ']' :: rest => some ([], rest)
      | start => do
          let (item, rest) ← readValue start
          match skipGap false rest with
          | ']' :: after => return ([item], after)
          | ',' :: more =>
              let (items, after) ← readItems readValue steps more
              return (item :: items, after)
          | _ => none

def readPair (readValue : List Char → Scan Toml) (characters : List Char) :
    Option (((List String × String) × Toml) × List Char) := do
  let (key, afterKey) ← readKey characters
  match afterKey with
  | '=' :: rest =>
      let (value, after) ← readValue (skipBlanks rest)
      return ((key, value), skipBlanks after)
  | _ => none

def readPairs (readValue : List Char → Scan Toml) :
    Nat → Scope → List Char → Option (Scope × List Char)
  | 0, _, _ => none
  | steps + 1, scope, characters => do
      let (((path, name), value), rest) ← readPair readValue (skipBlanks characters)
      let grown ← scope.insert? path name value
      match rest with
      | '\x7d' :: after => return (grown, after)
      | ',' :: more => readPairs readValue steps grown more
      | _ => none

def readValue : Nat → List Char → Scan Toml
  | depth, characters =>
      match characters with
      | '[' :: rest =>
          match depth with
          | 0 => none
          | inner + 1 =>
              (readItems (readValue inner) characters.length rest).map fun (items, after) =>
                (.list items, after)
      | '\x7b' :: rest =>
          match depth with
          | 0 => none
          | inner + 1 =>
              match skipBlanks rest with
              | '\x7d' :: after => some (.table [], after)
              | start =>
                  (readPairs (readValue inner) characters.length (Scope.named []) start).map
                    fun (scope, after) => (scope.toNode.toToml, after)
      | '"' :: _ | '\'' :: _ =>
          (readString characters).map fun (contents, after) => (.text contents, after)
      | _ => readWord characters

inductive Section where
  | document
  | table (path : List String) (name : String)
  | item (path : List String) (name : String)

structure Draft where
  finished : Scope
  current : Section
  scope : Scope

def Draft.close? (draft : Draft) : Option Scope :=
  match draft.current with
  | .document => some draft.scope
  | .table path name => draft.finished.closeTable? path name draft.scope.entries
  | .item path name => draft.finished.closeTables? path name draft.scope.entries

def endLine? (characters : List Char) : Option (List Char) :=
  let rest :=
    match skipBlanks characters with
    | '#' :: comment => comment.dropWhile isCommentCharacter
    | others => others
  match rest with
  | [] => some []
  | '\n' :: after => some after
  | _ => none

/-- Reads one line that is not blank; the result is the document and what follows the line. -/
def Draft.readLine (draft : Draft) (characters : List Char) :
    Option (Draft × List Char) :=
  match characters with
  | '[' :: '[' :: rest => do
      let finished ← draft.close?
      let ((path, name), afterKey) ← readKey (skipBlanks rest)
      match afterKey with
      | ']' :: ']' :: afterHeader =>
          let after ← endLine? afterHeader
          let prepared ← finished.openTables? path name
          return (⟨prepared, .item path name, Scope.named []⟩, after)
      | _ => none
  | '[' :: rest => do
      let finished ← draft.close?
      let ((path, name), afterKey) ← readKey (skipBlanks rest)
      match afterKey with
      | ']' :: afterHeader =>
          let after ← endLine? afterHeader
          let (prepared, entries) ← finished.openTable? path name
          return (⟨prepared, .table path name, Scope.named entries⟩, after)
      | _ => none
  | _ => do
      let (((path, name), value), rest) ← readPair (readValue depthLimit) characters
      let after ← endLine? rest
      let scope ← draft.scope.insert? path name value
      return ({ draft with scope }, after)

/-- Reads lines; each takes at least one character, so as many steps as there are characters
suffice. -/
def Draft.readLines : Nat → Draft → List Char → Option Draft
  | 0, draft, characters => if characters.isEmpty then some draft else none
  | steps + 1, draft, characters =>
      match skipBlanks characters with
      | [] => some draft
      | '\n' :: rest => draft.readLines steps rest
      | '#' :: rest => (endLine? ('#' :: rest)).bind (draft.readLines steps)
      | start => (draft.readLine start).bind fun (grown, after) => grown.readLines steps after

def normalizeLines : List Char → List Char
  | [] => []
  | '\r' :: '\n' :: rest => '\n' :: normalizeLines rest
  | character :: rest => character :: normalizeLines rest

def dropMark : List Char → List Char
  | '\uFEFF' :: rest => rest
  | characters => characters

def read? (document : String) : Option (List (String × Toml)) := do
  let characters := normalizeLines (dropMark document.toList)
  let start : Draft := ⟨Scope.named [], .document, Scope.named []⟩
  let draft ← start.readLines characters.length characters
  let finished ← draft.close?
  return entriesToToml finished.entries

end Telemetry.Toml
