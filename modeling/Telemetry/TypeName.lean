import Telemetry.Text.Alphanumeric
import Telemetry.Text.Blank
/-!
Short names of types, for naming screens.

A path such as `app::screens::Reviewer` is named by its last segment, and a generic type by the
path before its arguments.  Tuples, arrays and slices keep their shape, with every path inside
reduced to its last segment.  Marks of references and pointers in front are dropped.
-/

namespace Telemetry.TypeName

open Telemetry.Text

def afterLastColons? : List Char → Option (List Char)
  | [] => none
  | character :: rest =>
      match afterLastColons? rest with
      | some found => some found
      | none =>
          match rest with
          | next :: more => if character = ':' ∧ next = ':' then some more else none
          | [] => none

def lastSegment (path : List Char) : List Char := (afterLastColons? path).getD path

def isPathCharacter (character : Char) : Bool :=
  isAlphanumeric character || character == '_' || character == ':'

/-- Reduces every path in a text to its last segment; the first argument is the path that has
been read so far. -/
def reducePathsFrom (path : List Char) : List Char → List Char
  | [] => lastSegment path
  | character :: rest =>
      if isPathCharacter character then reducePathsFrom (path ++ [character]) rest
      else lastSegment path ++ character :: reducePathsFrom [] rest

def reducePaths (text : List Char) : List Char := reducePathsFrom [] text

def dropRepeated (word text : List Char) : List Char :=
  match dropStart? word text with
  | none => text
  | some rest => if rest.length < text.length then dropRepeated word rest else text
termination_by text.length

def withoutSigils (text : List Char) : List Char :=
  dropRepeated ['m', 'u', 't', ' ']
    (text.dropWhile fun character => character == '&' || character == '*')

def isCompound : List Char → Bool
  | character :: _ => character == '(' || character == '['
  | [] => false

def short (full : String) : String :=
  let base := withoutSigils full.toList
  String.ofList
    (if isCompound base then reducePaths base else lastSegment (base.takeWhile (· != '<')))

end Telemetry.TypeName
