/-!
White space in text.

A character is blank when it has the Unicode property White_Space.  `trim` removes
blank characters at both ends, and a text is blank when nothing is left.
-/

namespace Telemetry.Text

/-- The property White_Space: controls 9 to 13, the spaces, and the separators of lines and
paragraphs. -/
def isBlank (character : Char) : Bool :=
  let code := character.toNat
  (9 ≤ code && code ≤ 13) || code == 0x20 || code == 0x85 || code == 0xA0 || code == 0x1680 ||
    (0x2000 ≤ code && code ≤ 0x200A) || code == 0x2028 || code == 0x2029 || code == 0x202F ||
    code == 0x205F || code == 0x3000

def dropEndWhile {α : Type} (test : α → Bool) (items : List α) : List α :=
  (items.reverse.dropWhile test).reverse

def trim (text : String) : String :=
  String.ofList (dropEndWhile isBlank (text.toList.dropWhile isBlank))

def IsBlankText (text : String) : Prop := ∀ character ∈ text.toList, isBlank character = true

instance (text : String) : Decidable (IsBlankText text) :=
  List.decidableBAll (fun character => isBlank character = true) text.toList

def trimEndOf (character : Char) (text : String) : String :=
  String.ofList (dropEndWhile (· == character) text.toList)

def dropStart? : List Char → List Char → Option (List Char)
  | [], rest => some rest
  | expected :: more, character :: rest =>
      if expected = character then dropStart? more rest else none
  | _ :: _, [] => none

def splitFirst? {α : Type} [DecidableEq α] (separator : α) : List α → Option (List α × List α)
  | [] => none
  | item :: rest =>
      if item = separator then some ([], rest)
      else (splitFirst? separator rest).map fun (before, after) => (item :: before, after)

def splitAll {α : Type} [DecidableEq α] (separator : α) : List α → List (List α)
  | [] => [[]]
  | item :: rest =>
      if item = separator then [] :: splitAll separator rest
      else
        match splitAll separator rest with
        | [] => [[item]]
        | piece :: pieces => (item :: piece) :: pieces

end Telemetry.Text
