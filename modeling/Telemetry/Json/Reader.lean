import Telemetry.Json.Basic
import Telemetry.Number.Reading
import Telemetry.Text.Digits
/-!
Reading JSON text.

The text is first cut into tokens; each token takes at least one character, so the cutting
ends.  The tokens are then put together on a stack of unfinished lists and objects, one token
at a time.
-/

namespace Telemetry.Json

open Telemetry.Text Telemetry.Number

inductive Token where
  | openList
  | closeList
  | openObject
  | closeObject
  | comma
  | colon
  | scalar (value : Json)
  deriving Inhabited

def isSpace (character : Char) : Bool :=
  character == ' ' || character == '\t' || character == '\n' || character == '\r'

def hexUnit? (first second third fourth : Char) : Option Nat := do
  return ((← hexValue? first) * 16 + (← hexValue? second)) * 256 +
    ((← hexValue? third) * 16 + (← hexValue? fourth))

def escaped? : Char → Option Char
  | '"' => some '"'
  | '\\' => some '\\'
  | '/' => some '/'
  | 'b' => some '\x08'
  | 'f' => some '\x0c'
  | 'n' => some '\n'
  | 'r' => some '\r'
  | 't' => some '\t'
  | _ => none

def joinUnits? (unit : Nat) (next : Option Nat) : Option (Char × Bool) :=
  if 0xD800 ≤ unit ∧ unit < 0xDC00 then
    match next with
    | some low =>
        if 0xDC00 ≤ low ∧ low < 0xE000 then
          some (Char.ofNat (0x10000 + (unit - 0xD800) * 0x400 + (low - 0xDC00)), true)
        else none
    | none => none
  else if 0xDC00 ≤ unit ∧ unit < 0xE000 then none
  else some (Char.ofNat unit, false)

/-- Reads the inside of a string up to the closing quote; gives the characters and the rest. -/
def readString : List Char → Option (List Char × List Char)
  | [] => none
  | '"' :: rest => some ([], rest)
  | '\\' :: 'u' :: first :: second :: third :: fourth ::
      '\\' :: 'u' :: fifth :: sixth :: seventh :: eighth :: rest =>
      match hexUnit? first second third fourth with
      | none => none
      | some unit =>
          match joinUnits? unit (hexUnit? fifth sixth seventh eighth) with
          | none => none
          | some (character, true) =>
              (readString rest).map fun (content, after) => (character :: content, after)
          | some (character, false) =>
              (readString ('\\' :: 'u' :: fifth :: sixth :: seventh :: eighth :: rest)).map
                fun (content, after) => (character :: content, after)
  | '\\' :: 'u' :: first :: second :: third :: fourth :: rest =>
      match hexUnit? first second third fourth with
      | none => none
      | some unit =>
          match joinUnits? unit none with
          | none => none
          | some (character, _) =>
              (readString rest).map fun (content, after) => (character :: content, after)
  | '\\' :: letter :: rest =>
      match escaped? letter with
      | none => none
      | some character =>
          (readString rest).map fun (content, after) => (character :: content, after)
  | character :: rest =>
      if character.toNat < 0x20 then none
      else (readString rest).map fun (content, after) => (character :: content, after)

theorem rest_of_prepended {reading : Option (List Char × List Char)} {character : Char}
    {content rest : List Char}
    (read : (reading.map fun (content, after) => (character :: content, after)) =
      some (content, rest)) :
    ∃ inner, reading = some (inner, rest) := by
  obtain ⟨⟨inner, after⟩, found, same⟩ := Option.map_eq_some_iff.mp read
  cases same
  exact ⟨inner, found⟩

theorem readString_length {characters content rest : List Char}
    (read : readString characters = some (content, rest)) : rest.length < characters.length := by
  fun_induction readString characters generalizing content rest with
  | case1 | case3 | case4 | case7 | case8 | case10 | case12 => cases read
  | case2 =>
      cases read
      exact Nat.lt_succ_self _
  | case5 | case6 | case9 | case11 | case13 =>
      rename_i ih
      obtain ⟨inner, found⟩ := rest_of_prepended read
      have shorter := ih found
      simp only [List.length_cons] at shorter ⊢
      omega

def isNumberCharacter (character : Char) : Bool :=
  isDecimalDigit character || character == '.' || character == '-' || character == '+' ||
    character == 'e' || character == 'E'

def takeDigits? (characters : List Char) : Option (List Char × List Char) :=
  let digits := characters.takeWhile isDecimalDigit
  if digits.isEmpty then none else some (digits, characters.dropWhile isDecimalDigit)

def finite? (value : Float) : Option Json := if value.isFinite then some (.decimal value) else none

/-- An integer if it fits a word, signed or not; minus zero and all others are decimals. -/
def ofInteger (negative : Bool) (magnitude : Nat) : Option Json :=
  if negative then
    if magnitude ≠ 0 ∧ magnitude ≤ signedLimit then some (.integer (-(magnitude : Int)))
    else finite? (-(nearestFloat magnitude 0))
  else if magnitude < wordLimit then some (.integer magnitude)
  else finite? (nearestFloat magnitude 0)

def readNumber? (characters : List Char) : Option Json := do
  let (negative, unsigned) :=
    match characters with
    | '-' :: rest => (true, rest)
    | _ => (false, characters)
  let (whole, afterWhole) ← takeDigits? unsigned
  if whole.head? = some '0' ∧ whole.length ≠ 1 then none
  let (fraction, afterFraction) ←
    match afterWhole with
    | '.' :: rest => (takeDigits? rest).map fun (digits, after) => (some digits, after)
    | _ => some (none, afterWhole)
  let (power, afterPower) : Option Int × List Char ←
    match afterFraction with
    | letter :: rest =>
        if letter == 'e' || letter == 'E' then
          let (down, digits) :=
            match rest with
            | '-' :: more => (true, more)
            | '+' :: more => (false, more)
            | _ => (false, rest)
          (takeDigits? digits).map fun (found, after) =>
            let size : Int := decimalNumber found
            (some (if down then -size else size), after)
        else some (none, afterFraction)
    | [] => some (none, afterFraction)
  if !afterPower.isEmpty then none
  match fraction, power with
  | none, none => ofInteger negative (decimalNumber whole)
  | _, _ =>
      let digits := fraction.getD []
      let magnitude := nearestFloat (decimalNumber (whole ++ digits)) (power.getD 0 - digits.length)
      finite? (if negative then -magnitude else magnitude)

def readWordToken? (word : List Char) : Option Json :=
  match String.ofList word with
  | "null" => some .null
  | "true" => some (.boolean true)
  | "false" => some (.boolean false)
  | _ => none

def punctuation? : Char → Option Token
  | '[' => some .openList
  | ']' => some .closeList
  | '\x7b' => some .openObject
  | '\x7d' => some .closeObject
  | ',' => some .comma
  | ':' => some .colon
  | _ => none

def tokens (characters : List Char) : Option (List Token) :=
  match characters with
  | [] => some []
  | character :: rest =>
      if isSpace character then tokens rest
      else if character = '"' then
        match found : readString rest with
        | none => none
        | some (content, after) =>
            have : after.length < rest.length := readString_length found
            (tokens after).map (.scalar (.text (String.ofList content)) :: ·)
      else
        match punctuation? character with
        | some token => (tokens rest).map (token :: ·)
        | none =>
            if isNumberCharacter character then
              match readNumber? (character :: rest.takeWhile isNumberCharacter) with
              | none => none
              | some value =>
                  (tokens (rest.dropWhile isNumberCharacter)).map (.scalar value :: ·)
            else
              match readWordToken? (character :: rest.takeWhile Char.isAlpha) with
              | none => none
              | some value => (tokens (rest.dropWhile Char.isAlpha)).map (.scalar value :: ·)
termination_by characters.length
decreasing_by
  all_goals simp only [List.length_cons]
  · omega
  · omega
  · omega
  · have := (List.dropWhile_sublist isNumberCharacter (l := rest)).length_le
    omega
  · have := (List.dropWhile_sublist Char.isAlpha (l := rest)).length_le
    omega

/-- An unfinished list or object.  Items stand in reverse order. -/
inductive Frame where
  | emptyList
  | afterItem (items : List Json)
  | beforeItem (items : List Json)
  | emptyObject
  | afterEntry (entries : List (String × Json))
  | beforeName (entries : List (String × Json))
  | afterName (entries : List (String × Json)) (name : String)
  | beforeValue (entries : List (String × Json)) (name : String)

structure Assembly where
  frames : List Frame
  result : Option Json

def Assembly.addValue (assembly : Assembly) (value : Json) : Option Assembly :=
  match assembly.frames, assembly.result with
  | [], none => some ⟨[], some value⟩
  | .emptyList :: outer, none => some ⟨.afterItem [value] :: outer, none⟩
  | .beforeItem items :: outer, none => some ⟨.afterItem (value :: items) :: outer, none⟩
  | .emptyObject :: outer, none =>
      match value with
      | .text name => some ⟨.afterName [] name :: outer, none⟩
      | _ => none
  | .beforeName entries :: outer, none =>
      match value with
      | .text name => some ⟨.afterName entries name :: outer, none⟩
      | _ => none
  | .beforeValue entries name :: outer, none =>
      some ⟨.afterEntry ((name, value) :: entries) :: outer, none⟩
  | _, _ => none

def Assembly.takesValue (assembly : Assembly) : Bool :=
  match assembly.frames, assembly.result with
  | [], none | .emptyList :: _, none | .beforeItem _ :: _, none | .beforeValue _ _ :: _, none =>
      true
  | _, _ => false

def Assembly.step (assembly : Assembly) (token : Token) : Option Assembly :=
  match token, assembly.frames with
  | .scalar value, _ => assembly.addValue value
  | .openList, frames => if assembly.takesValue then some ⟨.emptyList :: frames, none⟩ else none
  | .openObject, frames =>
      if assembly.takesValue then some ⟨.emptyObject :: frames, none⟩ else none
  | .closeList, .emptyList :: outer => Assembly.addValue ⟨outer, none⟩ (.list [])
  | .closeList, .afterItem items :: outer => Assembly.addValue ⟨outer, none⟩ (.list items.reverse)
  | .closeObject, .emptyObject :: outer => Assembly.addValue ⟨outer, none⟩ (.object [])
  | .closeObject, .afterEntry entries :: outer =>
      Assembly.addValue ⟨outer, none⟩ (ofEntries entries.reverse)
  | .comma, .afterItem items :: outer => some ⟨.beforeItem items :: outer, none⟩
  | .comma, .afterEntry entries :: outer => some ⟨.beforeName entries :: outer, none⟩
  | .colon, .afterName entries name :: outer => some ⟨.beforeValue entries name :: outer, none⟩
  | _, _ => none

def read? (text : String) : Option Json := do
  let assembly ← (← tokens text.toList).foldlM Assembly.step ⟨[], none⟩
  assembly.result

end Telemetry.Json
