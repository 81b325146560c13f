import Telemetry.Proofs.TypeName.Path

/-! Types as terms, and their short names. The full name of a type is the text of its term. The
short name of a path is its last identifier, whatever its arguments are; that of a tuple, a slice or
an array is the text of the same term with every path in it cut to its last identifier. -/

namespace Telemetry.TypeName

open Telemetry.Text

structure Identifier where
  characters : List Char
  nonempty : characters ≠ []
  plain : ∀ character ∈ characters, isAlphanumeric character = true ∨ character = '_'

inductive Sigil where
  | reference
  | mutableReference
  | mutablePointer
  | constantPointer
  deriving DecidableEq

def Sigil.text : Sigil → List Char
  | .reference => ['&']
  | .mutableReference => ['&', 'm', 'u', 't', ' ']
  | .mutablePointer => ['*', 'm', 'u', 't', ' ']
  | .constantPointer => ['*', 'c', 'o', 'n', 's', 't', ' ']

inductive TypeTerm where
  | path (qualifiers : List Identifier) (last : Identifier) (arguments : List TypeTerm)
  | tuple (items : List TypeTerm)
  | slice (item : TypeTerm)
  | array (item : TypeTerm) (length : Nat)
  | behind (sigil : Sigil) (target : TypeTerm)

/-- The identifiers of a path without arguments, with pairs of colons between them. -/
def pathText (qualifiers : List Identifier) (last : Identifier) : List Char :=
  qualifiers.flatMap (fun qualifier => qualifier.characters ++ [':', ':']) ++ last.characters

def separated (pieces : List (List Char)) : List Char := List.intercalate [',', ' '] pieces

def argumentsText (pieces : List (List Char)) : List Char :=
  if pieces = [] then [] else '<' :: separated pieces ++ ['>']

def tupleText (pieces : List (List Char)) : List Char :=
  '(' :: separated pieces ++ (if pieces.length = 1 then [','] else []) ++ [')']

namespace TypeTerm

mutual

def text : TypeTerm → List Char
  | path qualifiers last arguments => pathText qualifiers last ++ argumentsText (texts arguments)
  | tuple items => tupleText (texts items)
  | slice item => '[' :: text item ++ [']']
  | array item length => '[' :: text item ++ [';', ' '] ++ Nat.toDigits 10 length ++ [']']
  | behind sigil target => sigil.text ++ text target

def texts : List TypeTerm → List (List Char)
  | [] => []
  | item :: rest => text item :: texts rest

end

mutual

def reduced : TypeTerm → TypeTerm
  | path _ last arguments => path [] last (allReduced arguments)
  | tuple items => tuple (allReduced items)
  | slice item => slice (reduced item)
  | array item length => array (reduced item) length
  | behind sigil target => behind sigil (reduced target)

def allReduced : List TypeTerm → List TypeTerm
  | [] => []
  | item :: rest => reduced item :: allReduced rest

end

def fullName (term : TypeTerm) : String := String.ofList term.text

/-- Terms by induction: what holds of all arguments or items holds of the whole. -/
@[induction_eliminator]
theorem induct {motive : TypeTerm → Prop}
    (path : ∀ qualifiers last arguments, (∀ argument ∈ arguments, motive argument) →
      motive (.path qualifiers last arguments))
    (tuple : ∀ items, (∀ item ∈ items, motive item) → motive (.tuple items))
    (slice : ∀ item, motive item → motive (.slice item))
    (array : ∀ item length, motive item → motive (.array item length))
    (behind : ∀ sigil target, motive target → motive (.behind sigil target)) (term : TypeTerm) :
    motive term :=
  @TypeTerm.rec motive (fun items => ∀ item ∈ items, motive item) path tuple slice array behind
    (List.forall_mem_nil _) (fun _ _ first rest => List.forall_mem_cons.mpr ⟨first, rest⟩) term

end TypeTerm

variable {character : Char}

theorem isPathCharacter_of_plain (plain : isAlphanumeric character = true ∨ character = '_') :
    isPathCharacter character = true := by
  unfold isPathCharacter
  rcases plain with alphanumeric | underscore
  · rw [alphanumeric]
    rfl
  · rw [underscore]
    decide

theorem isAlphanumeric_of_isDigit (digit : character.isDigit = true) :
    isAlphanumeric character = true := by
  have small : character.toNat < 128 := by
    simp only [Char.isDigit, Bool.and_eq_true, decide_eq_true_eq] at digit
    exact Nat.lt_of_le_of_lt (UInt32.le_iff_toNat_le.mp digit.2) (by decide)
  unfold isAlphanumeric
  rw [if_pos small, Char.isAlphanum, digit, Bool.or_true]

namespace Identifier

theorem inside (identifier : Identifier) :
    ∀ character ∈ identifier.characters, isPathCharacter character = true :=
  fun character among => isPathCharacter_of_plain (identifier.plain character among)

theorem colon_absent (identifier : Identifier) : ':' ∉ identifier.characters := by
  intro among
  exact absurd (identifier.plain ':' among) (by decide)

def ofWord (word : List Char) (nonempty : word ≠ []) (plain : word.all isAlphanumeric = true) :
    Identifier where
  characters := word
  nonempty := nonempty
  plain character among := .inl (List.all_eq_true.mp plain character among)

def ofNat (number : Nat) : Identifier :=
  ofWord (Nat.toDigits 10 number) Nat.toDigits_ne_nil <| List.all_eq_true.mpr fun _ among =>
    isAlphanumeric_of_isDigit (Nat.isDigit_of_mem_toDigits (by decide) (by decide) among)

end Identifier

theorem pathText_inside (qualifiers : List Identifier) (last : Identifier) :
    ∀ character ∈ pathText qualifiers last, isPathCharacter character = true := by
  intro character among
  rcases List.mem_append.mp among with first | behind
  · obtain ⟨qualifier, _, within⟩ := List.mem_flatMap.mp first
    rcases List.mem_append.mp within with own | colon
    · exact qualifier.inside character own
    · rw [List.mem_cons, List.mem_singleton, or_self] at colon
      rw [colon]
      decide
  · exact last.inside character behind

theorem lastSegment_pathText (qualifiers : List Identifier) (last : Identifier) :
    lastSegment (pathText qualifiers last) = last.characters := by
  unfold lastSegment
  rcases List.eq_nil_or_concat qualifiers with none | ⟨front, qualifier, split⟩
  · rw [none]
    show (afterLastColons? last.characters).getD last.characters = _
    rw [afterLastColons?_absent last.colon_absent]
    rfl
  · have colons : pathText qualifiers last =
        (front.flatMap (fun qualifier => qualifier.characters ++ [':', ':']) ++
          qualifier.characters) ++ ':' :: ':' :: last.characters := by
      rw [pathText, split]
      simp
    rw [colons, afterLastColons?_colons _ last.colon_absent]
    rfl

variable {full cut : List Char}

theorem Reduces.keyword (reduces : Reduces full cut) {word : List Char}
    (inside : ∀ character ∈ word, isPathCharacter character = true)
    (whole : lastSegment word = word) :
    Reduces (word ++ ' ' :: full) (word ++ ' ' :: cut) := by
  have keyword := Reduces.word inside
  rw [whole] at keyword
  exact keyword.append (endsPath_cons rfl full) (.mark rfl reduces)

theorem Reduces.sigil (reduces : Reduces full cut) (sigil : Sigil) :
    Reduces (sigil.text ++ full) (sigil.text ++ cut) := by
  have mutable : Reduces (['m', 'u', 't'] ++ ' ' :: full) (['m', 'u', 't'] ++ ' ' :: cut) :=
    reduces.keyword (List.all_eq_true.mp rfl) rfl
  have constant : Reduces (['c', 'o', 'n', 's', 't'] ++ ' ' :: full)
      (['c', 'o', 'n', 's', 't'] ++ ' ' :: cut) := reduces.keyword (List.all_eq_true.mp rfl) rfl
  cases sigil with
  | reference => exact .mark rfl reduces
  | mutableReference => exact .mark rfl mutable
  | mutablePointer => exact .mark rfl mutable
  | constantPointer => exact .mark rfl constant

theorem separated_cons_cons (piece next : List Char) (rest : List (List Char)) :
    separated (piece :: next :: rest) = piece ++ ',' :: ' ' :: separated (next :: rest) := by
  unfold separated
  rw [List.intercalate_cons_cons, List.append_assoc]
  rfl

theorem reduces_separated {items : List TypeTerm}
    (each : ∀ item ∈ items, Reduces item.text item.reduced.text) :
    Reduces (separated (TypeTerm.texts items))
      (separated (TypeTerm.texts (TypeTerm.allReduced items))) := by
  induction items with
  | nil => exact .nil
  | cons item rest ih =>
      rw [List.forall_mem_cons] at each
      cases rest with
      | nil =>
          show Reduces (separated [item.text]) (separated [item.reduced.text])
          unfold separated
          rw [List.intercalate_singleton, List.intercalate_singleton]
          exact each.1
      | cons next others =>
          show Reduces (separated (item.text :: next.text :: TypeTerm.texts others))
            (separated (item.reduced.text :: next.reduced.text ::
              TypeTerm.texts (TypeTerm.allReduced others)))
          rw [separated_cons_cons, separated_cons_cons]
          exact .append each.1 (endsPath_cons rfl _) (.mark rfl (.mark rfl (ih each.2)))

theorem reduces_closed (reduces : Reduces full cut) {closing : Char}
    (plain : isPathCharacter closing = false) : Reduces (full ++ [closing]) (cut ++ [closing]) :=
  .append reduces (endsPath_cons plain []) (.mark plain .nil)

theorem endsPath_argumentsText (pieces : List (List Char)) : EndsPath (argumentsText pieces) := by
  unfold argumentsText
  by_cases none : pieces = []
  · rw [if_pos none]
    exact endsPath_nil
  · rw [if_neg none]
    exact endsPath_cons rfl _

theorem reduces_argumentsText {arguments : List TypeTerm}
    (each : ∀ argument ∈ arguments, Reduces argument.text argument.reduced.text) :
    Reduces (argumentsText (TypeTerm.texts arguments))
      (argumentsText (TypeTerm.texts (TypeTerm.allReduced arguments))) := by
  cases arguments with
  | nil => exact .nil
  | cons first others => exact reduces_closed (.mark rfl (reduces_separated each)) rfl

theorem length_texts_allReduced (items : List TypeTerm) :
    (TypeTerm.texts (TypeTerm.allReduced items)).length = (TypeTerm.texts items).length := by
  induction items with
  | nil => rfl
  | cons item rest ih => exact congrArg (· + 1) ih

theorem reduces_tupleText {items : List TypeTerm}
    (each : ∀ item ∈ items, Reduces item.text item.reduced.text) :
    Reduces (tupleText (TypeTerm.texts items))
      (tupleText (TypeTerm.texts (TypeTerm.allReduced items))) := by
  unfold tupleText
  rw [length_texts_allReduced]
  apply reduces_closed _ rfl
  refine .append (.mark rfl (reduces_separated each)) ?_ ?_
  · split
    · exact endsPath_cons rfl []
    · exact endsPath_nil
  · split
    · exact .mark rfl .nil
    · exact .nil

/-- Reading the text of a term path by path cuts exactly the paths of the term. -/
theorem reduces_text (term : TypeTerm) : Reduces term.text term.reduced.text := by
  induction term with
  | path qualifiers last arguments each =>
      have path := Reduces.word (pathText_inside qualifiers last)
      rw [lastSegment_pathText] at path
      exact .append path (endsPath_argumentsText _) (reduces_argumentsText each)
  | tuple items each => exact reduces_tupleText each
  | slice item ih => exact reduces_closed (.mark rfl ih) rfl
  | array item length ih =>
      have digits : Reduces (Nat.toDigits 10 length)
          (lastSegment (Nat.toDigits 10 length)) := .word (Identifier.ofNat length).inside
      have whole : lastSegment (Nat.toDigits 10 length) = Nat.toDigits 10 length :=
        lastSegment_pathText [] (Identifier.ofNat length)
      rw [whole] at digits
      have spaced : Reduces ([';', ' '] ++ Nat.toDigits 10 length)
          ([';', ' '] ++ Nat.toDigits 10 length) := .mark rfl (.mark rfl digits)
      have opened : Reduces ('[' :: item.text) ('[' :: item.reduced.text) := .mark rfl ih
      have ends : EndsPath ([';', ' '] ++ Nat.toDigits 10 length) := endsPath_cons rfl _
      have sized := opened.append ends spaced
      rw [← List.append_assoc, ← List.append_assoc] at sized
      exact reduces_closed sized rfl
  | behind sigil target ih => exact ih.sigil sigil

def shortForm (base : List Char) : List Char :=
  if isCompound base then reducePaths base else lastSegment (base.takeWhile (· != '<'))

theorem short_ofList (text : List Char) :
    short (String.ofList text) = String.ofList (shortForm (withoutSigils text)) := by
  unfold short
  rw [String.toList_ofList]
  rfl

theorem pathText_ne_nil (qualifiers : List Identifier) (last : Identifier) :
    pathText qualifiers last ≠ [] := by
  intro none
  exact last.nonempty (List.append_eq_nil_iff.mp none).2

theorem head_pathText (qualifiers : List Identifier) (last : Identifier) (rest : List Char) :
    ∃ first more, pathText qualifiers last ++ rest = first :: more ∧
      isPathCharacter first = true := by
  have inside := pathText_inside qualifiers last
  obtain ⟨first, more, split⟩ := List.exists_cons_of_ne_nil (pathText_ne_nil qualifiers last)
  rw [split] at inside ⊢
  exact ⟨first, more ++ rest, rfl, inside first List.mem_cons_self⟩

theorem head_argumentsText (pieces : List (List Char)) :
    (argumentsText pieces).head? ≠ some ' ' := by
  unfold argumentsText
  by_cases none : pieces = []
  · rw [if_pos none]
    exact (Option.some_ne_none _).symm
  · rw [if_neg none]
    show some '<' ≠ some ' '
    decide

theorem withoutSigils_path (qualifiers : List Identifier) (last : Identifier)
    (pieces : List (List Char)) :
    withoutSigils (pathText qualifiers last ++ argumentsText pieces) =
      pathText qualifiers last ++ argumentsText pieces := by
  apply withoutSigils_stays
  · obtain ⟨first, more, split, inside⟩ := head_pathText qualifiers last (argumentsText pieces)
    rw [split]
    intro character same
    rw [← Option.some.inj same]
    exact isMark_of_path inside
  · intro starts
    exact head_argumentsText pieces (blank_of_mutWord (pathText_inside qualifiers last)
      (endsPath_argumentsText pieces) starts)

theorem isCompound_path (qualifiers : List Identifier) (last : Identifier) (rest : List Char) :
    isCompound (pathText qualifiers last ++ rest) = false := by
  obtain ⟨first, more, split, inside⟩ := head_pathText qualifiers last rest
  rw [split]
  exact isCompound_of_path inside

theorem takeWhile_path (qualifiers : List Identifier) (last : Identifier)
    (pieces : List (List Char)) :
    (pathText qualifiers last ++ argumentsText pieces).takeWhile (· != '<') =
      pathText qualifiers last := by
  have inside : ∀ character ∈ pathText qualifiers last, (character != '<') = true := by
    intro character among
    rw [bne_iff_ne]
    exact ne_of_path (pathText_inside qualifiers last character among) rfl
  rw [List.takeWhile_append_of_pos inside]
  unfold argumentsText
  by_cases none : pieces = []
  · rw [if_pos none]
    exact List.append_nil _
  · rw [if_neg none]
    exact List.append_nil _

theorem short_path (qualifiers : List Identifier) (last : Identifier) (arguments : List TypeTerm) :
    short (TypeTerm.path qualifiers last arguments).fullName =
      String.ofList last.characters := by
  unfold TypeTerm.fullName TypeTerm.text
  rw [short_ofList, withoutSigils_path, shortForm, isCompound_path, takeWhile_path,
    lastSegment_pathText]
  rfl

theorem short_compound {term : TypeTerm} (compound : isCompound term.text = true) :
    short term.fullName = term.reduced.fullName := by
  unfold TypeTerm.fullName
  rw [short_ofList, withoutSigils_compound compound, shortForm, if_pos compound,
    (reduces_text term).reducePaths]

/-- The short name of a path is its last identifier; that of a tuple, a slice or an array is the
text of the same term with every path in it cut to its last identifier. -/
theorem short_fullName :
    (∀ qualifiers last arguments, short (TypeTerm.path qualifiers last arguments).fullName =
        String.ofList last.characters) ∧
      (∀ items, short (TypeTerm.tuple items).fullName = (TypeTerm.tuple items).reduced.fullName) ∧
      (∀ item, short (TypeTerm.slice item).fullName = (TypeTerm.slice item).reduced.fullName) ∧
      ∀ item length, short (TypeTerm.array item length).fullName =
        (TypeTerm.array item length).reduced.fullName := by
  refine ⟨short_path, ?_, ?_, ?_⟩
  · intro items
    exact short_compound rfl
  · intro item
    exact short_compound rfl
  · intro item length
    exact short_compound rfl

example : short "([alloc::vec::Vec<app::Card>; 3], &mut u8)" = "([Vec<Card>; 3], &mut u8)" := by
  decide +kernel

end Telemetry.TypeName
