import Telemetry.Proofs.Delivery.Form
import Telemetry.Toml.Text
import Telemetry.Toml.Writer

/-! Texts in TOML are read back as they were written. Each of the four forms is read up to its
closing mark, whatever follows, and what it cannot hold is never written in it. -/

namespace Telemetry.Toml

open Telemetry.Text

theorem isStringCharacter_of_visible {character : Char} (visible : isControl character = false)
    (noLine : character ≠ '\n') : isStringCharacter character = true := by
  by_cases tab : character = '\t'
  · subst tab
    rfl
  · simp only [isControl, isStringCharacter, Bool.and_eq_false_iff, Bool.or_eq_false_iff,
      decide_eq_false_iff_not, bne_eq_false_iff_eq, noLine, tab, or_false, beq_eq_false_iff_ne,
      Bool.or_eq_true, Bool.and_eq_true, decide_eq_true_eq, bne_iff_ne] at visible ⊢
    exact .inr ⟨by omega, visible.2⟩

/-! ### Escapes -/

def Escape.goOn (read : Escape → List Char → Scan (List Char)) (rest : List Char) :
    Option (Option Char × Escape) → Scan (List Char)
  | none => none
  | some (none, after) => read after rest
  | some (some found, after) => Scan.push found (read after rest)

structure ReadsEscapes (read : Escape → List Char → Scan (List Char)) : Prop where
  opens : ∀ (character : Char) (rest : List Char), isGap character = false →
    read .closed ('\\' :: character :: rest) = read .started (character :: rest)
  inside : ∀ (escape : Escape) (character : Char) (rest : List Char), escape.isClosed = false →
    isStringCharacter character = true →
    read escape (character :: rest) = Escape.goOn read rest (escape.next? character)
  plain : ∀ (character : Char) (rest : List Char), isStringCharacter character = true →
    character ≠ '"' → character ≠ '\\' →
    read .closed (character :: rest) = Scan.push character (read .closed rest)

theorem readsEscapes_readBasic : ReadsEscapes readBasic where
  opens character rest _ := by rw [readBasic]; rfl
  inside escape character rest opened known := by
    rw [readBasic]
    simp only [opened, known, Bool.false_and, Bool.not_true, if_false, Bool.false_eq_true]
    cases escape.next? character with
    | none => rfl
    | some found =>
        obtain ⟨result, after⟩ := found
        cases result <;> rfl
  plain character rest known noQuote noBackslash := by
    rw [readBasic]
    simp [Escape.isClosed, Escape.next?, known, noQuote, noBackslash]

theorem readsEscapes_readBasicLines : ReadsEscapes readBasicLines where
  opens character rest solid := by
    rw [readBasicLines]
    simp [Escape.isClosed, solid]
  inside escape character rest opened known := by
    rw [readBasicLines]
    simp only [opened, known, Bool.false_and, Bool.not_true, if_false, Bool.false_eq_true]
    cases escape.next? character with
    | none => rfl
    | some found =>
        obtain ⟨result, after⟩ := found
        cases result <;> rfl
  plain character rest known noQuote noBackslash := by
    rw [readBasicLines]
    simp [Escape.isClosed, Escape.next?, known, noQuote, noBackslash]

theorem hexDigitUpper_inString : ∀ value < 16, isStringCharacter (hexDigitUpper value) = true := by
  decide

namespace ReadsEscapes

variable {read : Escape → List Char → Scan (List Char)} (reads : ReadsEscapes read)
include reads

theorem short {letter character : Char} (rest : List Char) (solid : isGap letter = false)
    (known : isStringCharacter letter = true)
    (means : Escape.started.next? letter = some (some character, .closed)) :
    read .closed ('\\' :: letter :: rest) = Scan.push character (read .closed rest) := by
  rw [reads.opens letter rest solid, reads.inside .started letter rest rfl known, means]
  rfl

theorem code (high low : Nat) (rest : List Char) (highDigit : high < 8) (lowDigit : low < 16) :
    read .closed ('\\' :: 'u' :: '0' :: '0' :: hexDigitUpper high :: hexDigitUpper low :: rest) =
      Scan.push (Char.ofNat (high * 16 + low)) (read .closed rest) := by
  have first := Form.hexValue?_hexDigitUpper high (by omega)
  have second := Form.hexValue?_hexDigitUpper low lowDigit
  have zero : hexValue? '0' = some 0 := rfl
  have small : high * 16 + low < 0xD800 := by omega
  rw [reads.opens _ _ rfl, reads.inside .started _ _ rfl rfl]
  change read (.digits 4 0) _ = _
  rw [reads.inside _ _ _ rfl rfl]
  change read (.digits 3 0) _ = _
  rw [reads.inside _ _ _ rfl rfl]
  change read (.digits 2 0) _ = _
  rw [reads.inside _ _ _ rfl (hexDigitUpper_inString high (by omega))]
  simp only [Escape.next?, first, Option.bind_eq_bind, Option.bind_some, Nat.zero_mul,
    Nat.zero_add]
  change read (.digits 1 high) _ = _
  rw [reads.inside _ _ _ rfl (hexDigitUpper_inString low lowDigit)]
  simp only [Escape.next?, second, Option.bind_eq_bind, Option.bind_some, Nat.le_refl, if_true,
    scalar?, small, true_or]
  rfl

/-- A character is read back from the way it is written between double quotes. -/
theorem escapeBasic (lines : Bool) {character : Char} (rest : List Char)
    (noQuote : character ≠ '"') (noLine : lines = true → character ≠ '\n') :
    read .closed (escapeBasic lines character ++ rest) =
      Scan.push character (read .closed rest) := by
  unfold Toml.escapeBasic
  split
  · exact reads.short rest rfl rfl rfl
  · exact reads.short rest rfl rfl rfl
  · cases lines with
    | false => exact reads.short rest rfl rfl rfl
    | true => exact absurd rfl (noLine rfl)
  · exact reads.short rest rfl rfl rfl
  · exact reads.short rest rfl rfl rfl
  · exact reads.short rest rfl rfl rfl
  · rename_i _ tab line _ _ backslash
    split
    · rename_i control
      simp only [isControl, Bool.and_eq_true, Bool.or_eq_true, decide_eq_true_eq,
        beq_iff_eq] at control
      have whole : character.toNat / 16 * 16 + character.toNat % 16 = character.toNat := by omega
      have written := reads.code (character.toNat / 16) (character.toNat % 16) rest
        (by omega) (by omega)
      rw [whole, Char.ofNat_toNat] at written
      exact written
    · rename_i visible
      exact reads.plain character rest
        (isStringCharacter_of_visible (Bool.eq_false_iff.mpr visible) line) noQuote backslash

end ReadsEscapes

/-! ### Strings of one line -/

theorem readBasic_inside (characters rest : List Char) :
    readBasic .closed (insideBasic characters ++ '"' :: rest) = some (characters, rest) := by
  induction characters with
  | nil => rfl
  | cons character others ih =>
      by_cases quote : character = '"'
      · subst quote
        have written : insideBasic ('"' :: others) ++ '"' :: rest =
            '\\' :: '"' :: (insideBasic others ++ '"' :: rest) := rfl
        rw [written, readsEscapes_readBasic.short _ rfl rfl rfl, ih]
        rfl
      · have written : insideBasic (character :: others) ++ '"' :: rest =
            escapeBasic false character ++ (insideBasic others ++ '"' :: rest) := by
          simp only [insideBasic, List.flatMap_cons, beq_iff_eq, if_neg quote, List.append_assoc]
        rw [written, readsEscapes_readBasic.escapeBasic false _ quote, ih]
        · rfl
        · intro several
          cases several

theorem readLiteral_inside {characters : List Char} (rest : List Char)
    (known : ∀ character ∈ characters, isStringCharacter character = true)
    (noQuote : '\'' ∉ characters) :
    readLiteral (characters ++ '\'' :: rest) = some (characters, rest) := by
  induction characters with
  | nil => rfl
  | cons character others ih =>
      obtain ⟨first, later⟩ := List.forall_mem_cons.mp known
      rw [List.mem_cons, not_or] at noQuote
      rw [List.cons_append, readLiteral, if_pos first, ih later noQuote.2]
      · rfl
      · exact fun same => noQuote.1 same.symm

/-! ### Runs of quotes -/

def NoTriple (mark : Char) (characters : List Char) : Prop :=
  ¬ [mark, mark, mark] <:+: characters

theorem NoTriple.tail {mark first : Char} {rest : List Char}
    (noTriple : NoTriple mark (first :: rest)) : NoTriple mark rest :=
  fun triple => noTriple (triple.trans (List.suffix_cons first rest).isInfix)

def countRun (mark : Char) (counts : Nat × Nat) (next : Char) : Nat × Nat :=
  if next == mark then (counts.1 + 1, max counts.2 (counts.1 + 1)) else (0, counts.2)

theorem le_foldl_countRun (mark : Char) (characters : List Char) (counts : Nat × Nat) :
    counts.2 ≤ (characters.foldl (countRun mark) counts).2 := by
  induction characters generalizing counts with
  | nil => exact Nat.le_refl _
  | cons character others ih =>
      apply Nat.le_trans _ (ih _)
      unfold countRun
      split
      · exact Nat.le_max_left _ _
      · exact Nat.le_refl _

theorem noTriple_of_longestRun {mark : Char} {characters : List Char}
    (short : longestRun mark characters < 3) : NoTriple mark characters := by
  rintro ⟨before, after, rfl⟩
  have fold : longestRun mark (before ++ [mark, mark, mark] ++ after) =
      ((before ++ [mark, mark, mark] ++ after).foldl (countRun mark) (0, 0)).2 := rfl
  rw [fold, List.foldl_append, List.foldl_append] at short
  have above := le_foldl_countRun mark after
    ([mark, mark, mark].foldl (countRun mark) (before.foldl (countRun mark) (0, 0)))
  have three : 3 ≤ ([mark, mark, mark].foldl (countRun mark)
      (before.foldl (countRun mark) (0, 0))).2 := by
    simp only [List.foldl_cons, List.foldl_nil, countRun, beq_self_eq_true, if_true]
    omega
  omega

/-- A character that does not begin three single quotes belongs to the string. -/
theorem readLiteralLines_cons {character : Char} (rest : List Char)
    (known : isStringCharacter character = true ∨ character = '\n')
    (goesOn : ∀ after, character :: rest ≠ '\'' :: '\'' :: '\'' :: after) :
    readLiteralLines (character :: rest) = Scan.push character (readLiteralLines rest) := by
  rw [readLiteralLines]
  · rw [if_pos (by simpa using known)]
  · intro after first others
    exact goesOn ('\'' :: '\'' :: after) (by rw [first, others])
  · intro after first others
    exact goesOn ('\'' :: after) (by rw [first, others])
  · intro after first others
    exact goesOn after (by rw [first, others])

theorem readLiteralLines_inside {characters : List Char} (rest : List Char)
    (known : ∀ character ∈ characters, isStringCharacter character = true ∨ character = '\n')
    (noTriple : NoTriple '\'' characters) :
    readLiteralLines (characters ++ '\'' :: '\'' :: '\'' :: '\n' :: rest) =
      some (characters, '\n' :: rest) := by
  induction characters with
  | nil => rfl
  | cons character others ih =>
      obtain ⟨first, later⟩ := List.forall_mem_cons.mp known
      have inner := ih later noTriple.tail
      by_cases quote : character = '\''
      · subst quote
        -- one or two quotes may stand right before the closing ones
        cases others with
        | nil => rfl
        | cons second more =>
            by_cases again : second = '\''
            · subst again
              cases more with
              | nil => rfl
              | cons third beyond =>
                  have other : third ≠ '\'' := by
                    intro same
                    subst same
                    exact noTriple ⟨[], beyond, rfl⟩
                  rw [List.cons_append, readLiteralLines_cons _ first, inner]
                  · rfl
                  · intro after same
                    simp only [List.cons_append, List.cons.injEq] at same
                    exact other same.2.2.1
            · rw [List.cons_append, readLiteralLines_cons _ first, inner]
              · rfl
              · intro after same
                simp only [List.cons_append, List.cons.injEq] at same
                exact again same.2.1
      · rw [List.cons_append, readLiteralLines_cons _ first, inner]
        · rfl
        · intro after same
          exact quote (List.cons.inj same).1

/-! ### Strings of several lines with escapes -/

theorem escapeBasic_head (lines : Bool) (character : Char) :
    ∃ first others, escapeBasic lines character = first :: others ∧
      (first = character ∨ first = '\\') := by
  unfold escapeBasic
  split
  · exact ⟨_, _, rfl, .inr rfl⟩
  · exact ⟨_, _, rfl, .inr rfl⟩
  · cases lines with
    | false => exact ⟨_, _, rfl, .inr rfl⟩
    | true => exact ⟨_, _, rfl, .inl rfl⟩
  · exact ⟨_, _, rfl, .inr rfl⟩
  · exact ⟨_, _, rfl, .inr rfl⟩
  · exact ⟨_, _, rfl, .inr rfl⟩
  · split
    · exact ⟨_, _, rfl, .inr rfl⟩
    · exact ⟨_, _, rfl, .inl rfl⟩

theorem insideBasicLines_other {character : Char} (other : character ≠ '"') (quotes : Nat)
    (rest : List Char) : insideBasicLines quotes (character :: rest) =
      escapeBasic true character ++ insideBasicLines 0 rest := by
  rw [insideBasicLines]
  exact other

theorem readBasicLines_quote {rest : List Char}
    (goesOn : ∀ after, rest ≠ '"' :: '"' :: after) :
    readBasicLines .closed ('"' :: rest) = Scan.push '"' (readBasicLines .closed rest) := by
  have open_ : closing? rest = none := by
    unfold closing?
    split
    · exact absurd rfl (goesOn _)
    · exact absurd rfl (goesOn _)
    · exact absurd rfl (goesOn _)
    · rfl
  rw [readBasicLines]
  simp [Escape.isClosed, open_]

theorem readBasicLines_lineFeed (rest : List Char) :
    readBasicLines .closed ('\n' :: rest) = Scan.push '\n' (readBasicLines .closed rest) := by
  rw [readBasicLines]
  rfl

/-- What begins with a quote is written so unless two quotes stand right before it. -/
theorem insideBasicLines_head {character : Char} {quotes : Nat}
    (apart : character = '"' → quotes = 2) (rest : List Char) :
    ∃ first others, insideBasicLines quotes (character :: rest) = first :: others ∧
      first ≠ '"' := by
  by_cases quote : character = '"'
  · rw [quote, insideBasicLines, if_pos (apart quote)]
    exact ⟨_, _, rfl, by decide⟩
  · obtain ⟨first, others, written, begins⟩ := escapeBasic_head true character
    rw [insideBasicLines_other quote, written]
    refine ⟨first, others ++ insideBasicLines 0 rest, rfl, ?_⟩
    rcases begins with rfl | rfl
    · exact quote
    · decide

/-- A quote of a string is followed by two more only at the end of the string. -/
theorem goesOn_insideBasicLines {others : List Char} {quotes : Nat} (few : quotes < 2)
    (more : others ≠ []) (beyond : quotes = 0 → others ≠ ['"']) (rest after : List Char) :
    insideBasicLines (quotes + 1) others ++ rest ≠ '"' :: '"' :: after := by
  intro same
  cases others with
  | nil => exact more rfl
  | cons second later =>
      by_cases apart : second = '"' → quotes + 1 = 2
      · obtain ⟨first, _, written, other⟩ := insideBasicLines_head apart later
        rw [written, List.cons_append, List.cons.injEq] at same
        exact other same.1
      · obtain ⟨rfl, early⟩ := Classical.not_imp.mp apart
        obtain rfl : quotes = 0 := by omega
        cases later with
        | nil => exact beyond rfl rfl
        | cons third last =>
            obtain ⟨first, _, written, other⟩ := insideBasicLines_head (fun _ => rfl) last
            rw [insideBasicLines, if_neg (by decide), written, List.cons_append, List.cons_append,
              List.cons.injEq, List.cons.injEq] at same
            exact other same.2.1

theorem readBasicLines_inside (characters rest : List Char) {quotes : Nat} (few : quotes ≤ 2) :
    readBasicLines .closed
        (insideBasicLines quotes characters ++ '"' :: '"' :: '"' :: '\n' :: rest) =
      some (characters, '\n' :: rest) := by
  induction characters generalizing quotes with
  | nil =>
      rw [insideBasicLines, List.nil_append, readBasicLines]
      rfl
  | cons character others ih =>
      by_cases quote : character = '"'
      · subst quote
        by_cases third : quotes = 2
        · rw [insideBasicLines, if_pos third, List.cons_append, List.cons_append,
            readsEscapes_readBasicLines.short _ rfl rfl rfl, ih (Nat.zero_le _)]
          rfl
        · have inner := @ih (quotes + 1) (by omega)
          rw [insideBasicLines, if_neg third, List.cons_append]
          by_cases last : others = []
          · subst last
            rw [insideBasicLines, List.nil_append, readBasicLines]
            rfl
          · by_cases both : quotes = 0 ∧ others = ['"']
            · obtain ⟨rfl, rfl⟩ := both
              rw [insideBasicLines, if_neg (by decide), insideBasicLines, List.cons_append,
                List.nil_append, readBasicLines]
              rfl
            · rw [readBasicLines_quote, inner]
              · rfl
              · exact goesOn_insideBasicLines (by omega) last
                  (fun early same => both ⟨early, same⟩) _
      · rw [insideBasicLines_other quote, List.append_assoc]
        by_cases line : character = '\n'
        · subst line
          have written : escapeBasic true '\n' = ['\n'] := rfl
          rw [written, List.singleton_append, readBasicLines_lineFeed, ih (Nat.zero_le _)]
          rfl
        · rw [readsEscapes_readBasicLines.escapeBasic true _ quote (fun _ => line),
            ih (Nat.zero_le _)]
          rfl

/-! ### Forms -/

def TextForm.Holds (characters : List Char) : TextForm → Prop
  | .basic | .basicLines => True
  | .literal =>
      (∀ character ∈ characters, isStringCharacter character = true) ∧ '\'' ∉ characters
  | .literalLines =>
      (∀ character ∈ characters, isStringCharacter character = true ∨ character = '\n') ∧
        NoTriple '\'' characters

theorem isStringCharacter_of_noControl {characters : List Char}
    (visible : characters.any isControl = false) :
    ∀ character ∈ characters, isStringCharacter character = true ∨ character = '\n' := by
  intro character member
  by_cases line : character = '\n'
  · exact .inr line
  · exact .inl (isStringCharacter_of_visible
      (Bool.eq_false_iff.mpr (List.any_eq_false.mp visible character member)) line)

theorem TextForm.holds_ofValue (characters : List Char) :
    (TextForm.ofValue characters).Holds characters := by
  unfold TextForm.ofValue
  simp only [Bool.and_eq_true, Bool.not_eq_true', decide_eq_true_eq, List.contains_eq_mem,
    decide_eq_false_iff_not]
  split
  · trivial
  · split
    · rename_i allowed
      obtain ⟨⟨visible, noQuote⟩, noLine⟩ := allowed
      refine ⟨?_, noQuote⟩
      intro character member
      refine (isStringCharacter_of_noControl visible character member).resolve_right ?_
      rintro rfl
      exact noLine member
    · split
      · trivial
      · split
        · rename_i allowed
          exact ⟨isStringCharacter_of_noControl allowed.1, noTriple_of_longestRun allowed.2⟩
        · split <;> trivial

theorem readString_quoted {characters : List Char}
    (once : ∀ after, characters ≠ '"' :: '"' :: after) :
    readString ('"' :: characters) = readString.finish (readBasic .closed characters) := by
  rw [readString]
  exact once

theorem readString_literal {characters : List Char}
    (once : ∀ after, characters ≠ '\'' :: '\'' :: after) :
    readString ('\'' :: characters) = readString.finish (readLiteral characters) := by
  rw [readString]
  exact once

theorem dropLineFeed_of_ne {characters : List Char} (other : ∀ after, characters ≠ '\n' :: after) :
    dropLineFeed characters = characters := by
  unfold dropLineFeed
  split
  · exact absurd rfl (other _)
  · rfl

theorem dropLineFeed_start {characters inside : List Char}
    (noLine : '\n' ∉ characters → ∀ after, inside ≠ '\n' :: after) :
    dropLineFeed ((if characters.contains '\n' then ['\n'] else []) ++ inside) = inside := by
  by_cases line : '\n' ∈ characters
  · rw [if_pos (List.contains_iff_mem.mpr line)]
    rfl
  · rw [if_neg (by simpa using line), List.nil_append, dropLineFeed_of_ne (noLine line)]

theorem insideBasic_head (character : Char) (rest : List Char) :
    ∃ first others, insideBasic (character :: rest) = first :: others ∧ first ≠ '"' := by
  by_cases quote : character = '"'
  · subst quote
    exact ⟨'\\', '"' :: insideBasic rest, rfl, by decide⟩
  · obtain ⟨first, others, written, begins⟩ := escapeBasic_head false character
    refine ⟨first, others ++ insideBasic rest, ?_, ?_⟩
    · simp only [insideBasic, List.flatMap_cons, beq_iff_eq, if_neg quote, written,
        List.cons_append]
    · rcases begins with rfl | rfl
      · exact quote
      · decide

theorem insideBasicLines_start (character : Char) (rest : List Char) :
    ∃ first others, insideBasicLines 0 (character :: rest) = first :: others ∧
      (first = character ∨ first = '\\') := by
  by_cases quote : character = '"'
  · rw [quote, insideBasicLines, if_neg (by decide)]
    exact ⟨_, _, rfl, .inl rfl⟩
  · obtain ⟨first, others, written, begins⟩ := escapeBasic_head true character
    rw [insideBasicLines_other quote, written]
    exact ⟨first, others ++ insideBasicLines 0 rest, rfl, begins⟩

/-- A text is read back from a form that can hold it, at the end of its line. -/
theorem readString_write {form : TextForm} {characters : List Char}
    (holds : form.Holds characters) (rest : List Char) :
    readString (form.write characters ++ '\n' :: rest) =
      some (String.ofList characters, '\n' :: rest) := by
  cases form with
  | basic =>
      have written : TextForm.basic.write characters ++ '\n' :: rest =
          '"' :: (insideBasic characters ++ '"' :: '\n' :: rest) := by
        simp [TextForm.write]
      rw [written, readString_quoted, readBasic_inside]
      · rfl
      · intro after same
        cases characters with
        | nil => cases same
        | cons character others =>
            obtain ⟨first, _, head, other⟩ := insideBasic_head character others
            rw [head] at same
            exact other (List.cons.inj same).1
  | literal =>
      have written : TextForm.literal.write characters ++ '\n' :: rest =
          '\'' :: (characters ++ '\'' :: '\n' :: rest) := by
        simp [TextForm.write]
      rw [written, readString_literal, readLiteral_inside _ holds.1 holds.2]
      · rfl
      · intro after same
        cases characters with
        | nil => cases same
        | cons character others =>
            exact holds.2 (List.mem_cons.mpr (.inl (List.cons.inj same).1.symm))
  | basicLines =>
      have written : TextForm.basicLines.write characters ++ '\n' :: rest =
          '"' :: '"' :: '"' :: ((if characters.contains '\n' then ['\n'] else []) ++
            (insideBasicLines 0 characters ++ '"' :: '"' :: '"' :: '\n' :: rest)) := by
        simp [TextForm.write]
      rw [written, readString, dropLineFeed_start, readBasicLines_inside _ _ (Nat.zero_le 2)]
      · rfl
      · intro noLine after same
        cases characters with
        | nil => cases same
        | cons character others =>
            have other : character ≠ '\n' := fun line => noLine (by simp [line])
            obtain ⟨first, _, head, begins⟩ := insideBasicLines_start character others
            rw [head, List.cons_append, List.cons.injEq] at same
            rcases begins with rfl | rfl
            · exact other same.1
            · cases same.1
  | literalLines =>
      have written : TextForm.literalLines.write characters ++ '\n' :: rest =
          '\'' :: '\'' :: '\'' :: ((if characters.contains '\n' then ['\n'] else []) ++
            (characters ++ '\'' :: '\'' :: '\'' :: '\n' :: rest)) := by
        simp [TextForm.write]
      rw [written, readString, dropLineFeed_start, readLiteralLines_inside _ holds.1 holds.2]
      · rfl
      · intro noLine after same
        cases characters with
        | nil => cases same
        | cons character others =>
            exact noLine (List.mem_cons.mpr (.inl (List.cons.inj same).1.symm))

/-! ### Ends of lines -/

theorem noReturn_escapeBasic (lines : Bool) (character : Char) :
    '\r' ∉ escapeBasic lines character := by
  unfold escapeBasic
  split
  · decide
  · decide
  · cases lines with
    | false => decide
    | true => decide
  · decide
  · decide
  · decide
  · rename_i noReturn _
    split
    · rename_i control
      simp only [isControl, Bool.and_eq_true, Bool.or_eq_true, decide_eq_true_eq,
        beq_iff_eq] at control
      have apart {value : Nat} (small : value < 16) : '\r' ≠ hexDigitUpper value := by
        intro same
        have known := hexDigitUpper_inString value small
        rw [← same] at known
        cases known
      simp only [List.mem_cons, List.not_mem_nil, or_false, not_or]
      exact ⟨by decide, by decide, by decide, by decide, apart (by omega), apart (by omega)⟩
    · exact fun member => noReturn (List.mem_singleton.mp member).symm

theorem noReturn_insideBasicLines (quotes : Nat) (characters : List Char) :
    '\r' ∉ insideBasicLines quotes characters := by
  induction characters generalizing quotes with
  | nil => exact List.not_mem_nil
  | cons character others ih =>
      by_cases quote : character = '"'
      · rw [quote, insideBasicLines]
        split
        · simp [ih 0]
        · simp [ih (quotes + 1)]
      · rw [insideBasicLines_other quote, List.mem_append, not_or]
        exact ⟨noReturn_escapeBasic true character, ih 0⟩

theorem noReturn_insideBasic (characters : List Char) : '\r' ∉ insideBasic characters := by
  unfold insideBasic
  rw [List.mem_flatMap]
  rintro ⟨character, _, member⟩
  split at member
  · simp at member
  · exact noReturn_escapeBasic false character member

theorem TextForm.noReturn_write {form : TextForm} {characters : List Char}
    (holds : form.Holds characters) : '\r' ∉ form.write characters := by
  have known (allowed : ∀ character ∈ characters,
      isStringCharacter character = true ∨ character = '\n') : '\r' ∉ characters := by
    intro member
    rcases allowed '\r' member with known | same
    · cases known
    · cases same
  have start : '\r' ∉ (if characters.contains '\n' then ['\n'] else []) := by
    split <;> simp
  cases form with
  | basic => simp [TextForm.write, noReturn_insideBasic]
  | literal =>
      simp [TextForm.write, known (fun character member => .inl (holds.1 character member))]
  | basicLines => simp [TextForm.write, noReturn_insideBasicLines]
  | literalLines => simp [TextForm.write, known holds.1]

/-! ### Texts -/

theorem readString_writeText (text : String) (rest : List Char) :
    readString ((writeText text).toList ++ '\n' :: rest) = some (text, '\n' :: rest) := by
  have read := readString_write (TextForm.holds_ofValue text.toList) rest
  rw [String.ofList_toList] at read
  rw [writeText, String.toList_ofList, read]

theorem noReturn_writeText (text : String) : '\r' ∉ (writeText text).toList := by
  rw [writeText, String.toList_ofList]
  exact TextForm.noReturn_write (TextForm.holds_ofValue text.toList)

theorem TextForm.write_head (form : TextForm) (characters : List Char) :
    ∃ first others, form.write characters = first :: others ∧ (first = '"' ∨ first = '\'') := by
  cases form with
  | basic => exact ⟨_, _, rfl, .inl rfl⟩
  | literal => exact ⟨_, _, rfl, .inr rfl⟩
  | basicLines => exact ⟨_, _, rfl, .inl rfl⟩
  | literalLines => exact ⟨_, _, rfl, .inr rfl⟩

end Telemetry.Toml
