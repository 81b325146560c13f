import Telemetry.Proofs.Toml.Strings
import Telemetry.Toml.Reader

/-! A document that holds one value under each of its keys, line by line, is read back as these
keys and values. -/

namespace Telemetry.Toml

open Telemetry.Text

/-! ### Keys -/

def beginsKey (character : Char) : Bool :=
  isBareCharacter character || character == '"' || character == '\''

theorem readKeyPart_quoted {characters rest : List Char} {key : String}
    (reads : readLineString characters = some (key, rest)) :
    readKeyPart characters = some (key, rest) := by
  rw [readKeyPart, reads]

theorem readKeyPart_bare {characters : List Char} (rest : List Char) (some_ : characters ≠ [])
    (bare : ∀ character ∈ characters, isBareCharacter character = true) :
    readKeyPart (characters ++ ' ' :: rest) = some (String.ofList characters, ' ' :: rest) := by
  have unquoted : readLineString (characters ++ ' ' :: rest) = none := by
    cases characters with
    | nil => exact absurd rfl some_
    | cons first others =>
        have plain := bare first List.mem_cons_self
        unfold readLineString
        split
        · rename_i same
          rw [(List.cons.inj same).1] at plain
          cases plain
        · rename_i same
          rw [(List.cons.inj same).1] at plain
          cases plain
        · rfl
  have taken : (characters ++ ' ' :: rest).takeWhile isBareCharacter = characters := by
    rw [List.takeWhile_append_of_pos bare, List.takeWhile_cons_of_neg (by decide), List.append_nil]
  have dropped : (characters ++ ' ' :: rest).dropWhile isBareCharacter = ' ' :: rest := by
    rw [List.dropWhile_append_of_pos bare, List.dropWhile_cons_of_neg (by decide)]
  rw [readKeyPart, unquoted]
  dsimp only
  rw [taken, dropped, if_neg (by simpa using some_)]

theorem writeKey_cases (key : String) :
    ((writeKey key).toList = key.toList ∧ key.toList ≠ [] ∧
        ∀ character ∈ key.toList, isBareCharacter character = true) ∨
      (writeKey key).toList = TextForm.basic.write key.toList ∨
        ((writeKey key).toList = TextForm.literal.write key.toList ∧
          TextForm.literal.Holds key.toList) := by
  unfold writeKey
  simp only [String.toList_ofList]
  split
  · rename_i plain
    simp only [Bool.and_eq_true, Bool.not_eq_true', List.isEmpty_eq_false_iff,
      List.all_eq_true] at plain
    exact .inl ⟨rfl, plain.1, plain.2⟩
  · split
    · exact .inr (.inl rfl)
    · split
      · rename_i allowed
        simp only [Bool.and_eq_true, Bool.not_eq_true', List.any_eq_false, Bool.or_eq_true,
          beq_iff_eq, List.contains_eq_mem, decide_eq_false_iff_not, not_or] at allowed
        obtain ⟨visible, noQuote⟩ := allowed
        refine .inr (.inr ⟨rfl, ?_, noQuote⟩)
        intro character member
        obtain ⟨plain, noLine⟩ := visible character member
        exact isStringCharacter_of_visible (Bool.eq_false_iff.mpr plain) noLine
      · exact .inr (.inl rfl)

theorem readKeyPart_writeKey (key : String) (rest : List Char) :
    readKeyPart ((writeKey key).toList ++ ' ' :: rest) = some (key, ' ' :: rest) := by
  rcases writeKey_cases key with ⟨written, some_, bare⟩ | written | ⟨written, known, noQuote⟩
  · rw [written, readKeyPart_bare rest some_ bare, String.ofList_toList]
  · apply readKeyPart_quoted
    have whole : TextForm.basic.write key.toList ++ ' ' :: rest =
        '"' :: (insideBasic key.toList ++ '"' :: ' ' :: rest) := by
      simp [TextForm.write]
    rw [written, whole, readLineString, readBasic_inside]
    simp [readString.finish]
  · apply readKeyPart_quoted
    have whole : TextForm.literal.write key.toList ++ ' ' :: rest =
        '\'' :: (key.toList ++ '\'' :: ' ' :: rest) := by
      simp [TextForm.write]
    rw [written, whole, readLineString, readLiteral_inside _ known noQuote]
    simp [readString.finish]

theorem readKey_writeKey (key : String) (rest : List Char) :
    readKey ((writeKey key).toList ++ ' ' :: '=' :: rest) = some (([], key), '=' :: rest) := by
  have blanks : skipBlanks (' ' :: '=' :: rest) = '=' :: rest := rfl
  rw [readKey, depthLimit, readKeyParts, readKeyPart_writeKey]
  simp [blanks]

theorem writeKey_head (key : String) :
    ∃ first others, (writeKey key).toList = first :: others ∧ beginsKey first = true := by
  rcases writeKey_cases key with ⟨written, some_, bare⟩ | written | ⟨written, _⟩
  · obtain ⟨first, others, same⟩ := List.exists_cons_of_ne_nil some_
    have plain : isBareCharacter first = true := by
      apply bare
      rw [same]
      exact List.mem_cons_self
    exact ⟨first, others, by rw [written, same], by simp [beginsKey, plain]⟩
  · exact ⟨_, _, written, rfl⟩
  · exact ⟨_, _, written, rfl⟩

theorem noReturn_writeKey (key : String) : '\r' ∉ (writeKey key).toList := by
  rcases writeKey_cases key with ⟨written, _, bare⟩ | written | ⟨written, holds⟩
  · rw [written]
    intro member
    cases bare '\r' member
  · rw [written]
    exact @TextForm.noReturn_write .basic key.toList trivial
  · rw [written]
    exact TextForm.noReturn_write holds

/-! ### Values -/

structure Writes (written : String) (value : Toml) : Prop where
  solid : ∃ first others, written.toList = first :: others ∧ isLineBlank first = false
  reads : ∀ rest, readValue depthLimit (written.toList ++ '\n' :: rest) =
    some (value, '\n' :: rest)
  noReturn : '\r' ∉ written.toList

theorem writes_text (text : String) : Writes (writeText text) (.text text) := by
  have read := readString_writeText text
  obtain ⟨first, others, written, quote⟩ :=
    TextForm.write_head (TextForm.ofValue text.toList) text.toList
  have begins : (writeText text).toList = first :: others := by
    rw [writeText, String.toList_ofList, written]
  refine ⟨⟨first, others, begins, ?_⟩, ?_, noReturn_writeText text⟩
  · rcases quote with rfl | rfl <;> decide
  · intro rest
    have here := read rest
    rw [begins, List.cons_append] at here ⊢
    rcases quote with rfl | rfl
    · rw [readValue, here]
      rfl
    · rw [readValue, here]
      rfl

theorem writes_boolean (value : Bool) :
    Writes (if value then "true" else "false") (.boolean value) := by
  cases value with
  | false => exact ⟨⟨'f', _, rfl, rfl⟩, fun _ => rfl, by decide⟩
  | true => exact ⟨⟨'t', _, rfl, rfl⟩, fun _ => rfl, by decide⟩

/-! ### Lines -/

def line (key written : String) : String := writeKey key ++ " = " ++ written ++ "\n"

theorem toList_line (key written : String) :
    (line key written).toList =
      (writeKey key).toList ++ ' ' :: '=' :: ' ' :: (written.toList ++ ['\n']) := by
  simp [line]

theorem noReturn_line {key written : String} {value : Toml} (writes : Writes written value) :
    '\r' ∉ (line key written).toList := by
  rw [toList_line]
  simp [noReturn_writeKey, writes.noReturn]

theorem readPair_line {written : String} {value : Toml} (writes : Writes written value)
    (key : String) (rest : List Char) :
    readPair (readValue depthLimit) ((line key written).toList ++ rest) =
      some ((([], key), value), '\n' :: rest) := by
  obtain ⟨first, others, begins, solid⟩ := writes.solid
  have whole : (line key written).toList ++ rest =
      (writeKey key).toList ++ ' ' :: '=' :: ' ' :: (written.toList ++ '\n' :: rest) := by
    simp [toList_line]
  have blanks : skipBlanks (' ' :: (written.toList ++ '\n' :: rest)) =
      written.toList ++ '\n' :: rest := by
    rw [begins, skipBlanks, List.dropWhile_cons_of_pos (by decide), List.cons_append,
      List.dropWhile_cons_of_neg (by simp [solid])]
  have ends : skipBlanks ('\n' :: rest) = '\n' :: rest := rfl
  rw [whole, readPair, readKey_writeKey]
  simp [blanks, writes.reads, ends]

theorem Scope.insert_new {entries : List (String × Node)} {name : String}
    (fresh : name ∉ entries.map Prod.fst) (value : Toml) :
    (Scope.named entries).insert? [] name value =
      some (Scope.named (entries ++ [(name, .value value)])) := by
  have absent : ∀ entry ∈ entries, ¬ (entry.1 == name) = true := by
    intro entry member same
    exact fresh (List.mem_map.mpr ⟨entry, member, by simpa using same⟩)
  have nothing : (Scope.named entries).find? name = none := by
    rw [Scope.find?, Scope.named, List.find?_eq_none.mpr absent]
    rfl
  have none_ : (Scope.named entries).entries.any (·.1 == name) = false := by
    rw [List.any_eq_false]
    exact absent
  have set : (Scope.named entries).set name (.value value) =
      Scope.named (entries ++ [(name, .value value)]) := by
    rw [Scope.set, none_]
    rfl
  simp only [Scope.insert?, Scope.change, nothing, set]
  rfl

theorem line_head (key written : String) (rest : List Char) :
    ∃ first others, (line key written).toList ++ rest = first :: others ∧
      beginsKey first = true := by
  obtain ⟨first, others, begins, marks⟩ := writeKey_head key
  rw [toList_line, begins]
  exact ⟨first, _, rfl, marks⟩

theorem Draft.readLine_line {written : String} {value : Toml} (writes : Writes written value)
    {draft : Draft} {key : String} {scope : Scope}
    (inserted : draft.scope.insert? [] key value = some scope) (rest : List Char) :
    draft.readLine ((line key written).toList ++ rest) = some ({ draft with scope }, rest) := by
  have pair := readPair_line writes key rest
  have ends : endLine? ('\n' :: rest) = some rest := rfl
  obtain ⟨first, others, begins, marks⟩ := line_head key written rest
  have header (after : List Char) : first :: others ≠ '[' :: after := by
    intro same
    rw [(List.cons.inj same).1] at marks
    cases marks
  rw [begins] at pair ⊢
  rw [Draft.readLine]
  · simp [pair, ends, inserted]
  · exact fun after => header _
  · exact header

theorem Draft.readLines_line {written : String} {value : Toml} (writes : Writes written value)
    {draft : Draft} {key : String} {scope : Scope}
    (inserted : draft.scope.insert? [] key value = some scope) (steps : Nat) (rest : List Char) :
    draft.readLines (steps + 1) ((line key written).toList ++ rest) =
      Draft.readLines steps { draft with scope } rest := by
  have one := readLine_line writes inserted rest
  obtain ⟨first, others, begins, marks⟩ := line_head key written rest
  have solid : isLineBlank first = false := by
    rw [Bool.eq_false_iff]
    intro blank
    simp only [isLineBlank, Bool.or_eq_true, beq_iff_eq] at blank
    rcases blank with rfl | rfl
    · cases marks
    · cases marks
  have starts : skipBlanks (first :: others) = first :: others := by
    rw [skipBlanks, List.dropWhile_cons_of_neg (by simp [solid])]
  have apart {mark : Char} (other : beginsKey mark = false) (after : List Char) :
      first :: others ≠ mark :: after := by
    intro same
    rw [(List.cons.inj same).1, other] at marks
    cases marks
  rw [begins] at one ⊢
  rw [Draft.readLines, starts]
  split
  · rename_i same
    cases same
  · rename_i same
    exact absurd same (apart rfl _)
  · rename_i same
    exact absurd same (apart rfl _)
  · rw [one]
    rfl

theorem normalizeLines_of_noReturn {characters : List Char} (noReturn : '\r' ∉ characters) :
    normalizeLines characters = characters := by
  induction characters with
  | nil => rfl
  | cons character rest ih =>
      rw [List.mem_cons, not_or] at noReturn
      rw [normalizeLines, ih noReturn.2]
      intro after same
      exact absurd same.symm noReturn.1

/-! ### Documents -/

section Documents

variable {α : Type} (write : α → String) (value : α → Toml)

def document (entries : List (String × α)) : String :=
  String.join (entries.map fun entry => line entry.1 (write entry.2))

theorem toList_document (entry : String × α) (rest : List (String × α)) :
    (document write (entry :: rest)).toList =
      (line entry.1 (write entry.2)).toList ++ (document write rest).toList := by
  simp [document]

theorem length_le_document (entries : List (String × α)) :
    entries.length ≤ (document write entries).toList.length := by
  induction entries with
  | nil => exact Nat.zero_le _
  | cons entry rest ih =>
      rw [toList_document, List.length_append, toList_line]
      simp only [List.length_cons, List.length_append] at ih ⊢
      omega

theorem dropMark_document (entries : List (String × α)) :
    dropMark (document write entries).toList = (document write entries).toList := by
  cases entries with
  | nil => rfl
  | cons entry rest =>
      obtain ⟨first, others, begins, marks⟩ :=
        line_head entry.1 (write entry.2) (document write rest).toList
      rw [toList_document, begins, dropMark]
      intro after same
      rw [(List.cons.inj same).1] at marks
      cases marks

def nodes (entries : List (String × α)) : List (String × Node) :=
  entries.map fun entry => (entry.1, .value (value entry.2))

theorem keys_nodes (entries : List (String × α)) :
    (nodes value entries).map Prod.fst = entries.map Prod.fst := by
  simp [nodes, Function.comp_def]

theorem toToml_nodes (entries : List (String × α)) :
    entriesToToml (nodes value entries) = entries.map fun entry => (entry.1, value entry.2) := by
  induction entries with
  | nil => rfl
  | cons entry rest ih =>
      have first : nodes value (entry :: rest) =
          (entry.1, .value (value entry.2)) :: nodes value rest := rfl
      rw [first, entriesToToml, ih]
      rfl

variable {write value} (writes : ∀ item, Writes (write item) (value item))
include writes

theorem Draft.readLines_document {done entries : List (String × α)}
    (apart : ((done ++ entries).map Prod.fst).Nodup) {steps : Nat}
    (enough : entries.length ≤ steps) (finished : Scope) :
    Draft.readLines steps ⟨finished, .document, Scope.named (nodes value done)⟩
        (document write entries).toList =
      some ⟨finished, .document, Scope.named (nodes value (done ++ entries))⟩ := by
  induction entries generalizing done steps with
  | nil =>
      rw [List.append_nil]
      cases steps with
      | zero => rfl
      | succ steps => rfl
  | cons entry rest ih =>
      obtain ⟨fewer, rfl⟩ : ∃ fewer, steps = fewer + 1 := ⟨steps - 1, by
        simp only [List.length_cons] at enough
        omega⟩
      have fresh : entry.1 ∉ (nodes value done).map Prod.fst := by
        rw [keys_nodes]
        rw [List.map_append, List.map_cons, List.nodup_append] at apart
        exact fun member => apart.2.2 _ member _ List.mem_cons_self rfl
      have grown : nodes value (done ++ [entry]) =
          nodes value done ++ [(entry.1, .value (value entry.2))] := by
        simp [nodes]
      have whole : done ++ entry :: rest = done ++ [entry] ++ rest := by simp
      rw [whole] at apart
      rw [toList_document, readLines_line (writes entry.2) (Scope.insert_new fresh (value entry.2))]
      dsimp only
      rw [← grown, ih apart (by simpa using enough), ← whole]

theorem noReturn_document (entries : List (String × α)) :
    '\r' ∉ (document write entries).toList := by
  rw [document, String.toList_join, List.mem_flatMap]
  rintro ⟨_, member, found⟩
  obtain ⟨entry, _, rfl⟩ := List.mem_map.mp member
  exact noReturn_line (writes entry.2) found

theorem read?_document {entries : List (String × α)} (apart : (entries.map Prod.fst).Nodup) :
    read? (document write entries) = some (entries.map fun entry => (entry.1, value entry.2)) := by
  have alone : (([] ++ entries).map Prod.fst).Nodup := apart
  have lines := Draft.readLines_document writes alone (length_le_document write entries)
    (Scope.named [])
  have plain : normalizeLines (dropMark (document write entries).toList) =
      (document write entries).toList := by
    rw [dropMark_document write, normalizeLines_of_noReturn (noReturn_document writes entries)]
  simp only [read?, plain]
  change (Draft.readLines _ ⟨Scope.named [], .document, Scope.named (nodes value [])⟩ _).bind _ = _
  rw [lines]
  change some (entriesToToml (nodes value ([] ++ entries))) = _
  rw [List.nil_append, toToml_nodes]

end Documents

end Telemetry.Toml
