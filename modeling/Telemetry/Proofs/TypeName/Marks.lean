import Telemetry.Proofs.TypeName.Term

/-! When the marks of references and pointers show in a short name. The two passes that drop what
stands in front take away plain references, and one mutable mark behind them; any other marks stay,
and show unless the name is cut behind them, at a pair of colons. -/

namespace Telemetry.TypeName

variable {text name left : List Char}

def marksText (sigils : List Sigil) : List Char := sigils.flatMap Sigil.text

def BeginsMarked (text : List Char) : Prop := ∃ first more, text = first :: more ∧ isMark first = true

/-- Marks that vanish in front of a name: plain references, and then perhaps one mutable mark in
front of a name that has no mark of its own. -/
def Vanish (name : List Char) : List Sigil → Prop
  | [] => True
  | .reference :: rest => Vanish name rest
  | .mutableReference :: rest => rest = [] ∧ ¬BeginsMarked name
  | .mutablePointer :: rest => rest = [] ∧ ¬BeginsMarked name
  | .constantPointer :: _ => False

/-- A name that is cut behind a pair of colons, whatever stands in front of it. -/
def IsQualified (name : List Char) : Prop :=
  isCompound (withoutSigils name) = false ∧ [':', ':'] <:+: name.takeWhile (· != '<')

theorem dropRepeated_marked (marked : BeginsMarked text) : dropRepeated mutWord text = text := by
  obtain ⟨first, more, split, mark⟩ := marked
  apply dropRepeated_stays
  rintro ⟨tail, same⟩
  rw [split] at same
  rw [← (List.cons.inj same).1] at mark
  exact absurd mark (by decide)

theorem dropWhile_unmarked (unmarked : ¬BeginsMarked text) : text.dropWhile isMark = text := by
  cases text with
  | nil => rfl
  | cons first more =>
      apply List.dropWhile_cons_of_neg
      intro mark
      exact unmarked ⟨first, more, rfl, mark⟩

theorem withoutSigils_unmarked (unmarked : ¬BeginsMarked text) :
    withoutSigils text = dropRepeated mutWord text := by
  rw [withoutSigils_eq, dropWhile_unmarked unmarked]

theorem dropRepeated_split (text : List Char) :
    ∃ dropped, text = dropped ++ dropRepeated mutWord text ∧ ':' ∉ dropped ∧ '<' ∉ dropped := by
  by_cases starts : mutWord <+: text
  · obtain ⟨rest, same⟩ := starts
    have shorter : rest.length < text.length := by
      rw [← same, List.length_append]
      have positive : mutWord.length = 4 := rfl
      omega
    obtain ⟨dropped, split, colons, angles⟩ := dropRepeated_split rest
    refine ⟨mutWord ++ dropped, ?_, ?_, ?_⟩
    · rw [← same, dropRepeated_append (by decide), List.append_assoc, ← split]
    · rw [List.mem_append, not_or]
      exact ⟨by decide, colons⟩
    · rw [List.mem_append, not_or]
      exact ⟨by decide, angles⟩
  · rw [dropRepeated_stays starts]
    exact ⟨[], rfl, List.not_mem_nil, List.not_mem_nil⟩
termination_by text.length

theorem isMark_takeWhile {text : List Char} {character : Char} (other : isMark character = false) :
    character ∉ text.takeWhile isMark := by
  intro among
  have mark := List.all_eq_true.mp (List.all_takeWhile (p := isMark)) character among
  rw [other] at mark
  cases mark

theorem withoutSigils_split (name : List Char) :
    ∃ dropped, name = dropped ++ withoutSigils name ∧ ':' ∉ dropped ∧ '<' ∉ dropped := by
  obtain ⟨dropped, split, colons, angles⟩ := dropRepeated_split (name.dropWhile isMark)
  refine ⟨name.takeWhile isMark ++ dropped, ?_, ?_, ?_⟩
  · rw [withoutSigils_eq, List.append_assoc, ← split, List.takeWhile_append_dropWhile]
  · rw [List.mem_append, not_or]
    exact ⟨isMark_takeWhile rfl, colons⟩
  · rw [List.mem_append, not_or]
    exact ⟨isMark_takeWhile rfl, angles⟩

theorem length_withoutSigils_le (name : List Char) :
    (withoutSigils name).length ≤ name.length := by
  obtain ⟨dropped, split, _⟩ := withoutSigils_split name
  have lengths := congrArg List.length split
  rw [List.length_append] at lengths
  omega

theorem length_withoutSigils_lt (marked : BeginsMarked name) :
    (withoutSigils name).length < name.length := by
  obtain ⟨first, more, split, mark⟩ := marked
  have dropped : withoutSigils name = withoutSigils more := by
    rw [withoutSigils_eq, split, List.dropWhile_cons_of_pos mark]
    rfl
  rw [dropped, split, List.length_cons]
  have shorter := length_withoutSigils_le more
  omega

structure Sticks (left name : List Char) : Prop where
  colon_absent : ':' ∉ left
  angle_absent : '<' ∉ left
  uncompound : isCompound (left ++ name) = false
  longer : (withoutSigils name).length < (left ++ name).length

theorem beginsMarked_marksText {sigils : List Sigil} (some_sigil : sigils ≠ []) (name : List Char) :
    BeginsMarked (marksText sigils ++ name) := by
  cases sigils with
  | nil => exact absurd rfl some_sigil
  | cons sigil rest =>
      cases sigil with
      | reference => exact ⟨_, _, rfl, rfl⟩
      | mutableReference => exact ⟨_, _, rfl, rfl⟩
      | mutablePointer => exact ⟨_, _, rfl, rfl⟩
      | constantPointer => exact ⟨_, _, rfl, rfl⟩

theorem isCompound_marked (marked : BeginsMarked text) : isCompound text = false := by
  cases bracket : isCompound text with
  | false => rfl
  | true =>
      obtain ⟨first, more, split, mark⟩ := marked
      obtain ⟨opening, others, same, unmarked⟩ :=
        head_of_compound (isMark · = false) rfl rfl bracket
      rw [split] at same
      rw [(List.cons.inj same).1, unmarked] at mark
      cases mark

theorem absent_marksText {character : Char}
    (absent : ∀ sigil : Sigil, character ∉ sigil.text) (sigils : List Sigil) :
    character ∉ marksText sigils := by
  intro among
  obtain ⟨sigil, _, within⟩ := List.mem_flatMap.mp among
  exact absent sigil within

theorem colon_absent_text (sigil : Sigil) : ':' ∉ sigil.text := by
  cases sigil <;> decide

theorem angle_absent_text (sigil : Sigil) : '<' ∉ sigil.text := by
  cases sigil <;> decide

/-- Marks stick when there is a mark to stop at behind the first mutable one. -/
theorem sticks_marked (sigils : List Sigil) (marked : BeginsMarked (marksText sigils ++ name)) :
    Sticks (marksText sigils) name where
  colon_absent := absent_marksText colon_absent_text sigils
  angle_absent := absent_marksText angle_absent_text sigils
  uncompound := isCompound_marked marked
  longer := by
    cases sigils with
    | nil => exact length_withoutSigils_lt marked
    | cons sigil rest =>
        have shorter := length_withoutSigils_le name
        have positive : 0 < (marksText (sigil :: rest)).length := by
          cases sigil <;> exact Nat.zero_lt_succ _
        rw [List.length_append]
        omega

def constWord : List Char := ['c', 'o', 'n', 's', 't', ' ']

theorem sticks_constant (sigils : List Sigil) (name : List Char) :
    Sticks (constWord ++ marksText sigils) name where
  colon_absent := by
    rw [List.mem_append, not_or]
    exact ⟨by decide, absent_marksText colon_absent_text sigils⟩
  angle_absent := by
    rw [List.mem_append, not_or]
    exact ⟨by decide, absent_marksText angle_absent_text sigils⟩
  uncompound := rfl
  longer := by
    have shorter := length_withoutSigils_le name
    have six : constWord.length = 6 := rfl
    rw [List.length_append, List.length_append]
    omega

theorem mutable_cases (sigils : List Sigil) (name : List Char) :
    (sigils = [] ∧ ¬BeginsMarked name) ∧
        dropRepeated mutWord (mutWord ++ (marksText sigils ++ name)) = withoutSigils name ∨
      ¬(sigils = [] ∧ ¬BeginsMarked name) ∧
        ∃ left, dropRepeated mutWord (mutWord ++ (marksText sigils ++ name)) = left ++ name ∧
          Sticks left name := by
  rw [dropRepeated_append (by decide)]
  by_cases marked : BeginsMarked (marksText sigils ++ name)
  · refine .inr ⟨?_, marksText sigils, dropRepeated_marked marked, sticks_marked sigils marked⟩
    rintro ⟨none, unmarked⟩
    rw [none] at marked
    exact unmarked marked
  · have none : sigils = [] := Classical.byContradiction fun some_sigil =>
      marked (beginsMarked_marksText some_sigil name)
    rw [none] at marked ⊢
    exact .inl ⟨⟨rfl, marked⟩, (withoutSigils_unmarked marked).symm⟩

theorem marks_cases (sigils : List Sigil) (name : List Char) :
    Vanish name sigils ∧ withoutSigils (marksText sigils ++ name) = withoutSigils name ∨
      ¬Vanish name sigils ∧ ∃ left, withoutSigils (marksText sigils ++ name) = left ++ name ∧
        Sticks left name := by
  induction sigils with
  | nil => exact .inl ⟨trivial, rfl⟩
  | cons sigil rest ih =>
      cases sigil with
      | reference => exact ih
      | mutableReference => exact mutable_cases rest name
      | mutablePointer => exact mutable_cases rest name
      | constantPointer =>
          refine .inr ⟨not_false, constWord ++ marksText rest, ?_, sticks_constant rest name⟩
          rw [List.append_assoc]
          apply dropRepeated_stays
          rintro ⟨tail, same⟩
          exact absurd (List.cons.inj same).1 (by decide)

def countStops (text : List Char) : Nat := text.countP fun character => !isPathCharacter character

theorem countStops_inside {path : List Char}
    (inside : ∀ character ∈ path, isPathCharacter character = true) : countStops path = 0 := by
  unfold countStops
  rw [List.countP_eq_zero]
  intro character among
  rw [inside character among]
  exact Bool.false_ne_true

theorem lastSegment_suffix (path : List Char) : lastSegment path <:+ path := by
  unfold lastSegment
  cases found : afterLastColons? path with
  | none => exact List.suffix_rfl
  | some after =>
      obtain ⟨before, split⟩ := eq_of_afterLastColons? found
      refine ⟨before ++ [':', ':'], ?_⟩
      rw [split, List.append_assoc]
      rfl

theorem countStops_reducePathsFrom {path : List Char}
    (inside : ∀ character ∈ path, isPathCharacter character = true) (text : List Char) :
    countStops (reducePathsFrom path text) = countStops text := by
  have cut (run : List Char) (plain : ∀ character ∈ run, isPathCharacter character = true) :
      countStops (lastSegment run) = 0 :=
    countStops_inside fun character among =>
      plain character ((lastSegment_suffix run).subset among)
  induction text generalizing path with
  | nil => exact cut path inside
  | cons first rest ih =>
      by_cases part : isPathCharacter first = true
      · rw [reducePathsFrom, if_pos part, ih]
        · unfold countStops
          rw [List.countP_cons_of_neg (by simp [part])]
        · rw [List.forall_mem_append]
          exact ⟨inside, List.forall_mem_singleton.mpr part⟩
      · rw [reducePathsFrom_mark (Bool.eq_false_iff.mpr part)]
        have whole := cut path inside
        have others := ih (List.forall_mem_nil _)
        unfold countStops at whole others ⊢
        rw [List.countP_append, whole, List.countP_cons_of_pos (by simp [part]),
          List.countP_cons_of_pos (by simp [part]), others, Nat.zero_add]

variable {after : List Char}

theorem reducePaths_ne_cut (compound : isCompound text = true)
    (found : afterLastColons? (text.takeWhile (· != '<')) = some after) :
    reducePaths text ≠ after := by
  intro same
  obtain ⟨first, more, split, stop, other⟩ := head_of_compound
    (fun first => isPathCharacter first = false ∧ first ≠ '<') ⟨rfl, by decide⟩ ⟨rfl, by decide⟩
    compound
  obtain ⟨before, colons⟩ := eq_of_afterLastColons? found
  rw [split, List.takeWhile_cons_of_pos (by simp [other])] at colons
  have within : after <:+: more := by
    cases before with
    | nil => exact absurd (List.cons.inj colons).1.symm (ne_of_path rfl stop)
    | cons opening others =>
        have later := (List.cons.inj colons).2
        have piece : after <:+ more.takeWhile (· != '<') := by
          refine ⟨others ++ [':', ':'], ?_⟩
          rw [later, List.append_assoc]
          rfl
        exact piece.isInfix.trans (List.takeWhile_prefix _).isInfix
  have fewer : countStops after ≤ countStops more := within.sublist.countP_le
  have kept : countStops (reducePaths text) = countStops text :=
    countStops_reducePathsFrom (List.forall_mem_nil _) text
  have more_stops : countStops text = countStops more + 1 := by
    unfold countStops
    rw [split, List.countP_cons_of_pos (by simp [stop])]
  rw [same] at kept
  omega

theorem head_reducePaths (compound : isCompound text = true) :
    isCompound (reducePaths text) = true := by
  obtain ⟨first, more, split, stop⟩ :=
    head_of_compound (isPathCharacter · = false) rfl rfl compound
  rw [split] at compound ⊢
  unfold reducePaths
  rw [reducePathsFrom_mark stop]
  exact compound

theorem isCompound_of_prefix {front : List Char} (starts : front <+: text)
    (compound : isCompound front = true) : isCompound text = true := by
  obtain ⟨rest, same⟩ := starts
  cases front with
  | nil => cases compound
  | cons first more =>
      rw [← same]
      exact compound

theorem shortForm_sticks (sticks : Sticks left name) :
    shortForm (left ++ name) = shortForm (withoutSigils name) ↔ IsQualified name := by
  obtain ⟨dropped, split, colons, angles⟩ := withoutSigils_split name
  have plain {front : List Char} (absent : '<' ∉ front) :
      ∀ character ∈ front, (character != '<') = true := by
    intro character among
    rw [bne_iff_ne]
    intro angle
    exact absent (angle ▸ among)
  have whole : (left ++ name).takeWhile (· != '<') = left ++ name.takeWhile (· != '<') :=
    List.takeWhile_append_of_pos (plain sticks.angle_absent)
  have front : name.takeWhile (· != '<') =
      dropped ++ (withoutSigils name).takeWhile (· != '<') := by
    conv => lhs; rw [split]
    exact List.takeWhile_append_of_pos (plain angles)
  have found : afterLastColons? (left ++ name.takeWhile (· != '<')) =
      afterLastColons? ((withoutSigils name).takeWhile (· != '<')) := by
    rw [afterLastColons?_append sticks.colon_absent, front, afterLastColons?_append colons]
  have uncut : shortForm (left ++ name) =
      (afterLastColons? ((withoutSigils name).takeWhile (· != '<'))).getD
        (left ++ name.takeWhile (· != '<')) := by
    rw [shortForm, sticks.uncompound, whole, ← found]
    rfl
  rw [uncut]
  unfold IsQualified
  cases compound : isCompound (withoutSigils name) with
  | true =>
      have reads : shortForm (withoutSigils name) = reducePaths (withoutSigils name) :=
        if_pos compound
      rw [reads]
      refine iff_of_false ?_ (fun both => Bool.false_ne_true both.1.symm)
      cases cut : afterLastColons? ((withoutSigils name).takeWhile (· != '<')) with
      | some after => exact (reducePaths_ne_cut compound cut).symm
      | none =>
          intro same
          have bracket := head_reducePaths compound
          rw [← same, Option.getD_none, ← whole] at bracket
          have impossible := isCompound_of_prefix (List.takeWhile_prefix _) bracket
          rw [sticks.uncompound] at impossible
          cases impossible
  | false =>
      have reads : shortForm (withoutSigils name) =
          lastSegment ((withoutSigils name).takeWhile (· != '<')) := by
        rw [shortForm, compound]
        rfl
      rw [reads, lastSegment, and_iff_right rfl, ← afterLastColons?_ne_none, front,
        afterLastColons?_append colons]
      cases cut : afterLastColons? ((withoutSigils name).takeWhile (· != '<')) with
      | some after => exact iff_of_true rfl (Option.some_ne_none after)
      | none =>
          refine iff_of_false ?_ (fun some => some rfl)
          intro same
          have lengths := congrArg List.length same
          have parts := congrArg List.length split
          have longer := sticks.longer
          simp only [Option.getD_none, List.length_append] at lengths parts longer
          omega

theorem isQualified_path (qualifiers : List Identifier) (last : Identifier)
    (arguments : List TypeTerm) :
    IsQualified (TypeTerm.path qualifiers last arguments).text ↔ qualifiers ≠ [] := by
  unfold IsQualified TypeTerm.text
  rw [withoutSigils_path, isCompound_path, takeWhile_path, and_iff_right rfl]
  constructor
  · rintro ⟨before, after, split⟩ none
    rw [none] at split
    apply last.colon_absent
    show ':' ∈ pathText [] last
    rw [← split]
    simp
  · intro some_qualifier
    obtain ⟨qualifier, others, split⟩ := List.exists_cons_of_ne_nil some_qualifier
    refine ⟨qualifier.characters, pathText others last, ?_⟩
    rw [split]
    simp [pathText]

theorem not_isQualified_compound (compound : isCompound text = true) : ¬IsQualified text := by
  rintro ⟨uncompound, _⟩
  rw [withoutSigils_compound compound, compound] at uncompound
  cases uncompound

theorem short_marks_iff (sigils : List Sigil) (name : List Char) :
    short (String.ofList (marksText sigils ++ name)) = short (String.ofList name) ↔
      Vanish name sigils ∨ IsQualified name := by
  rw [short_ofList, short_ofList, String.ofList_inj]
  rcases marks_cases sigils name with ⟨vanish, same⟩ | ⟨shows, left, same, sticks⟩
  · rw [same]
    exact iff_of_true rfl (.inl vanish)
  · rw [same, shortForm_sticks sticks, or_iff_right shows]

/-- Marks in front of a text do not show just when they vanish or the text is qualified. So marks in
front of a path do not show if they vanish or the path has more than one identifier; in front of a
tuple, a slice or an array they show unless they vanish. -/
theorem marks_hidden_iff (sigils : List Sigil) :
    (∀ name : String, short (String.ofList (marksText sigils) ++ name) = short name ↔
        Vanish name.toList sigils ∨ IsQualified name.toList) ∧
      (∀ qualifiers last arguments,
        short (String.ofList (marksText sigils) ++
            (TypeTerm.path qualifiers last arguments).fullName) = String.ofList last.characters ↔
          Vanish (TypeTerm.path qualifiers last arguments).text sigils ∨ qualifiers ≠ []) ∧
      ∀ term : TypeTerm, isCompound term.text = true →
        (short (String.ofList (marksText sigils) ++ term.fullName) = term.reduced.fullName ↔
          Vanish term.text sigils) := by
  have joined (name : List Char) : String.ofList (marksText sigils) ++ String.ofList name =
      String.ofList (marksText sigils ++ name) := String.ofList_append.symm
  refine ⟨?_, ?_, ?_⟩
  · intro name
    rw [← short_marks_iff, ← joined, String.ofList_toList]
  · intro qualifiers last arguments
    rw [← short_path qualifiers last arguments, TypeTerm.fullName, joined, short_marks_iff,
      isQualified_path]
  · intro term compound
    rw [← short_compound compound, TypeTerm.fullName, joined, short_marks_iff,
      or_iff_left (not_isQualified_compound compound)]

def cardType : TypeTerm :=
  .path [.ofWord ['a', 'p', 'p'] (List.cons_ne_nil _ _) rfl]
    (.ofWord ['C', 'a', 'r', 'd'] (List.cons_ne_nil _ _) rfl) []

theorem marks_hidden_iff_card :
    short (String.ofList (marksText [.constantPointer, .mutableReference]) ++
        cardType.fullName) = "Card" ∧
      short (String.ofList (marksText [.reference, .mutableReference]) ++
        (TypeTerm.tuple [cardType]).fullName) = "(Card,)" ∧
      short (String.ofList (marksText [.mutableReference, .reference]) ++
        (TypeTerm.tuple [cardType]).fullName) ≠ "(Card,)" := by
  obtain ⟨_, paths, _⟩ := marks_hidden_iff [.constantPointer, .mutableReference]
  obtain ⟨_, _, hidden⟩ := marks_hidden_iff [.reference, .mutableReference]
  obtain ⟨_, _, shown⟩ := marks_hidden_iff [.mutableReference, .reference]
  have reduced : (TypeTerm.tuple [cardType]).reduced.fullName = "(Card,)" := by decide +kernel
  have unmarked : ¬BeginsMarked (TypeTerm.tuple [cardType]).text := by
    rintro ⟨first, more, same, mark⟩
    rw [← (List.cons.inj same).1] at mark
    cases mark
  have vanish : Vanish (TypeTerm.tuple [cardType]).text [.reference, .mutableReference] :=
    ⟨rfl, unmarked⟩
  refine ⟨(paths _ _ _).mpr (.inr (List.cons_ne_nil _ _)), ?_, ?_⟩
  · exact ((hidden _ rfl).mpr vanish).trans reduced
  · rw [← reduced]
    intro same
    exact List.cons_ne_nil _ _ ((shown _ rfl).mp same).1

/-- Pointers to constants and references behind a mutable reference show. -/
theorem marks_show :
    short (String.ofList (marksText [.constantPointer]) ++ "u16") = "const u16" ∧
      short "u16" = "u16" ∧
      short (String.ofList (marksText [.mutableReference, .reference]) ++ "[u8]") = "&[u8]" ∧
      short "[u8]" = "[u8]" := by
  decide +kernel

end Telemetry.TypeName
