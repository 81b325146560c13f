import Telemetry.Proofs.Text.Ends
import Telemetry.TypeName

/-! What is left of names. A path is cut behind its last pair of colons, and a text is cut path by
path: what ends a path starts afresh. Marks in front are dropped in two passes. -/

namespace Telemetry.TypeName

open Telemetry.Text

variable {text front last after : List Char}

theorem afterLastColons?_next (character next : Char) (more : List Char) :
    afterLastColons? (character :: next :: more) = (afterLastColons? (next :: more)).or
      (if character = ':' ∧ next = ':' then some more else none) := by
  rw [afterLastColons?.eq_def]
  dsimp only
  cases afterLastColons? (next :: more) <;> rfl

theorem afterLastColons?_append (plain : ':' ∉ front) (rest : List Char) :
    afterLastColons? (front ++ rest) = afterLastColons? rest := by
  induction front with
  | nil => rfl
  | cons first others ih =>
      rw [List.mem_cons, not_or] at plain
      rw [← ih plain.2, List.cons_append]
      cases others ++ rest with
      | nil => rfl
      | cons next more =>
          rw [afterLastColons?_next, if_neg fun both => plain.1 both.1.symm, Option.or_none]

theorem afterLastColons?_absent (plain : ':' ∉ text) : afterLastColons? text = none := by
  have alone := afterLastColons?_append plain []
  rw [List.append_nil] at alone
  exact alone

theorem afterLastColons?_colons (before : List Char) (plain : ':' ∉ last) :
    afterLastColons? (before ++ ':' :: ':' :: last) = some last := by
  induction before with
  | nil =>
      have single : afterLastColons? (':' :: last) = none := by
        cases last with
        | nil => rfl
        | cons next more =>
            rw [afterLastColons?_next, afterLastColons?_absent plain, Option.none_or]
            apply if_neg
            rintro ⟨_, same⟩
            rw [same] at plain
            exact plain List.mem_cons_self
      rw [List.nil_append, afterLastColons?_next, single, if_pos ⟨rfl, rfl⟩, Option.none_or]
  | cons first others ih =>
      rw [List.cons_append]
      generalize others ++ ':' :: ':' :: last = later at ih ⊢
      cases later with
      | nil => cases ih
      | cons next more => rw [afterLastColons?_next, ih, Option.some_or]

theorem eq_of_afterLastColons? (found : afterLastColons? text = some after) :
    ∃ before, text = before ++ ':' :: ':' :: after := by
  induction text with
  | nil => cases found
  | cons first others ih =>
      cases others with
      | nil => cases found
      | cons next more =>
          rw [afterLastColons?_next, Option.or_eq_some_iff] at found
          rcases found with later | ⟨_, here⟩
          · obtain ⟨before, same⟩ := ih later
            exact ⟨first :: before, congrArg (first :: ·) same⟩
          · by_cases colons : first = ':' ∧ next = ':'
            · rw [if_pos colons] at here
              exact ⟨[], by rw [colons.1, colons.2, Option.some.inj here]; rfl⟩
            · rw [if_neg colons] at here
              cases here

theorem afterLastColons?_ne_none : afterLastColons? text ≠ none ↔ [':', ':'] <:+: text := by
  constructor
  · intro some
    obtain ⟨rest, found⟩ := Option.ne_none_iff_exists'.mp some
    obtain ⟨before, split⟩ := eq_of_afterLastColons? found
    refine ⟨before, rest, ?_⟩
    rw [split, List.append_assoc]
    rfl
  · rintro ⟨before, rest, split⟩
    rw [← split, List.append_assoc]
    clear split
    induction before with
    | nil =>
        rw [List.nil_append]
        show afterLastColons? (':' :: ':' :: rest) ≠ none
        rw [afterLastColons?_next, if_pos ⟨rfl, rfl⟩]
        cases afterLastColons? (':' :: rest) <;> exact Option.some_ne_none _
    | cons first others ih =>
        rw [List.cons_append]
        generalize others ++ ([':', ':'] ++ rest) = later at ih ⊢
        cases later with
        | nil => exact absurd rfl ih
        | cons next more =>
            rw [afterLastColons?_next]
            intro none
            exact ih (Option.or_eq_none_iff.mp none).1

variable {run full cut rest : List Char} {stop : Char}

/-- What ends the path before it: nothing, or a character that is not part of a path. -/
def EndsPath (rest : List Char) : Prop :=
  ∀ next, rest.head? = some next → isPathCharacter next = false

theorem endsPath_nil : EndsPath [] := by
  intro next impossible
  cases impossible

theorem endsPath_cons (plain : isPathCharacter stop = false) (rest : List Char) :
    EndsPath (stop :: rest) := by
  intro next found
  rw [← Option.some.inj found]
  exact plain

theorem EndsPath.append (first : EndsPath full) (second : EndsPath rest) :
    EndsPath (full ++ rest) := by
  cases full with
  | nil => exact second
  | cons next more => exact endsPath_cons (first next rfl) (more ++ rest)

theorem reducePathsFrom_word (inside : ∀ character ∈ run, isPathCharacter character = true)
    (path rest : List Char) :
    reducePathsFrom path (run ++ rest) = reducePathsFrom (path ++ run) rest := by
  induction run generalizing path with
  | nil => rw [List.nil_append, List.append_nil]
  | cons first others ih =>
      rw [List.forall_mem_cons] at inside
      rw [List.cons_append, reducePathsFrom, if_pos inside.1, ih inside.2, List.append_assoc]
      rfl

theorem reducePathsFrom_mark (plain : isPathCharacter stop = false) (path rest : List Char) :
    reducePathsFrom path (stop :: rest) =
      lastSegment path ++ stop :: reducePathsFrom [] rest := by
  rw [reducePathsFrom, if_neg (Bool.eq_false_iff.mp plain)]

theorem reducePathsFrom_ends (ends : EndsPath rest) (path : List Char) :
    reducePathsFrom path rest = lastSegment path ++ reducePathsFrom [] rest := by
  cases rest with
  | nil => exact (List.append_nil (lastSegment path)).symm
  | cons stop more =>
      have plain := ends stop rfl
      rw [reducePathsFrom_mark plain, reducePathsFrom_mark plain []]
      rfl

def Reduces (full cut : List Char) : Prop :=
  ∀ rest, EndsPath rest → reducePathsFrom [] (full ++ rest) = cut ++ reducePathsFrom [] rest

namespace Reduces

theorem nil : Reduces [] [] := fun _ _ => rfl

theorem word (inside : ∀ character ∈ full, isPathCharacter character = true) :
    Reduces full (lastSegment full) := by
  intro rest ends
  rw [reducePathsFrom_word inside, List.nil_append, reducePathsFrom_ends ends]

theorem mark (plain : isPathCharacter stop = false) (reduces : Reduces full cut) :
    Reduces (stop :: full) (stop :: cut) := by
  intro rest ends
  rw [List.cons_append, reducePathsFrom_mark plain, reduces rest ends]
  rfl

theorem append {other reduced : List Char} (first : Reduces full cut) (ends : EndsPath other)
    (second : Reduces other reduced) : Reduces (full ++ other) (cut ++ reduced) := by
  intro rest endsRest
  rw [List.append_assoc, first _ (ends.append endsRest), second rest endsRest, List.append_assoc]

theorem reducePaths (reduces : Reduces full cut) : TypeName.reducePaths full = cut := by
  have alone := reduces [] endsPath_nil
  rw [List.append_nil] at alone
  exact alone.trans (List.append_nil cut)

end Reduces

def isMark (character : Char) : Bool := character == '&' || character == '*'

def mutWord : List Char := ['m', 'u', 't', ' ']

theorem withoutSigils_eq (text : List Char) :
    withoutSigils text = dropRepeated mutWord (text.dropWhile isMark) := rfl

theorem dropRepeated_stays {word : List Char} (other : ¬word <+: text) :
    dropRepeated word text = text := by
  rw [dropRepeated]
  cases found : dropStart? word text with
  | none => rfl
  | some rest => exact absurd ⟨rest, (eq_append_of_dropStart? found).symm⟩ other

theorem dropRepeated_append {word : List Char} (nonempty : word ≠ []) (rest : List Char) :
    dropRepeated word (word ++ rest) = dropRepeated word rest := by
  rw [dropRepeated, dropStart?_append]
  dsimp only
  rw [if_pos]
  rw [List.length_append]
  have positive := List.length_pos_iff.mpr nonempty
  omega

/-- A text stays as it is if it begins neither with a mark nor with the word. -/
theorem withoutSigils_stays (unmarked : ∀ first, text.head? = some first → isMark first = false)
    (other : ¬mutWord <+: text) : withoutSigils text = text := by
  have kept : text.dropWhile isMark = text := by
    cases text with
    | nil => rfl
    | cons first more => exact List.dropWhile_cons_of_neg (by simp [unmarked first rfl])
  rw [withoutSigils_eq, kept, dropRepeated_stays other]

theorem ne_of_path {character : Char} (inside : isPathCharacter character = true)
    (plain : isPathCharacter stop = false) : character ≠ stop := by
  intro same
  rw [same, plain] at inside
  cases inside

theorem isMark_of_path {character : Char} (inside : isPathCharacter character = true) :
    isMark character = false := by
  unfold isMark
  rw [Bool.or_eq_false_iff, beq_eq_false_iff_ne, beq_eq_false_iff_ne]
  exact ⟨ne_of_path inside rfl, ne_of_path inside rfl⟩

/-- A text that begins with a character of a path is that of no tuple, slice or array. -/
theorem isCompound_of_path {first : Char} {more : List Char}
    (inside : isPathCharacter first = true) : isCompound (first :: more) = false := by
  unfold isCompound
  rw [Bool.or_eq_false_iff, beq_eq_false_iff_ne, beq_eq_false_iff_ne]
  exact ⟨ne_of_path inside rfl, ne_of_path inside rfl⟩

theorem head_of_compound (holds : Char → Prop) (round : holds '(') (square : holds '[')
    (compound : isCompound text = true) : ∃ first more, text = first :: more ∧ holds first := by
  cases text with
  | nil => cases compound
  | cons first more =>
      refine ⟨first, more, rfl, ?_⟩
      unfold isCompound at compound
      rw [Bool.or_eq_true, beq_iff_eq, beq_iff_eq] at compound
      rcases compound with same | same
      · rw [same]
        exact round
      · rw [same]
        exact square

theorem withoutSigils_compound (compound : isCompound text = true) :
    withoutSigils text = text := by
  obtain ⟨first, more, split, unmarked, other⟩ := head_of_compound
    (fun first => isMark first = false ∧ 'm' ≠ first) ⟨rfl, by decide⟩ ⟨rfl, by decide⟩ compound
  rw [split]
  apply withoutSigils_stays
  · intro character same
    rw [← Option.some.inj same]
    exact unmarked
  · rintro ⟨tail, same⟩
    exact other (List.cons.inj same).1

/-- A word in front of which no blank stands does not begin with the dropped word. -/
theorem blank_of_mutWord (inside : ∀ character ∈ run, isPathCharacter character = true)
    (ends : EndsPath rest) (starts : mutWord <+: run ++ rest) : rest.head? = some ' ' := by
  obtain ⟨tail, same⟩ := starts
  have none : rest.takeWhile isPathCharacter = [] := by
    cases rest with
    | nil => rfl
    | cons next more => exact List.takeWhile_cons_of_neg (by simp [ends next rfl])
  have words := congrArg (List.takeWhile isPathCharacter) same
  rw [List.takeWhile_append_of_pos inside, none, List.append_nil] at words
  have run_eq : run = ['m', 'u', 't'] := words.symm
  rw [run_eq] at same
  have parts : ['m', 'u', 't'] ++ ' ' :: tail = ['m', 'u', 't'] ++ rest := same
  rw [← List.append_cancel_left parts]
  rfl

end Telemetry.TypeName
