import Telemetry.Proofs.Json.Members
import Telemetry.Proofs.Json.Tokens

/-! Written JSON is read back. The tokens of a written value add exactly this value to what has
been read so far, except that the members of its objects come out in the order of their names. -/

namespace Telemetry.Json

/-- A value that is written without loss: its integers fit a word, signed or not, its objects have
no name twice, and it has no other numbers. -/
inductive IsExact : Json → Prop where
  | null : IsExact .null
  | boolean (value : Bool) : IsExact (.boolean value)
  | integer {value : Int} (fits : FitsWord value) : IsExact (.integer value)
  | text (value : String) : IsExact (.text value)
  | list {items : List Json} (each : ∀ item ∈ items, IsExact item) : IsExact (.list items)
  | object {entries : List (String × Json)} (differ : NamesDiffer entries)
      (each : ∀ entry ∈ entries, IsExact entry.2) : IsExact (.object entries)

theorem writeItems_eq (items : List Json) : writeItems items = items.map write := by
  induction items with
  | nil => rfl
  | cons item rest ih => rw [writeItems, ih, List.map_cons]

theorem writeEntries_eq (entries : List (String × Json)) :
    writeEntries entries = entries.map fun entry => stringText entry.1 ++ ":" ++ write entry.2 := by
  induction entries with
  | nil => rfl
  | cons entry rest ih => rw [writeEntries, ih, List.map_cons]

mutual

def tokensOf : Json → List Token
  | .list items => .openList :: (List.intercalate [.comma] (itemTokens items) ++ [.closeList])
  | .object entries =>
      .openObject :: (List.intercalate [.comma] (entryTokens entries) ++ [.closeObject])
  | value => [.scalar value]

def itemTokens : List Json → List (List Token)
  | [] => []
  | item :: rest => tokensOf item :: itemTokens rest

def entryTokens : List (String × Json) → List (List Token)
  | [] => []
  | (name, value) :: rest => (.scalar (.text name) :: .colon :: tokensOf value) :: entryTokens rest

end

theorem itemTokens_eq (items : List Json) : itemTokens items = items.map tokensOf := by
  induction items with
  | nil => rfl
  | cons item rest ih => rw [itemTokens, ih, List.map_cons]

def memberTokens (entry : String × Json) : List Token :=
  .scalar (.text entry.1) :: .colon :: tokensOf entry.2

theorem entryTokens_eq (entries : List (String × Json)) :
    entryTokens entries = entries.map memberTokens := by
  induction entries with
  | nil => rfl
  | cons entry rest ih => rw [entryTokens, ih, List.map_cons]; rfl

theorem isCutInto_member {name : String} {value : Json}
    (cut : IsCutInto (write value).toList (tokensOf value)) :
    IsCutInto (stringText name ++ ":" ++ write value).toList (memberTokens (name, value)) := by
  have further := cut.mark (by decide) (by decide) (show punctuation? ':' = _ from rfl)
  have whole := (isCutInto_string name).append further rfl (by decide)
  rw [String.toList_append, String.toList_append, List.append_assoc]
  exact whole

theorem isCutInto_commaText {α : Type} {items : List α} {text : α → String}
    {pieces : α → List Token}
    (cut : ∀ item ∈ items, IsCutInto (text item).toList (pieces item)) :
    IsCutInto (commaText (items.map text)).toList
      (List.intercalate [.comma] (items.map pieces)) := by
  let texts := items.map fun item => ((text item).toList, pieces item)
  have each : ∀ piece ∈ texts, IsCutInto piece.1 piece.2 := by
    intro piece among
    obtain ⟨item, present, rfl⟩ := List.mem_map.mp among
    exact cut item present
  have whole := isCutInto_commas each
  rw [List.map_map, List.map_map] at whole
  unfold commaText
  rw [String.toList_intercalate, List.map_map]
  exact whole

theorem isCutInto_write {value : Json} (exactness : IsExact value) :
    IsCutInto (write value).toList (tokensOf value) := by
  induction exactness with
  | null => exact isCutInto_word (by decide) (by decide) rfl (by decide) rfl rfl
  | boolean value =>
      cases value with
      | false => exact isCutInto_word (by decide) (by decide) rfl (by decide) rfl rfl
      | true => exact isCutInto_word (by decide) (by decide) rfl (by decide) rfl rfl
  | integer fits => exact isCutInto_integer fits
  | text value => exact isCutInto_string value
  | @list items _ ih =>
      have closing := isCutInto_nil.mark (by decide) (by decide) (show punctuation? ']' = _ from rfl)
      have inside := (isCutInto_commaText ih).append closing rfl (by decide)
      have whole := inside.mark (by decide) (by decide) (show punctuation? '[' = _ from rfl)
      rw [write, tokensOf, writeItems_eq, itemTokens_eq]
      simp only [String.toList_append]
      exact whole
  | @object entries _ _ ih =>
      have members : ∀ entry ∈ entries, IsCutInto (stringText entry.1 ++ ":" ++ write entry.2).toList
          (memberTokens entry) := fun entry among => isCutInto_member (ih entry among)
      have closing := isCutInto_nil.mark (by decide) (by decide)
        (show punctuation? '\x7d' = _ from rfl)
      have inside := (isCutInto_commaText members).append closing rfl (by decide)
      have whole := inside.mark (by decide) (by decide) (show punctuation? '\x7b' = _ from rfl)
      rw [write, tokensOf, writeEntries_eq, entryTokens_eq]
      simp only [String.toList_append]
      exact whole

mutual

def arranged : Json → Json
  | .list items => .list (arrangedItems items)
  | .object entries => ofEntries (arrangedEntries entries)
  | value => value

def arrangedItems : List Json → List Json
  | [] => []
  | item :: rest => arranged item :: arrangedItems rest

def arrangedEntries : List (String × Json) → List (String × Json)
  | [] => []
  | (name, value) :: rest => (name, arranged value) :: arrangedEntries rest

end

theorem arrangedItems_eq (items : List Json) : arrangedItems items = items.map arranged := by
  induction items with
  | nil => rfl
  | cons item rest ih => rw [arrangedItems, ih, List.map_cons]

theorem arrangedEntries_eq (entries : List (String × Json)) :
    arrangedEntries entries = entries.map fun entry => (entry.1, arranged entry.2) := by
  induction entries with
  | nil => rfl
  | cons entry rest ih => rw [arrangedEntries, ih, List.map_cons]

def AddsUpTo (pieces : List Token) (value : Json) : Prop :=
  ∀ frames : List Frame, Assembly.takesValue ⟨frames, none⟩ = true →
    pieces.foldlM Assembly.step ⟨frames, none⟩ = Assembly.addValue ⟨frames, none⟩ value

/-- The first item of a list stands by itself, and each further one behind a comma. -/
theorem intercalate_cons {α : Type} (separator : α) (first : List α) (others : List (List α)) :
    List.intercalate [separator] (first :: others) = first ++ others.flatMap (separator :: ·) := by
  induction others generalizing first with
  | nil => rw [List.intercalate_singleton, List.flatMap_nil, List.append_nil]
  | cons next rest ih =>
      rw [List.intercalate_cons_cons, ih next, List.flatMap_cons, List.append_assoc,
        List.singleton_append, List.cons_append]

theorem addsUpTo_scalar {value : Json} : AddsUpTo [.scalar value] value := by
  intro frames _
  rw [List.foldlM_cons]
  show (Assembly.addValue ⟨frames, none⟩ value).bind some = _
  exact Option.bind_fun_some _

theorem foldlM_laterItems {items : List Json} (outer : List Frame) (taken : List Json)
    (each : ∀ item ∈ items, AddsUpTo (tokensOf item) (arranged item)) :
    ((items.map tokensOf).flatMap (Token.comma :: ·)).foldlM Assembly.step
        ⟨.afterItem taken :: outer, none⟩ =
      some ⟨.afterItem ((items.map arranged).reverse ++ taken) :: outer, none⟩ := by
  induction items generalizing taken with
  | nil => rfl
  | cons item rest ih =>
      rw [List.forall_mem_cons] at each
      have added := each.1 (.beforeItem taken :: outer) rfl
      rw [List.map_cons, List.flatMap_cons, List.cons_append, List.foldlM_cons]
      show (List.foldlM Assembly.step ⟨.beforeItem taken :: outer, none⟩ _) = _
      rw [List.foldlM_append, added]
      show List.foldlM Assembly.step ⟨.afterItem (arranged item :: taken) :: outer, none⟩ _ = _
      rw [ih (arranged item :: taken) each.2, List.map_cons, List.reverse_cons, List.append_assoc,
        List.singleton_append]

theorem addsUpTo_list {items : List Json}
    (each : ∀ item ∈ items, AddsUpTo (tokensOf item) (arranged item)) :
    AddsUpTo (tokensOf (.list items)) (arranged (.list items)) := by
  intro frames takes
  have opened : Assembly.step ⟨frames, none⟩ .openList = some ⟨.emptyList :: frames, none⟩ :=
    if_pos takes
  rw [tokensOf, arranged, itemTokens_eq, arrangedItems_eq, List.foldlM_cons, opened]
  cases items with
  | nil =>
      show (Assembly.addValue ⟨frames, none⟩ (.list [])).bind some = _
      exact Option.bind_fun_some _
  | cons item rest =>
      rw [List.forall_mem_cons] at each
      have added := each.1 (.emptyList :: frames) rfl
      rw [List.map_cons, intercalate_cons, List.append_assoc]
      show List.foldlM Assembly.step ⟨.emptyList :: frames, none⟩ _ = _
      rw [List.foldlM_append, added]
      show List.foldlM Assembly.step ⟨.afterItem [arranged item] :: frames, none⟩ _ = _
      rw [List.foldlM_append, foldlM_laterItems frames [arranged item] each.2]
      show (Assembly.addValue ⟨frames, none⟩ (.list _)).bind some = _
      rw [List.reverse_append, List.reverse_reverse, List.reverse_singleton,
        List.singleton_append]
      exact Option.bind_fun_some _

theorem foldlM_member {entry : String × Json} {frame : Frame} {outer : List Frame}
    {taken : List (String × Json)}
    (opens : Assembly.addValue ⟨frame :: outer, none⟩ (.text entry.1) =
      some ⟨.afterName taken entry.1 :: outer, none⟩)
    (each : AddsUpTo (tokensOf entry.2) (arranged entry.2)) :
    (memberTokens entry).foldlM Assembly.step ⟨frame :: outer, none⟩ =
      some ⟨.afterEntry ((entry.1, arranged entry.2) :: taken) :: outer, none⟩ := by
  unfold memberTokens
  rw [List.foldlM_cons]
  show (Assembly.addValue ⟨frame :: outer, none⟩ (.text entry.1)).bind _ = _
  rw [opens]
  exact each (.beforeValue taken entry.1 :: outer) rfl

theorem foldlM_laterMembers {entries : List (String × Json)} (outer : List Frame)
    (taken : List (String × Json))
    (each : ∀ entry ∈ entries, AddsUpTo (tokensOf entry.2) (arranged entry.2)) :
    ((entries.map memberTokens).flatMap (Token.comma :: ·)).foldlM Assembly.step
        ⟨.afterEntry taken :: outer, none⟩ =
      some ⟨.afterEntry ((entries.map fun entry => (entry.1, arranged entry.2)).reverse ++ taken) ::
        outer, none⟩ := by
  induction entries generalizing taken with
  | nil => rfl
  | cons entry rest ih =>
      rw [List.forall_mem_cons] at each
      have added : (memberTokens entry).foldlM Assembly.step ⟨.beforeName taken :: outer, none⟩ =
          _ := foldlM_member rfl each.1
      rw [List.map_cons, List.flatMap_cons, List.cons_append, List.foldlM_cons]
      show List.foldlM Assembly.step ⟨.beforeName taken :: outer, none⟩ _ = _
      rw [List.foldlM_append, added]
      show List.foldlM Assembly.step
        ⟨.afterEntry ((entry.1, arranged entry.2) :: taken) :: outer, none⟩ _ = _
      rw [ih _ each.2, List.map_cons, List.reverse_cons, List.append_assoc, List.singleton_append]

theorem addsUpTo_object {entries : List (String × Json)}
    (each : ∀ entry ∈ entries, AddsUpTo (tokensOf entry.2) (arranged entry.2)) :
    AddsUpTo (tokensOf (.object entries)) (arranged (.object entries)) := by
  intro frames takes
  have opened : Assembly.step ⟨frames, none⟩ .openObject = some ⟨.emptyObject :: frames, none⟩ :=
    if_pos takes
  rw [tokensOf, arranged, entryTokens_eq, arrangedEntries_eq, List.foldlM_cons, opened]
  cases entries with
  | nil =>
      show (Assembly.addValue ⟨frames, none⟩ (.object [])).bind some = _
      exact Option.bind_fun_some _
  | cons entry rest =>
      rw [List.forall_mem_cons] at each
      have added : (memberTokens entry).foldlM Assembly.step ⟨.emptyObject :: frames, none⟩ = _ :=
        foldlM_member rfl each.1
      rw [List.map_cons, intercalate_cons, List.append_assoc]
      show List.foldlM Assembly.step ⟨.emptyObject :: frames, none⟩ _ = _
      rw [List.foldlM_append, added]
      show List.foldlM Assembly.step ⟨.afterEntry [(entry.1, arranged entry.2)] :: frames, none⟩ _ = _
      rw [List.foldlM_append, foldlM_laterMembers frames [(entry.1, arranged entry.2)] each.2]
      show (Assembly.addValue ⟨frames, none⟩ (ofEntries (List.reverse _))).bind some = _
      rw [List.reverse_append, List.reverse_reverse, List.reverse_singleton,
        List.singleton_append]
      exact Option.bind_fun_some _

theorem addsUpTo_tokensOf {value : Json} (exactness : IsExact value) :
    AddsUpTo (tokensOf value) (arranged value) := by
  induction exactness with
  | null => exact addsUpTo_scalar
  | boolean value => exact addsUpTo_scalar
  | integer fits => exact addsUpTo_scalar
  | text value => exact addsUpTo_scalar
  | list _ ih => exact addsUpTo_list ih
  | object _ _ ih => exact addsUpTo_object ih

/-- A written value is read back with its members in the order of their names. -/
theorem read?_write {value : Json} (exactness : IsExact value) :
    read? (write value) = some (arranged value) := by
  have cut := isCutInto_write exactness [] delimits_nil
  have added := addsUpTo_tokensOf exactness [] rfl
  have nothing : tokens [] = some [] := by rw [tokens]
  rw [List.append_nil, nothing, Option.map_some, List.append_nil] at cut
  unfold read?
  rw [cut]
  show (List.foldlM Assembly.step ⟨[], none⟩ (tokensOf value)).bind _ = _
  rw [added]
  rfl

theorem rearranged_arranged {value : Json} (exactness : IsExact value) :
    Rearranged value (arranged value) := by
  induction exactness with
  | null => exact .same _
  | boolean value => exact .same _
  | integer fits => exact .same _
  | text value => exact .same _
  | @list items _ ih =>
      rw [arranged, arrangedItems_eq]
      refine .list (List.length_map _).symm ?_
      intro index inside there
      rw [List.getElem_map]
      exact ih _ (List.getElem_mem inside)
  | @object entries differ _ ih =>
      rw [arranged, arrangedEntries_eq]
      have sameNames : (entries.map fun entry => (entry.1, arranged entry.2)).map Prod.fst =
          entries.map Prod.fst := List.map_map
      have stillDiffer : NamesDiffer (entries.map fun entry => (entry.1, arranged entry.2)) := by
        unfold NamesDiffer
        rw [sameNames]
        exact differ
      obtain ⟨sorted, same, perm⟩ := ofEntries_perm stillDiffer
      rw [same]
      have names := perm.map Prod.fst
      rw [sameNames] at names
      refine .object names ?_
      intro name value other present there
      obtain ⟨entry, among, found⟩ := List.mem_map.mp (perm.mem_iff.mp there)
      cases found
      -- The names differ, so that the value under this one is the one that was rearranged.
      have first := valueUnder_of_mem differ present
      rw [valueUnder_of_mem differ among] at first
      cases first
      exact ih entry among

end Telemetry.Json
