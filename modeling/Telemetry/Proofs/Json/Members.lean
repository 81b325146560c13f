import Telemetry.Json.Basic
import Telemetry.Record

/-! Members of objects. Two values are rearrangements of each other if they differ in no more than
the order of the members of their objects. Putting the members into the order of their names is a
rearrangement where no name occurs twice. -/

namespace Telemetry

def valueUnder {ν : Type} (entries : List (String × ν)) (name : String) : Option ν :=
  (entries.find? (·.1 == name)).map (·.2)

def NamesDiffer {ν : Type} (entries : List (String × ν)) : Prop := (entries.map Prod.fst).Nodup

section

variable {ν : Type} {entries others : List (String × ν)} {name : String} {value : ν}

theorem valueUnder_cons (first : String × ν) :
    valueUnder (first :: entries) name =
      if first.1 = name then some first.2 else valueUnder entries name := by
  unfold valueUnder
  rw [List.find?_cons]
  by_cases same : first.1 = name
  · rw [if_pos same, beq_iff_eq.mpr same]
    rfl
  · rw [if_neg same, beq_eq_false_iff_ne.mpr same]

theorem mem_of_valueUnder (found : valueUnder entries name = some value) :
    (name, value) ∈ entries := by
  obtain ⟨entry, first, same⟩ := Option.map_eq_some_iff.mp found
  have named := List.find?_some first
  rw [← beq_iff_eq.mp named, ← same]
  exact List.mem_of_find?_eq_some first

theorem valueUnder_of_mem (differ : NamesDiffer entries) (among : (name, value) ∈ entries) :
    valueUnder entries name = some value := by
  induction entries with
  | nil => cases among
  | cons first rest ih =>
      obtain ⟨fresh, later⟩ := List.nodup_cons.mp differ
      rw [valueUnder_cons]
      rcases List.mem_cons.mp among with same | inside
      · rw [← same, if_pos rfl]
      · have other : first.1 ≠ name := by
          intro same
          exact fresh (same ▸ List.mem_map_of_mem inside)
        rw [if_neg other]
        exact ih later inside

theorem valueUnder_eq_none : valueUnder entries name = none ↔ name ∉ entries.map Prod.fst := by
  unfold valueUnder
  rw [Option.map_eq_none_iff, List.find?_eq_none]
  constructor
  · rintro absent among
    obtain ⟨entry, present, same⟩ := List.mem_map.mp among
    exact absent entry present (beq_iff_eq.mpr same)
  · intro absent entry present same
    exact absent (List.mem_map.mpr ⟨entry, present, beq_iff_eq.mp same⟩)

theorem valueUnder_filter {other : String} (different : name ≠ other) :
    valueUnder (entries.filter (·.1 != other)) name = valueUnder entries name := by
  induction entries with
  | nil => rfl
  | cons first rest ih =>
      by_cases dropped : first.1 = other
      · rw [List.filter_cons_of_neg (by simpa using dropped), ih, valueUnder_cons,
          if_neg (fun same => different (same.symm.trans dropped))]
      · rw [List.filter_cons_of_pos (by simpa using dropped), valueUnder_cons, valueUnder_cons, ih]

theorem valueUnder_filter_self (name : String) :
    valueUnder (entries.filter (·.1 != name)) name = none := by
  rw [valueUnder_eq_none]
  intro among
  obtain ⟨entry, present, same⟩ := List.mem_map.mp among
  have other := (List.mem_filter.mp present).2
  rw [same, bne_self_eq_false] at other
  cases other

theorem NamesDiffer.filter (differ : NamesDiffer entries) (keeps : String × ν → Bool) :
    NamesDiffer (entries.filter keeps) :=
  List.Nodup.sublist (List.filter_sublist.map Prod.fst) differ

end

namespace Json

/-- What a value can become when the members of its objects are put into another order. -/
inductive Rearranged : Json → Json → Prop where
  | same (value : Json) : Rearranged value value
  | list {items others : List Json} (length : items.length = others.length)
      (each : ∀ (index : Nat) (inside : index < items.length) (there : index < others.length),
        Rearranged items[index] others[index]) :
      Rearranged (.list items) (.list others)
  | object {entries others : List (String × Json)}
      (names : (others.map Prod.fst).Perm (entries.map Prod.fst))
      (each : ∀ name value other, (name, value) ∈ entries → (name, other) ∈ others →
        Rearranged value other) :
      Rearranged (.object entries) (.object others)

def IsScalar : Json → Prop
  | .list _ | .object _ => False
  | _ => True

theorem Rearranged.of_scalar {value other : Json} (rearranged : Rearranged value other)
    (scalar : value.IsScalar) : other = value := by
  cases rearranged with
  | same => rfl
  | list => cases scalar
  | object => cases scalar

/-- A rearranged object has the same names, and under each of them the same value or a
rearranged one. -/
theorem Rearranged.of_object {entries : List (String × Json)} {form : Json}
    (differ : NamesDiffer entries) (rearranged : Rearranged (.object entries) form) :
    ∃ others, form = .object others ∧ NamesDiffer others ∧
      (∀ name, valueUnder entries name = none → valueUnder others name = none) ∧
      ∀ name value, valueUnder entries name = some value →
        ∃ other, valueUnder others name = some other ∧ Rearranged value other := by
  cases rearranged with
  | same =>
      exact ⟨entries, rfl, differ, fun _ absent => absent,
        fun _ value found => ⟨value, found, .same value⟩⟩
  | @object _ others names each =>
      have othersDiffer : NamesDiffer others := names.nodup_iff.mpr differ
      refine ⟨others, rfl, othersDiffer, ?_, ?_⟩
      · intro name absent
        rw [valueUnder_eq_none] at absent ⊢
        exact fun among => absent (names.mem_iff.mp among)
      · intro name value found
        have present := mem_of_valueUnder found
        have named : name ∈ others.map Prod.fst :=
          names.mem_iff.mpr (List.mem_map_of_mem (f := Prod.fst) present)
        obtain ⟨entry, among, rfl⟩ := List.mem_map.mp named
        exact ⟨entry.2, valueUnder_of_mem othersDiffer among,
          each entry.1 value entry.2 present among⟩

theorem Rearranged.of_scalars {entries : List (String × Json)} {form : Json}
    (differ : NamesDiffer entries) (scalars : ∀ entry ∈ entries, entry.2.IsScalar)
    (rearranged : Rearranged (.object entries) form) :
    ∃ others, form = .object others ∧ NamesDiffer others ∧
      valueUnder others = valueUnder entries := by
  obtain ⟨others, same, othersDiffer, absent, present⟩ := rearranged.of_object differ
  refine ⟨others, same, othersDiffer, ?_⟩
  funext name
  cases found : valueUnder entries name with
  | none => exact absent name found
  | some value =>
      obtain ⟨other, there, changed⟩ := present name value found
      rw [there, changed.of_scalar (scalars (name, value) (mem_of_valueUnder found))]

theorem insertEntry_perm {name : String} {sorted : List (String × Json)} (value : Json)
    (fresh : name ∉ sorted.map Prod.fst) :
    (insertEntry name value sorted).Perm ((name, value) :: sorted) := by
  induction sorted with
  | nil => exact .refl _
  | cons first rest ih =>
      rw [List.map_cons, List.mem_cons, not_or] at fresh
      rw [insertEntry, if_neg fresh.1]
      split
      · exact .refl _
      · exact ((ih fresh.2).cons first).trans (.swap (name, value) first rest)

theorem foldl_insertEntry_perm {entries sorted : List (String × Json)}
    (differ : NamesDiffer (sorted ++ entries)) :
    (entries.foldl (fun sorted entry => insertEntry entry.1 entry.2 sorted) sorted).Perm
      (sorted ++ entries) := by
  induction entries generalizing sorted with
  | nil => exact .of_eq (List.append_nil sorted).symm
  | cons first rest ih =>
      have fresh : first.1 ∉ sorted.map Prod.fst := by
        intro among
        have apart := differ
        unfold NamesDiffer at apart
        rw [List.map_append, List.nodup_append] at apart
        exact apart.2.2 first.1 among first.1 List.mem_cons_self rfl
      have inserted : (insertEntry first.1 first.2 sorted ++ rest).Perm
          (sorted ++ first :: rest) :=
        ((insertEntry_perm first.2 fresh).append_right rest).trans List.perm_middle.symm
      exact (ih ((inserted.map Prod.fst).nodup_iff.mpr differ)).trans inserted

theorem ofEntries_perm {entries : List (String × Json)} (differ : NamesDiffer entries) :
    ∃ sorted, ofEntries entries = .object sorted ∧ sorted.Perm entries :=
  ⟨_, rfl, foldl_insertEntry_perm differ⟩

end Json

end Telemetry
