import Telemetry.Preferences.Store
import Telemetry.Proofs.Text.Utf8
import Telemetry.Proofs.Toml.Document

/-! Preferences in a file. The keys of a store are kept in their order, each of them once, and such
preferences are read back from the document that they are written to. -/

namespace Telemetry

namespace Values

/-- The keys are in their order, each of them once. -/
def Ascending (values : Values) : Prop := values.Pairwise fun first second => first.1 < second.1

theorem ascending_insert {values : Values} (ascending : values.Ascending) (key : String)
    (preference : Preference) :
    (insert key preference values).Ascending ∧
      ∀ entry ∈ insert key preference values, entry.1 = key ∨ entry ∈ values := by
  induction values with
  | nil => simp [insert, Ascending]
  | cons entry rest ih =>
      obtain ⟨other, kept⟩ := entry
      obtain ⟨below, later⟩ := List.pairwise_cons.mp ascending
      unfold insert
      split
      · rename_i same
        subst same
        refine ⟨List.pairwise_cons.mpr ⟨below, later⟩, ?_⟩
        intro entry member
        rcases List.mem_cons.mp member with rfl | there
        · exact .inl rfl
        · exact .inr (List.mem_cons_of_mem _ there)
      · rename_i apart
        split
        · rename_i before
          refine ⟨List.pairwise_cons.mpr ⟨?_, ascending⟩, ?_⟩
          · intro entry member
            rcases List.mem_cons.mp member with rfl | there
            · exact before
            · exact String.lt_trans before (below entry there)
          · intro entry member
            rcases List.mem_cons.mp member with rfl | there
            · exact .inl rfl
            · exact .inr there
        · rename_i after
          obtain ⟨sorted, known⟩ := ih later
          refine ⟨List.pairwise_cons.mpr ⟨?_, sorted⟩, ?_⟩
          · intro entry member
            rcases known entry member with same | there
            · rw [same]
              exact Std.lt_of_le_of_ne (String.not_lt.mp after) (Ne.symm apart)
            · exact below entry there
          · intro entry member
            rcases List.mem_cons.mp member with rfl | there
            · exact .inr List.mem_cons_self
            · exact (known entry there).imp_right (List.mem_cons_of_mem _)

theorem Ascending.put {values : Values} (ascending : values.Ascending) (key : String)
    (value : Option Preference) : (values.put key value).Ascending := by
  cases value with
  | none => exact List.Pairwise.filter _ ascending
  | some preference => exact (ascending_insert ascending key preference).1

theorem Ascending.nodup {values : Values} (ascending : values.Ascending) :
    (values.map Prod.fst).Nodup := by
  rw [List.Nodup, List.pairwise_map]
  refine List.Pairwise.imp ?_ ascending
  intro first second before same
  rw [same] at before
  exact String.lt_irrefl _ before

theorem insert_last {key : String} {values : Values} (behind : ∀ entry ∈ values, entry.1 < key)
    (preference : Preference) : insert key preference values = values ++ [(key, preference)] := by
  induction values with
  | nil => rfl
  | cons entry rest ih =>
      obtain ⟨other, kept⟩ := entry
      obtain ⟨before, later⟩ := List.forall_mem_cons.mp behind
      have apart : key ≠ other := by
        rintro rfl
        exact String.lt_irrefl _ before
      rw [insert, if_neg apart, if_neg (String.lt_asymm before), ih later]
      rfl

/-- One entry of a document is added to the preferences that have been read. -/
def addEntry (values : Values) (entry : String × Toml) : Option Values :=
  (ofToml? entry.2).map (insert entry.1 · values)

theorem ascending_addEntries (entries : List (String × Toml)) {values found : Values}
    (ascending : values.Ascending) (added : entries.foldlM addEntry values = some found) :
    found.Ascending := by
  induction entries generalizing values with
  | nil =>
      cases added
      exact ascending
  | cons entry rest ih =>
      rw [List.foldlM_cons] at added
      obtain ⟨next, first, later⟩ := Option.bind_eq_some_iff.mp added
      obtain ⟨preference, _, rfl⟩ := Option.map_eq_some_iff.mp first
      exact ih (ascending_insert ascending entry.1 preference).1 later

theorem ascending_read? {contents : String} {values : Values}
    (read : read? contents = some values) : values.Ascending := by
  obtain ⟨entries, _, added⟩ := Option.bind_eq_some_iff.mp read
  exact ascending_addEntries entries List.Pairwise.nil added

def toToml : Preference → Toml
  | .boolean value => .boolean value
  | .text value => .text value

theorem writes_writePreference (preference : Preference) :
    Toml.Writes (writePreference preference) (toToml preference) := by
  cases preference with
  | boolean value => exact Toml.writes_boolean value
  | text value => exact Toml.writes_text value

theorem addEntries_toToml {done values : Values} (ascending : (done ++ values).Ascending) :
    (values.map fun entry => (entry.1, toToml entry.2)).foldlM addEntry done =
      some (done ++ values) := by
  induction values generalizing done with
  | nil =>
      rw [List.append_nil]
      rfl
  | cons entry rest ih =>
      have behind : ∀ earlier ∈ done, earlier.1 < entry.1 := fun earlier member =>
        (List.pairwise_append.mp ascending).2.2 earlier member entry List.mem_cons_self
      have known : ofToml? (toToml entry.2) = some entry.2 := by
        cases entry.2 <;> rfl
      have added : addEntry done (entry.1, toToml entry.2) = some (done ++ [entry]) := by
        rw [addEntry, known, Option.map_some, insert_last behind]
      have whole : done ++ entry :: rest = done ++ [entry] ++ rest := by simp
      rw [whole] at ascending ⊢
      rw [List.map_cons, List.foldlM_cons, added]
      exact ih ascending

theorem read?_write {values : Values} (ascending : values.Ascending) :
    read? values.write = some values := by
  have document : values.write = Toml.document writePreference values := rfl
  rw [read?, document, Toml.read?_document writes_writePreference ascending.nodup]
  exact addEntries_toToml ascending

end Values

end Telemetry
