import Telemetry.Preferences.Run

/-! What a write comes to: another value under its key and no other, told to all who listen, unless
there is no change or the disk fails. -/

namespace Telemetry

namespace Values

theorem get_insert_other {key other : String} (apart : key ≠ other) (value : Preference)
    (values : Values) : (insert key value values).get? other = values.get? other := by
  have skips (rest : Values) : get? ((key, value) :: rest) other = get? rest other := by
    unfold get?
    rw [List.find?_cons_of_neg]
    simpa using apart
  induction values with
  | nil => exact skips []
  | cons entry rest ih =>
      obtain ⟨name, kept⟩ := entry
      unfold insert
      split
      · rename_i same
        rw [skips]
        unfold get?
        rw [List.find?_cons_of_neg]
        simpa [← same] using apart
      · split
        · exact skips _
        · unfold get? at ih ⊢
          simp only [List.find?_cons]
          split
          · rfl
          · exact ih

theorem get_erase_other {key other : String} (apart : key ≠ other) (values : Values) :
    (erase values key).get? other = values.get? other := by
  unfold get? erase
  rw [List.find?_filter]
  congr 2
  funext entry
  by_cases same : entry.1 = other
  · simp [same, Ne.symm apart]
  · simp [same]

theorem get_put_other {key other : String} (apart : key ≠ other) (value : Option Preference)
    (values : Values) : (values.put key value).get? other = values.get? other := by
  cases value with
  | none => exact get_erase_other apart values
  | some value => exact get_insert_other apart value values

theorem get_insert_self (key : String) (value : Preference) (values : Values) :
    (insert key value values).get? key = some value := by
  induction values with
  | nil => simp [insert, get?]
  | cons entry rest ih =>
      obtain ⟨name, kept⟩ := entry
      unfold insert
      split
      · simp [get?]
      · rename_i other
        split
        · simp [get?]
        · unfold get? at ih ⊢
          rw [List.find?_cons_of_neg]
          · exact ih
          · simpa using Ne.symm other

theorem get_put_self (key : String) (value : Option Preference) (values : Values) :
    (values.put key value).get? key = value := by
  cases value with
  | none =>
      unfold put erase get?
      rw [List.find?_filter]
      simp
  | some value => exact get_insert_self key value values

end Values

namespace Store

variable {α : Type} {key : String} {value : Option Preference}

theorem put_same (store : Store α) (disk : Disk) (same : store.get? key = value) :
    store.put disk key value = ⟨.ok [], store, disk⟩ := if_pos same

theorem put_other (store : Store α) (disk : Disk) (other : store.get? key ≠ value) :
    (∃ cause after, store.put disk key value = ⟨.error (.disk cause), store, after⟩) ∨
      ∃ after, store.put disk key value = ⟨.ok store.listeners.items,
        { store with values := store.values.put key value }, after⟩ := by
  unfold put
  rw [if_neg other]
  dsimp only
  split
  · exact .inr ⟨disk, rfl⟩
  · split
    · exact .inl ⟨_, _, rfl⟩
    · exact .inr ⟨_, rfl⟩

end Store

namespace StoreSession

/-- A write of another value fails at the disk, or it is told to all listeners; a write of the same
value does nothing. -/
inductive Writing (session : StoreSession) (key : String) (value : Option Preference)
    (success : StoreResult) : List StoreFrame × StoreResult × StoreSession → Prop where
  | unchanged (same : session.store.get? key = value) :
      Writing session key value success ([], success, session)
  | failed (other : session.store.get? key ≠ value) (disk : Disk) (cause : DiskFault) :
      Writing session key value success ([], .failed (.disk cause), { session with disk })
  | written (other : session.store.get? key ≠ value) (disk : Disk) :
      Writing session key value success (tellings session.store.listeners.items key, success,
        { session with disk, store.values := session.store.values.put key value })

theorem writing_write (session : StoreSession) (key : String) (value : Option Preference)
    (success : StoreResult) :
    session.Writing key value success (session.write key value success) := by
  unfold write
  by_cases same : session.store.get? key = value
  · rw [session.store.put_same session.disk same]
    exact .unchanged same
  · rcases session.store.put_other session.disk same with ⟨cause, disk, put⟩ | ⟨disk, put⟩
    · rw [put]
      exact .failed same disk cause
    · rw [put]
      exact .written same disk

theorem put_inMemory {session : StoreSession} {key : String} {value : Option Preference}
    (inMemory : session.store.backing = .memory) (other : session.store.get? key ≠ value) :
    session.perform (.put key value) = (tellings session.store.listeners.items key, .written,
      { session with store.values := session.store.values.put key value }) := by
  have put : session.store.put session.disk key value = ⟨.ok session.store.listeners.items,
      { session.store with values := session.store.values.put key value }, session.disk⟩ := by
    unfold Store.put
    rw [if_neg other]
    dsimp only
    rw [inMemory]
  simp only [perform, write, put]

/-- The write of a preference comes to something, and to something else than before. -/
def Rewrites (session : StoreSession) (key : String) (value : Option Preference) : Prop :=
  session.store.get? key ≠ value ∧ (session.perform (.put key value)).2.1 = .written

theorem Rewrites.told {session : StoreSession} {key : String} {value : Option Preference}
    (rewrites : session.Rewrites key value) :
    ∃ disk, session.perform (.put key value) =
      (tellings session.store.listeners.items key, .written,
        { session with disk, store.values := session.store.values.put key value }) := by
  obtain ⟨changed, succeeds⟩ := rewrites
  have writing : session.Writing key value .written (session.perform (.put key value)) :=
    session.writing_write key value .written
  generalize session.perform (.put key value) = outcome at *
  cases writing with
  | unchanged same => exact absurd same changed
  | failed other disk cause => cases succeeds
  | written other disk => exact ⟨disk, rfl⟩

theorem perform_put (session : StoreSession) (key : String) (value : Option Preference) :
    session.Rewrites key value ∨
      ∃ disk result, session.perform (.put key value) = ([], result, { session with disk }) := by
  have writing : session.Writing key value .written (session.perform (.put key value)) :=
    session.writing_write key value .written
  unfold Rewrites
  generalize session.perform (.put key value) = outcome at *
  cases writing with
  | unchanged same => exact .inr ⟨session.disk, _, rfl⟩
  | failed other disk cause => exact .inr ⟨disk, _, rfl⟩
  | written other disk => exact .inl ⟨other, rfl⟩

end StoreSession

end Telemetry
