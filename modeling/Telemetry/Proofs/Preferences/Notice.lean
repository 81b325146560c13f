import Telemetry.Proofs.Agenda
import Telemetry.Proofs.Preferences.Reserve
import Telemetry.Proofs.Preferences.Writing
import Telemetry.Proofs.Registry

/-! Listeners that write, come and go while they are told of a change. All that was done up to a deed
says who listens when it begins: whoever subscribed and did not cancel. A change is told to these,
in the order of their subscriptions, whatever they do meanwhile. -/

namespace Telemetry.StoreSession

abbrev StoreDeed := Deed StoreSession StoreFrame

def taken? (deed : StoreDeed) : Option (StoreStep × StoreResult) :=
  match deed.frame with
  | .take _ (next :: _) => some (next, (deed.state.perform next).2.1)
  | _ => none

def subscription? (deed : StoreDeed) : Option (Nat × Listener) :=
  match taken? deed with
  | some (.subscribe _ _ _, .subscribed number) =>
      some (number, .scripted deed.state.scripts.length)
  | _ => none

def cancellation? (deed : StoreDeed) : Option Nat :=
  match taken? deed with
  | some (.unsubscribe index, _) => deed.state.numbers[index]?
  | _ => none

def newcomer? (deed : StoreDeed) : Option String :=
  match taken? deed with
  | some (.subscribe name _ _, _) => some name
  | _ => none

def subscribed (past : List StoreDeed) : List (Nat × Listener) := past.filterMap subscription?

/-- The listeners that subscribed and did not cancel, in the order of their subscriptions. -/
def present (past : List StoreDeed) : List (Nat × Listener) :=
  Registry.remaining (subscribed past) (past.filterMap cancellation?)

/-- The session is what the past has made of one that nobody had subscribed in. -/
structure Recounts (past : List StoreDeed) (session : StoreSession) : Prop where
  listeners : session.store.listeners.Recalls (subscribed past) (past.filterMap cancellation?)
  numbers : session.numbers = (subscribed past).map (·.1)
  names : session.scripts.map Script.name = past.filterMap newcomer?
  known : ∀ listener ∈ (subscribed past).map (·.2),
    ∃ index, listener = .scripted index ∧ index < session.scripts.length
  obeys : session.Obeys (·.staysOpen = true)

/-- The steps that the frame takes leave the store in its place, and whoever it tells is there. -/
def Suits (session : StoreSession) (frame : StoreFrame) : Prop :=
  Fits (·.staysOpen = true) frame ∧
    ∀ listener key, frame = .tell listener key →
      ∃ index, listener = .scripted index ∧ index < session.scripts.length

variable {past : List StoreDeed} {session after : StoreSession} {deed : StoreDeed}

theorem subscribed_snoc (past : List StoreDeed) (deed : StoreDeed) :
    subscribed (past ++ [deed]) = subscribed past ++ (subscription? deed).toList :=
  Deed.filterMap_snoc subscription? past deed

theorem Recounts.items (recounts : Recounts past session) :
    session.store.listeners.items = (present past).map (·.2) := by
  rw [Registry.items, recounts.listeners.entries]
  rfl

theorem Recounts.snoc (recounts : Recounts past session)
    (listeners : after.store.listeners.Recalls (subscribed past ++ (subscription? deed).toList)
      (past.filterMap cancellation? ++ (cancellation? deed).toList))
    (numbers : after.numbers = session.numbers ++ (subscription? deed).toList.map (·.1))
    (names : after.scripts.map Script.name =
      session.scripts.map Script.name ++ (newcomer? deed).toList)
    (known : ∀ listener ∈ (subscription? deed).toList.map (·.2),
      ∃ index, listener = .scripted index ∧ index < after.scripts.length)
    (obeys : after.Obeys (·.staysOpen = true)) : Recounts (past ++ [deed]) after := by
  have grows : session.scripts.length ≤ after.scripts.length := by
    have lengths := congrArg List.length names
    simp only [List.length_append, List.length_map] at lengths
    omega
  constructor
  · rw [subscribed_snoc, Deed.filterMap_snoc]
    exact listeners
  · rw [numbers, subscribed_snoc, List.map_append, recounts.numbers]
  · rw [names, Deed.filterMap_snoc, recounts.names]
  · intro listener met
    rw [subscribed_snoc, List.map_append, List.mem_append] at met
    rcases met with old | new
    · obtain ⟨index, same, within⟩ := recounts.known listener old
      exact ⟨index, same, Nat.lt_of_lt_of_le within grows⟩
    · exact known listener new
  · exact obeys

theorem Recounts.aside (recounts : Recounts past session) (noSubscription : subscription? deed = none)
    (noCancellation : cancellation? deed = none) (noNewcomer : newcomer? deed = none)
    (listeners : after.store.listeners = session.store.listeners)
    (numbers : after.numbers = session.numbers)
    (names : after.scripts.map Script.name = session.scripts.map Script.name)
    (obeys : after.Obeys (·.staysOpen = true)) : Recounts (past ++ [deed]) after := by
  apply recounts.snoc
  · simpa [noSubscription, noCancellation, listeners] using recounts.listeners
  · simpa [noSubscription] using numbers
  · simpa [noNewcomer] using names
  · rw [noSubscription]
    exact List.forall_mem_nil _
  · exact obeys

theorem tell_keeps (session : StoreSession) (index : Nat) (key : String) :
    (session.tell index key).2.store = session.store ∧
      (session.tell index key).2.numbers = session.numbers ∧
      (session.tell index key).2.scripts.map Script.name = session.scripts.map Script.name := by
  unfold StoreSession.tell
  split
  · exact ⟨rfl, rfl, rfl⟩
  · rename_i script found
    dsimp only
    split
    · exact ⟨rfl, rfl, rfl⟩
    · exact ⟨rfl, rfl, map_set_of_same found rfl⟩

theorem tell_takes (session : StoreSession) (index : Nat) (key : String) :
    ∀ frame ∈ (session.tell index key).1, ∃ name steps, frame = .take name steps := by
  unfold StoreSession.tell
  split
  · exact List.forall_mem_nil _
  · dsimp only
    split
    · exact List.forall_mem_nil _
    · exact List.forall_mem_singleton.mpr ⟨_, _, rfl⟩

theorem obeys_perform (obeys : session.Obeys (·.staysOpen = true)) {next : StoreStep}
    (stays : next.staysOpen = true) :
    (session.perform next).2.2.Obeys (·.staysOpen = true) := by
  obtain ⟨frames, result, after, performed, stepped⟩ := session.stepped_perform next stays
  rw [performed]
  apply stepped.obeys obeys
  rintro name awaited reaction rfl
  exact (StoreStep.stayOpen_iff reaction).mp stays

theorem Recounts.perform (recounts : Recounts past session) (name : Option String)
    {next : StoreStep} (rest : List StoreStep) (stays : next.staysOpen = true)
    (brought : List StoreDeed) :
    Recounts (past ++ [.mk session (.take name (next :: rest)) brought])
      (session.perform next).2.2 := by
  have obeys := obeys_perform recounts.obeys stays
  have keeps (registers : next.registers = false)
      (noSubscription : subscription? (.mk session (.take name (next :: rest)) brought) = none)
      (noCancellation : cancellation? (.mk session (.take name (next :: rest)) brought) = none)
      (noNewcomer : newcomer? (.mk session (.take name (next :: rest)) brought) = none) :
      Recounts (past ++ [.mk session (.take name (next :: rest)) brought])
        (session.perform next).2.2 := by
    obtain ⟨listeners, numbers, scripts⟩ := session.listeners_perform next registers
    exact recounts.aside noSubscription noCancellation noNewcomer listeners numbers
      (congrArg _ scripts) obeys
  cases next with
  | subscribe title awaited reaction =>
      refine recounts.snoc ?_ rfl List.map_append ?_ obeys
      · -- the listener is known by its place among the scripts, and the registry numbers it
        have added := recounts.listeners.add (.scripted session.scripts.length)
        rw [← List.append_nil (past.filterMap cancellation?)] at added
        exact added
      · refine List.forall_mem_singleton.mpr ⟨session.scripts.length, rfl, ?_⟩
        have longer : (session.perform (.subscribe title awaited reaction)).2.2.scripts.length =
            session.scripts.length + 1 := List.length_append
        rw [longer]
        exact Nat.lt_succ_self _
  | unsubscribe index =>
      have asked : cancellation? (.mk session (.take name (.unsubscribe index :: rest)) brought) =
          session.numbers[index]? := rfl
      cases found : session.numbers[index]? with
      | none =>
          -- nobody subscribed under the index yet
          have same : (session.perform (.unsubscribe index)).2.2 = session := by
            simp only [StoreSession.perform, found]
          rw [same]
          exact recounts.aside rfl (asked.trans found) rfl rfl rfl rfl recounts.obeys
      | some number =>
          have gone : (session.perform (.unsubscribe index)).2.2 =
              { session with store := session.store.unsubscribe number } := by
            simp only [StoreSession.perform, found]
          have given : number ∈ (subscribed past).map (·.1) := by
            rw [← recounts.numbers]
            exact List.mem_of_getElem? found
          rw [gone] at obeys ⊢
          refine recounts.snoc ?_ (List.append_nil _).symm (List.append_nil _).symm
            (List.forall_mem_nil _) obeys
          have removed := recounts.listeners.remove given
          rw [← List.append_nil (subscribed past)] at removed
          rw [asked, found]
          exact removed
  | reopen => cases stays
  | _ => exact keeps rfl rfl rfl rfl

/-- A step changes nothing and tells nobody, or it gives one key another value and tells all who
listen. -/
theorem perform_announces (session : StoreSession) {next : StoreStep}
    (stays : next.staysOpen = true) :
    ((session.perform next).1 = [] ∧
        (session.perform next).2.2.store.values = session.store.values) ∨
      ∃ key value, session.store.get? key ≠ value ∧
        (session.perform next).1 = tellings session.store.listeners.items key ∧
        (session.perform next).2.2.store.values = session.store.values.put key value := by
  have write (draws : Nat) (key : String) (value : Option Preference) (success : StoreResult) :
      (({ session with draws }.write key value success).1 = [] ∧
          ({ session with draws }.write key value success).2.2.store.values =
            session.store.values) ∨
        ∃ written given, session.store.get? written ≠ given ∧
          ({ session with draws }.write key value success).1 =
            tellings session.store.listeners.items written ∧
          ({ session with draws }.write key value success).2.2.store.values =
            session.store.values.put written given := by
    have writing := { session with draws }.writing_write key value success
    generalize { session with draws }.write key value success = outcome at *
    cases writing with
    | unchanged same => exact .inl ⟨rfl, rfl⟩
    | failed other disk cause => exact .inl ⟨rfl, rfl⟩
    | written other disk => exact .inr ⟨key, value, other, rfl, rfl⟩
  cases next with
  | put key value => exact write session.draws key value .written
  | installationId =>
      simp only [perform]
      split
      · exact .inl ⟨rfl, rfl⟩
      · exact .inl ⟨rfl, rfl⟩
      · exact write _ _ _ _
  | unsubscribe index =>
      simp only [perform]
      split
      · exact .inl ⟨rfl, rfl⟩
      · exact .inl ⟨rfl, rfl⟩
  | reopen => cases stays
  | place path entry =>
      simp only [perform]
      split
      · exact .inl ⟨rfl, rfl⟩
      · exact .inl ⟨rfl, rfl⟩
      · split
        · exact .inl ⟨rfl, rfl⟩
        · exact .inl ⟨rfl, rfl⟩
  | discard path =>
      simp only [perform]
      split
      · exact .inl ⟨rfl, rfl⟩
      · exact .inl ⟨rfl, rfl⟩
  | _ => exact .inl ⟨rfl, rfl⟩

theorem told_of_changed {next : StoreStep} (stays : next.staysOpen = true) {key : String}
    (changed : (session.perform next).2.2.store.get? key ≠ session.store.get? key) :
    (session.perform next).1 = tellings session.store.listeners.items key := by
  rcases session.perform_announces stays with ⟨-, same⟩ | ⟨written, value, other, told, values⟩
  · exact absurd (congrArg (Values.get? · key) same) changed
  · have own : written = key := by
      by_contra apart
      apply changed
      rw [Store.get?, values]
      exact Values.get_put_other apart value session.store.values
    rw [told, own]

theorem untold_of_unchanged {next : StoreStep} (stays : next.staysOpen = true)
    (unchanged : ∀ key, (session.perform next).2.2.store.get? key = session.store.get? key) :
    (session.perform next).1 = [] := by
  rcases session.perform_announces stays with ⟨nobody, -⟩ | ⟨key, value, other, -, values⟩
  · exact nobody
  · have same := unchanged key
    rw [Store.get?, values, Values.get_put_self] at same
    exact absurd same.symm other

theorem put_outcome (session : StoreSession) (key : String) (value : Option Preference) :
    ((session.perform (.put key value)).2.1 = .written ∧
        (session.perform (.put key value)).2.2.store.get? key = value) ∨
      session.store.backing ≠ .memory ∧ ∃ fault,
        (session.perform (.put key value)).2.1 = .failed (.disk fault) ∧
        (session.perform (.put key value)).2.2.store = session.store := by
  have writing : session.Writing key value .written (session.perform (.put key value)) :=
    session.writing_write key value .written
  have inMemory := @put_inMemory session key value
  generalize session.perform (.put key value) = outcome at *
  cases writing with
  | unchanged same => exact .inl ⟨rfl, same⟩
  | failed other disk fault =>
      refine .inr ⟨?_, fault, rfl, rfl⟩
      intro memory
      cases congrArg (·.2.1) (inMemory memory other)
  | written other disk =>
      exact .inl ⟨rfl, Values.get_put_self key value session.store.values⟩

theorem Suits.later {frame : StoreFrame} (suits : Suits session frame)
    (grows : session.scripts.length ≤ after.scripts.length) : Suits after frame := by
  refine ⟨suits.1, ?_⟩
  intro listener key same
  obtain ⟨index, scripted, within⟩ := suits.2 listener key same
  exact ⟨index, scripted, Nat.lt_of_lt_of_le within grows⟩

theorem suits_conclude (session : StoreSession) (name : Option String) (result : StoreResult) :
    Suits session (.conclude name result) := by
  refine ⟨trivial, ?_⟩
  intro listener key same
  cases same

theorem suits_take (session : StoreSession) (name : Option String) {steps : List StoreStep}
    (stay : ∀ step ∈ steps, step.staysOpen = true) : Suits session (.take name steps) := by
  refine ⟨stay, ?_⟩
  intro listener key same
  cases same

theorem Recounts.suits_tellings (recounts : Recounts past session) (key : String) :
    ∀ frame ∈ tellings session.store.listeners.items key, Suits session frame := by
  intro frame member
  refine ⟨fits_tellings _ _ key frame member, ?_⟩
  rintro listener other rfl
  obtain ⟨same, listed, told⟩ := List.mem_map.mp member
  cases told
  rw [recounts.items] at listed
  exact recounts.known listener (List.map_subset _ List.filter_sublist.subset listed)

theorem perform_grows (session : StoreSession) {next : StoreStep}
    (stays : next.staysOpen = true) :
    session.scripts.length ≤ (session.perform next).2.2.scripts.length := by
  obtain ⟨frames, result, after, performed, stepped⟩ := session.stepped_perform next stays
  rw [performed]
  cases stepped with
  | subscribed name awaited reaction asked => simp
  | _ => exact Nat.le_refl _

/-- What a frame makes of the session is what its deed adds to the past; the frames that take its
place suit again, and so do all others. -/
theorem Recounts.step {frame : StoreFrame} {brought : List StoreDeed}
    (recounts : Recounts past session) (suits : Suits session frame) :
    Recounts (past ++ [.mk session frame brought]) (session.step frame).2 ∧
      (∀ next ∈ (session.step frame).1, Suits (session.step frame).2 next) ∧
      ∀ other, Suits session other → Suits (session.step frame).2 other := by
  cases frame with
  | tell listener key =>
      obtain ⟨index, rfl, within⟩ := suits.2 listener key rfl
      obtain ⟨store, numbers, names⟩ := session.tell_keeps index key
      obtain ⟨obeys, suited⟩ := recounts.obeys.tell index key
      refine ⟨recounts.aside rfl rfl rfl (congrArg Store.listeners store) numbers names obeys, ?_, ?_⟩
      · intro next member
        obtain ⟨name, steps, rfl⟩ := session.tell_takes index key next member
        exact suits_take _ name (suited _ member)
      · have length : (session.tell index key).2.scripts.length = session.scripts.length := by
          simpa using congrArg List.length names
        exact fun other suit => suit.later (Nat.le_of_eq length.symm)
  | take name steps =>
      cases steps with
      | nil =>
          exact ⟨recounts.aside rfl rfl rfl rfl rfl rfl recounts.obeys, List.forall_mem_nil _,
            fun _ => id⟩
      | cons next rest =>
          obtain ⟨stays, others⟩ := List.forall_mem_cons.mp suits.1
          have grows := session.perform_grows stays
          refine ⟨recounts.perform name rest stays brought, ?_, fun other suit => suit.later grows⟩
          refine List.forall_mem_append.mpr ⟨?_, ?_⟩
          · rcases session.perform_announces stays with ⟨nobody, -⟩ | ⟨key, value, -, told, -⟩
            · rw [nobody]
              exact List.forall_mem_nil _
            · rw [told]
              exact fun frame member => (recounts.suits_tellings key frame member).later grows
          · exact List.forall_mem_cons.mpr ⟨suits_conclude _ name _,
              List.forall_mem_singleton.mpr (suits_take _ name others)⟩
  | conclude name result =>
      cases name with
      | none =>
          exact ⟨recounts.aside rfl rfl rfl rfl rfl rfl recounts.obeys, List.forall_mem_nil _,
            fun _ => id⟩
      | some name =>
          exact ⟨recounts.aside rfl rfl rfl rfl rfl rfl recounts.obeys, List.forall_mem_nil _,
            fun other suit => suit.later (Nat.le_refl _)⟩

theorem account_run (session : StoreSession) (agenda : List StoreFrame) :
    ∃ deeds, IsAccount StoreSession.step session agenda deeds (session.run agenda) := by
  fun_induction StoreSession.run session agenda with
  | case1 session => exact ⟨[], .done session⟩
  | case2 session frame rest ih =>
      obtain ⟨deeds, account⟩ := ih
      obtain ⟨brought, later, _, whole⟩ := account.of_step
      exact ⟨_, whole⟩

structure GoesBy (past : List StoreDeed) (deed : StoreDeed) : Prop where
  listeners : deed.state.store.listeners.entries = present past
  cancellation : ∀ name index rest number, deed.frame = .take name (.unsubscribe index :: rest) →
    ((subscribed past).map (·.1))[index]? = some number →
      deed.brought.map Deed.frame =
        [.conclude name (.unsubscribed (decide (number ∈ (present past).map (·.1)))),
          .take name rest]
  /-- A write comes to another value, unless the disk fails; then nothing has changed. -/
  write : ∀ name key value rest, deed.frame = .take name (.put key value :: rest) →
    ((deed.state.perform (.put key value)).2.1 = .written ∧
        (deed.state.perform (.put key value)).2.2.store.get? key = value) ∨
      deed.state.store.backing ≠ .memory ∧ ∃ fault,
        (deed.state.perform (.put key value)).2.1 = .failed (.disk fault) ∧
        (deed.state.perform (.put key value)).2.2.store = deed.state.store
  /-- If a step gives a key another value, all who are present are told of the key, in their order;
  the first of them begins when the value has changed. -/
  change : ∀ name next rest key, deed.frame = .take name (next :: rest) →
    (deed.state.perform next).2.2.store.get? key ≠ deed.state.store.get? key →
      deed.brought.map Deed.frame = tellings ((present past).map (·.2)) key ++
        [.conclude name (deed.state.perform next).2.1, .take name rest] ∧
      ∀ first ∈ deed.brought.head?, first.state = (deed.state.perform next).2.2
  quiet : ∀ name next rest, deed.frame = .take name (next :: rest) →
    (∀ key, (deed.state.perform next).2.2.store.get? key = deed.state.store.get? key) →
      deed.brought.map Deed.frame =
        [.conclude name (deed.state.perform next).2.1, .take name rest]
  told : ∀ listener key, deed.frame = .tell listener key →
    ∃ index name, listener = .scripted index ∧ (past.filterMap newcomer?)[index]? = some name ∧
      (deed.state.step deed.frame).2.notes = deed.state.notes ++ [.told name key]

theorem Recounts.goesBy (recounts : Recounts past deed.state) (suits : Suits deed.state deed.frame)
    {after : StoreSession} (account : IsAccount StoreSession.step
      (deed.state.step deed.frame).2 (deed.state.step deed.frame).1 deed.brought after) :
    GoesBy past deed := by
  have frames := account.frames
  constructor
  · exact recounts.listeners.entries
  · intro name index rest number same given
    rw [← recounts.numbers] at given
    rw [frames, same]
    simp only [StoreSession.step, StoreSession.perform, given, recounts.listeners.holds]
    rfl
  · intro name key value rest same
    exact deed.state.put_outcome key value
  · intro name next rest key same changed
    have stays : next.staysOpen = true := by
      have all := suits.1
      rw [same] at all
      exact all next List.mem_cons_self
    constructor
    · rw [frames, same, StoreSession.step, told_of_changed stays changed, recounts.items]
    · intro first member
      have begins := account.head_state first member
      rw [same] at begins
      exact begins
  · intro name next rest same unchanged
    have stays : next.staysOpen = true := by
      have all := suits.1
      rw [same] at all
      exact all next List.mem_cons_self
    rw [frames, same, StoreSession.step, untold_of_unchanged stays unchanged, List.nil_append]
  · intro listener key same
    obtain ⟨index, rfl, within⟩ := suits.2 listener key same
    refine ⟨index, deed.state.scripts[index].name, rfl, ?_, ?_⟩
    · rw [← recounts.names]
      simp [within]
    · rw [same]
      simp only [StoreSession.step, StoreSession.tell, List.getElem?_eq_getElem within]
      split
      · rfl
      · rfl

/-- Every change is told once to each who listens at the time, whatever they do about it. -/
theorem changes_told_in_turn (session : StoreSession) (steps : List StoreStep)
    (unlistened : session.store.listeners = .empty) (unscripted : session.scripts = [])
    (unnumbered : session.numbers = []) (stays : StoreStep.stayOpen steps = true) :
    ∃ deeds, IsAccount StoreSession.step session [.take none steps] deeds
        (session.run [.take none steps]) ∧
      ((subscribed (Deed.wholes deeds)).map (·.1)).Nodup ∧
      (session.run [.take none steps]).store.listeners.entries = present (Deed.wholes deeds) ∧
      ∀ past deed later, Deed.wholes deeds = past ++ deed :: later → GoesBy past deed := by
  have start : Recounts [] session := by
    constructor
    · rw [unlistened]
      exact Registry.recalls_empty
    · exact unnumbered
    · rw [unscripted]
      rfl
    · exact List.forall_mem_nil _
    · rw [Obeys, unscripted]
      exact List.forall_mem_nil _
  have suits : ∀ frame ∈ [StoreFrame.take none steps], Suits session frame :=
    List.forall_mem_singleton.mpr
      (suits_take session none ((StoreStep.stayOpen_iff steps).mp stays))
  obtain ⟨deeds, account⟩ := session.account_run [.take none steps]
  obtain ⟨ends, -, each⟩ := account.preserves Recounts.step start suits
  rw [List.nil_append] at ends
  refine ⟨deeds, account, ends.listeners.distinct, ends.listeners.entries, ?_⟩
  intro past deed later listed
  -- at every deed the session is what the deeds before it have made of the first one
  obtain ⟨recounts, suited⟩ := each past deed later listed
  have member : deed ∈ Deed.wholes deeds := by simp [listed]
  obtain ⟨between, brought⟩ := account.brought deed member
  exact recounts.goesBy suited brought

/-- The first listener writes another key, cancels the second one, which is told all the same, and
brings in a third one; when the kind of the value changes, it takes the value away. -/
def interplay : List StoreStep :=
  [.subscribe "first" (some "theme")
      [.put "size" (some (.text "12")), .unsubscribe 1, .subscribe "third" none [], .pause,
        .put "theme" none],
    .subscribe "second" none [],
    .put "theme" (some (.text "true")), .put "theme" (some (.text "true")),
    .put "theme" (some (.boolean true))]

theorem changes_told_in_turn_interplay :
    StoreStep.stayOpen interplay = true ∧
      (StoreSession.run {} [.take none interplay]).notes =
        [.told "first" "theme", .told "first" "size", .told "second" "size",
          .stepped "first" .written, .stepped "first" (.unsubscribed true),
          .stepped "first" (.subscribed 2), .told "second" "theme", .told "first" "theme",
          .told "first" "theme", .told "third" "theme", .stepped "first" .written,
          .told "third" "theme"] ∧
      ∃ deeds, IsAccount StoreSession.step {} [.take none interplay] deeds
        (StoreSession.run {} [.take none interplay]) ∧
      ((subscribed (Deed.wholes deeds)).map (·.1)).Nodup ∧
      (StoreSession.run {} [.take none interplay]).store.listeners.entries =
        present (Deed.wholes deeds) ∧
      ∀ past deed later, Deed.wholes deeds = past ++ deed :: later → GoesBy past deed := by
  have stays : StoreStep.stayOpen interplay = true := by decide +kernel
  exact ⟨stays, by decide +kernel, changes_told_in_turn {} interplay rfl rfl rfl stays⟩

end Telemetry.StoreSession
