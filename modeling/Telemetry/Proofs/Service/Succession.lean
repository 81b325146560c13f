import Telemetry.Proofs.Service.Enrollment
import Telemetry.Proofs.Service.Moves

/-! One client after the other. A service builds a client only when it has none, and it lets go of
none without closing it; so of all clients that it ever had only the current one takes hits. -/

namespace Telemetry

/-- Whatever takes the batches of the clients answers and never panics. Without a courier each
client makes a sender under the policy of the parts. -/
def ServiceParts.Answers (parts : ServiceParts) : Prop :=
  (∀ courier, parts.courier = some courier → courier.Returns) ∧
    (parts.courier = none → ∀ sender : HttpSender, sender.policy = parts.policy →
      ∀ place, (Courier.http sender (parts.world.collectors place).fresh).Returns)

theorem ServiceParts.answers_atHand (values : Values) {answers : List Answer}
    (quiet : ∀ answer ∈ answers, ∀ message, answer ≠ .panicked message) :
    (atHand values answers).Answers := by
  constructor
  · intro courier given
    rw [← Option.some.inj given]
    exact Courier.returns_scripted quiet
  · intro none
    cases none

theorem Operation.asks_staysOpen (operation : Operation) :
    operation.Asks (·.staysOpen = true) := by
  cases operation with
  | change step stays => exact stays
  | _ => trivial

theorem Clients.returns_leadsTo {before after : Clients} {shut : Nat → Prop}
    (leads : Engine.LeadsTo (QueueEvent.Lasting shut) before after)
    (returns : before.outbox.Returns) : after.outbox.Returns :=
  Engine.LeadsTo.preserves (·.outbox.Returns)
    (fun clients event lasting held => Engine.returns_after held event fun courier same => by
      rw [same] at lasting
      exact lasting.elim)
    leads returns

theorem Clients.collectors_leadsTo {before after : Clients} {kind : QueueEvent Client → Prop}
    (leads : Engine.LeadsTo kind before after) :
    after.outbox.world.collectors = before.outbox.world.collectors :=
  leads.preserves (·.outbox.world.collectors = before.outbox.world.collectors)
    (fun clients event _ same => (Engine.collectors_after clients event).trans same) rfl

namespace Service

/-- All clients but the current one and the given ones are closed, and all couriers answer, also
those that clients yet to come may bring along. -/
structure Sole (apart : Nat → Prop) (service : Service) : Prop where
  returns : service.clients.outbox.Returns
  supplied : service.courier = none → ∀ sender : HttpSender, sender.policy = service.policy →
    ∀ place, (Courier.http sender (service.clients.outbox.world.collectors place).fresh).Returns
  closed : ∀ index, service.current ≠ some index → ¬apart index →
    Clients.IsClosed service.clients index

variable {fits : StoreStep → Prop} {operation : Operation} {apart wider : Nat → Prop}
  {service after : Service}

theorem Sole.mono (sole : service.Sole apart) (implies : ∀ index, apart index → wider index) :
    service.Sole wider :=
  ⟨sole.returns, sole.supplied,
    fun index other alone => sole.closed index other fun gone => alone (implies index gone)⟩

theorem Sole.move (sole : service.Sole apart) (whole : operation ≠ .detach)
    (move : Move fits operation service after) : after.Sole apart := by
  cases move with
  | clients leads =>
      refine ⟨Clients.returns_leadsTo leads sole.returns, ?_, ?_⟩
      · rw [Clients.collectors_leadsTo leads]
        exact sole.supplied
      exact fun index other alone => (sole.closed index other alone).leadsTo leads
  | @part former clients held leads closes =>
      refine ⟨Clients.returns_leadsTo leads sole.returns, ?_, ?_⟩
      · rw [Clients.collectors_leadsTo leads]
        exact sole.supplied
      intro index _ alone
      by_cases own : former = index
      · exact own ▸ closes whole sole.returns
      · refine (sole.closed index ?_ alone).leadsTo leads
        rw [held]
        exact fun same => own (Option.some.inj same)
  | @build settings id idle obtained checked =>
      refine ⟨?_, ?_, ?_⟩
      · rcases Clients.couriers_launch service.clients ⟨settings.identity, id⟩
            (service.clientConfig settings) service.courier with
          same | ⟨none, sender, policy, more⟩
        · intro courier member
          exact sole.returns courier (same ▸ member)
        · intro courier member
          rw [more] at member
          rcases List.mem_append.mp member with old | new
          · exact sole.returns courier old
          · rw [List.mem_singleton.mp new]
            exact sole.supplied none sender policy _
      · rw [Clients.collectors_leadsTo (service.clients.leadsTo_launch _ _ _)]
        exact sole.supplied
      · intro index other alone client found
        have former : index ≠ service.clients.tasks.length :=
          fun same => other (congrArg some same.symm)
        rw [Clients.client_launch, if_neg former] at found
        refine sole.closed index ?_ alone client found
        rw [idle]
        exact (Option.some_ne_none index).symm
  | obtain => exact ⟨sole.returns, sole.supplied, sole.closed⟩
  | store suits => exact ⟨sole.returns, sole.supplied, sole.closed⟩
  | aside clients current courier policy store =>
      refine ⟨clients ▸ sole.returns, ?_, ?_⟩
      · rw [courier, policy, clients]
        exact sole.supplied
      · rw [clients, current]
        exact sole.closed

theorem Wired.moves (wired : service.Wired) (operation : Operation) :
    Moves (·.staysOpen = true) operation service (service.perform operation) :=
  moves_perform StoreStep.isConduct_staysOpen service wired.guarded.obeys operation.asks_staysOpen

theorem Sole.perform (sole : service.Sole apart) (wired : service.Wired)
    (whole : operation ≠ .detach) : (service.perform operation).Sole apart :=
  (wired.moves operation).preserves (Sole apart) (fun move held => held.move whole move) sole

/-- A client was let go of in the middle of a shutdown, before its last flush was over. -/
def LetGo (service : Service) (operations : List Operation) (index : Nat) : Prop :=
  ∃ past, past ++ [.detach] <+: operations ∧ (service.course past).current = some index

theorem LetGo.detaches {operations : List Operation} {index : Nat}
    (gone : service.LetGo operations index) : .detach ∈ operations := by
  obtain ⟨past, ⟨rest, same⟩, _⟩ := gone
  rw [← same]
  simp

theorem Sole.course (wired : service.Wired) (sole : service.Sole fun _ => False)
    (operations : List Operation) :
    (service.course operations).Sole (service.LetGo operations) := by
  induction operations using List.reverseRecOn with
  | nil => exact sole.mono fun _ => False.elim
  | append_singleton past next ih =>
      have later : (service.course past).Sole (service.LetGo (past ++ [next])) :=
        ih.mono fun index gone => by
          obtain ⟨first, earlier, held⟩ := gone
          exact ⟨first, earlier.trans (List.prefix_append past [next]), held⟩
      rw [course_snoc]
      by_cases whole : next = .detach
      · subst whole
        obtain ⟨chain, listeners, panicHook, detached⟩ := (service.course past).detach_eq
        simp only [Service.perform, detached]
        refine ⟨later.returns, later.supplied, ?_⟩
        intro index _ alone
        refine later.closed index (fun held => alone ?_) alone
        exact ⟨past, List.prefix_refl _, held⟩
      · exact later.perform (wired.course_wired past) whole

theorem sole_build {parts : ServiceParts} {environment : Environment} {disk : Disk}
    {directory : Place} (built : parts.build environment disk directory = .ok service)
    (answers : parts.Answers) : service.Sole fun _ => False := by
  obtain ⟨supply, store, _, rfl⟩ := ServiceParts.build_eq built
  refine ⟨?_, ?_, ?_⟩
  · intro courier member
    exact answers.1 courier (Option.mem_toList.mp member)
  · intro none
    exact answers.2 (Option.map_eq_none_iff.mp none)
  · intro index _ _ client found
    cases found

/-- None of the first clients is the current one. -/
structure Outlives (count : Nat) (service : Service) : Prop where
  there : count ≤ service.clients.tasks.length
  current : ∀ index < count, service.current ≠ some index

theorem Outlives.move {count : Nat} (outlives : service.Outlives count)
    (move : Move fits operation service after) : after.Outlives count := by
  cases move with
  | clients leads =>
      exact ⟨Clients.length_lasting leads ▸ outlives.there, outlives.current⟩
  | part held leads closes =>
      refine ⟨Clients.length_lasting leads ▸ outlives.there, ?_⟩
      exact fun index _ => (Option.some_ne_none index).symm
  | build idle obtained checked =>
      constructor
      · rw [Clients.length_launch]
        exact Nat.le_succ_of_le outlives.there
      · intro index earlier same
        have beyond := outlives.there
        have last := Option.some.inj same
        omega
  | obtain => exact ⟨outlives.there, outlives.current⟩
  | store suits => exact ⟨outlives.there, outlives.current⟩
  | aside clients current courier policy store =>
      refine ⟨clients ▸ outlives.there, ?_⟩
      rw [current]
      exact outlives.current

theorem Outlives.moves {count : Nat} (outlives : service.Outlives count)
    (moves : Moves fits operation service after) : after.Outlives count :=
  moves.preserves (Outlives count) (fun move held => held.move move) outlives

theorem restart_outlives {count : Nat} (below : count ≤ service.clients.tasks.length) :
    service.restart.2.Outlives count := by
  obtain ⟨clients, chain, leads, result⟩ := service.restart_eq
  let parted : Service := { service with current := none, clients, token := none, chain }
  have idle : parted.Outlives count :=
    ⟨below.trans (Clients.length_leadsTo leads), fun index _ => (Option.some_ne_none index).symm⟩
  have moves : Moves (fun _ => True) .restart parted parted.start.2 := moves_start _
  rw [result]
  exact idle.moves moves

theorem followChoice_outlives {count : Nat} {choice : Bool} (kept : service.released = false)
    (read : service.storedChoice = .ok choice) (below : count ≤ service.clients.tasks.length) :
    service.followChoice.Outlives count := by
  rcases service.followChoice_cases kept with
    ⟨fault, unread, _⟩ | ⟨enabled, optedIn, clients, events, _, leads, result⟩
  · cases unread.symm.trans read
  · have restarted : ({ service with optedIn, clients } : Service).restart.2.Outlives count :=
      restart_outlives (below.trans (Clients.length_leadsTo leads))
    rcases result with result | result
    · rw [result]
      exact restarted
    · rw [result]
      exact ⟨restarted.there, restarted.current⟩

theorem listens_step (kept : service.released = false) (listens : service.subscription ≠ none)
    (frame : StoreFrame) : (service.step frame).2.subscription ≠ none := by
  rcases service.step_cases frame with ⟨_, followed⟩ | ⟨_, _, _, unmoved⟩ | ⟨_, passed⟩
  · rw [followed]
    exact followChoice_listens kept listens
  · rw [unmoved]
    exact listens
  · rw [passed]
    exact listens

/-- As soon as another choice is stored that can be read, the first clients have been replaced. -/
theorem follows_outlives (count : Nat) (chosen : Option Preference) :
    Follows
      (fun service => service.Wired ∧ service.subscription ≠ none ∧
        count ≤ service.clients.tasks.length)
      (fun service => service.subscription = none ∨
        service.store.store.get? optInKey = chosen ∨
        ∀ choice, service.storedChoice = .ok choice →
          ∀ index < count, service.current ≠ some index) where
  wired := And.left
  keeps := by
    rintro service frame stays ⟨wired, listens, below⟩
    exact ⟨(wired.step stays).1, listens_step wired.kept listens frame,
      below.trans (Clients.length_leadsTo (service.silent_step frame))⟩
  told := by
    rintro service ⟨wired, _, below⟩
    refine .inr (.inr fun choice stored => ?_)
    cases read : service.storedChoice with
    | ok enabled => exact (followChoice_outlives wired.kept read below).current
    | error fault =>
        have logged : service.followChoice = service.log [.optInUnreadable] := by
          unfold Service.followChoice
          rw [if_neg (by rw [wired.kept]; exact Bool.false_ne_true), read]
        rw [logged] at stored
        cases read.symm.trans stored
  aside := by
    rintro service store same (silent | unchanged | replaced)
    · exact .inl silent
    · exact .inr (.inl (same.trans unchanged))
    · refine .inr (.inr fun choice stored => replaced choice ?_)
      exact (storedChoice_congr same).symm.trans stored
  unheard := .inl

/-- A change of the stored choice that is noticed and can be read replaces the client. -/
theorem Wired.replaced_change (wired : service.Wired) (listens : service.subscription ≠ none)
    {step : StoreStep} (stays : step.staysOpen = true)
    (changed : (service.changePreferences step).store.store.get? optInKey ≠
      service.store.store.get? optInKey)
    {choice : Bool} (read : (service.changePreferences step).storedChoice = .ok choice) :
    ∀ index < service.clients.tasks.length,
      (service.changePreferences step).current ≠ some index := by
  obtain ⟨⟨_, still, _⟩, silent | unchanged | replaced⟩ :=
    (follows_outlives service.clients.tasks.length (service.store.store.get? optInKey)).run
      (StoreSession.staysOpen_take stays) ⟨wired, listens, Nat.le_refl _⟩ (.inl (.inr (.inl rfl)))
  · exact absurd silent still
  · exact absurd unchanged changed
  · exact replaced choice read

theorem start_keeps {index : Nat} (held : service.current = some index) :
    service.start.2.current = some index ∧
      service.start.2.clients.tasks.length = service.clients.tasks.length ∧
      ∀ started, service.start.1 = .ok started → started = index := by
  have same : service.start = service.startUsing index := by
    unfold start
    rw [held]
  obtain ⟨token, chain, bridge, panicHook, ⟨fault, _, used⟩ | ⟨enabled, _, used⟩⟩ :=
    service.startUsing_cases index
  · rw [same, used]
    refine ⟨rfl, rfl, ?_⟩
    intro started ok
    cases ok
  · obtain ⟨subscription, listeners, listening⟩ := listen_eq
      (({ service with current := some index, token, chain, bridge, panicHook } :
        Service).applyChoice index enabled)
    have switched : Engine.LeadsTo (QueueEvent.Lasting fun _ => False) service.clients
        (service.clients.setEnabled index enabled) :=
      service.clients.leadsTo_setEnabled index enabled
        fun client => client.lasts_switched enabled client.dryRun
    rw [same, used, listening]
    refine ⟨rfl, Clients.length_lasting switched, ?_⟩
    intro started ok
    exact (Except.ok.inj ok).symm

/-- Whoever has kept the client with the index cannot send anything with it. -/
def Refuses (service : Service) (index : Nat) : Prop :=
  ∀ hit, Clients.send service.clients index hit = (.error .closed, service.clients)

theorem Sole.refuses (sole : service.Sole apart) {index : Nat}
    (other : service.current ≠ some index) (alone : ¬apart index) : service.Refuses index :=
  Clients.send_closed (sole.closed index other alone)

/-- After any operations every client but the current one is closed and refuses all hits, unless a
shutdown has let go of it and is not over. A start keeps the client that there is. A restart, a
shutdown and a change of the stored choice that the service notices and can read leave none of the
earlier clients current, so all of them refuse. -/
theorem one_live_client {parts : ServiceParts} {environment : Environment} {disk : Disk}
    {directory : Place} (built : parts.build environment disk directory = .ok service)
    (unlistened : ∀ store, parts.store = some store → .service ∉ store.listeners.items)
    (answers : parts.Answers) (operations : List Operation) :
    let reached := service.course operations
    (∀ index client, Clients.client? reached.clients index = some client →
        reached.current ≠ some index → ¬service.LetGo operations index →
          client.closed = true ∧ reached.Refuses index) ∧
      (∀ index, service.LetGo operations index → .detach ∈ operations) ∧
      (∀ index, reached.current = some index →
        (reached.perform .start).current = some index ∧
          (reached.perform .start).clients.tasks.length = reached.clients.tasks.length ∧
          ∀ started, reached.start.1 = .ok started → started = index) ∧
      ∀ index < reached.clients.tasks.length, ¬service.LetGo operations index →
        (reached.perform .restart).Refuses index ∧ (reached.perform .shutdown).Refuses index ∧
          ∀ step stays, reached.subscription ≠ none →
            (reached.perform (.change step stays)).store.store.get? optInKey ≠
                reached.store.store.get? optInKey →
              (∃ choice, (reached.perform (.change step stays)).storedChoice = .ok choice) →
                (reached.perform (.change step stays)).Refuses index := by
  intro reached
  obtain ⟨begun, _⟩ := wired_build built unlistened
  have wired : reached.Wired := begun.course_wired operations
  have sole : reached.Sole (service.LetGo operations) :=
    Sole.course begun (sole_build built answers) operations
  refine ⟨?_, fun _ gone => gone.detaches, fun index held => start_keeps held, ?_⟩
  · intro index client found other alone
    exact ⟨sole.closed index other alone client found, sole.refuses other alone⟩
  · intro index earlier alone
    have restarted : (reached.perform .restart).current ≠ some index :=
      (restart_outlives (Nat.le_refl _)).current index earlier
    have stopped : (reached.perform .shutdown).current ≠ some index := by
      obtain ⟨clients, result, _⟩ := reached.shutdown_eq
      simp only [perform, result, wired.detach.2]
      exact (Option.some_ne_none index).symm
    refine ⟨(sole.perform wired Operation.noConfusion).refuses restarted alone,
      (sole.perform wired Operation.noConfusion).refuses stopped alone, ?_⟩
    rintro step stays listens changed ⟨choice, read⟩
    refine (sole.perform wired Operation.noConfusion).refuses ?_ alone
    exact wired.replaced_change listens stays changed read index earlier

/-- The choice is changed, a start fails for want of settings, and the service is started anew. -/
def changesOfMind : List Operation :=
  [.start, .change (.put optInKey (some (.boolean true))) (Eq.refl true), .start, .shutdown,
    .resupply (.failing .noHome), .start, .resupply (.fixed .atHand), .restart]

theorem one_live_client_changesOfMind :
    let parts := ServiceParts.atHand [] [.failed .closed]
    let service := Service.atHand [] [.failed .closed]
    let reached := service.course changesOfMind
    parts.build {} {} [] = .ok service ∧
      (∀ store, parts.store = some store → .service ∉ store.listeners.items) ∧ parts.Answers ∧
      reached.current = some 2 ∧ reached.clients.tasks.length = 3 ∧
      reached.Refuses 0 ∧ reached.Refuses 1 ∧ (reached.perform .start).current = some 2 ∧
      (reached.perform .shutdown).Refuses 2 ∧
      (reached.perform (.change (.put optInKey none) rfl)).Refuses 2 := by
  intro parts service reached
  have built := ServiceParts.build_atHand [] [.failed .closed]
  have unlistened := ServiceParts.unlistened_atHand [] [.failed .closed]
  have answers : parts.Answers := by
    apply ServiceParts.answers_atHand
    intro answer member message
    rw [List.mem_singleton.mp member]
    exact Answer.noConfusion
  have current : reached.current = some 2 := by decide +kernel
  have three : reached.clients.tasks.length = 3 := by decide +kernel
  have listens : reached.subscription = some 1 := by decide +kernel
  have agreed : reached.store.store.get? optInKey = some (.boolean true) := by decide +kernel
  have withdrawn : (reached.perform (.change (.put optInKey none) rfl)).store.store.get? optInKey =
      none := by decide +kernel
  have whole : .detach ∉ changesOfMind := by simp [changesOfMind]
  obtain ⟨closed, letGo, keeps, replaced⟩ :=
    one_live_client built unlistened answers changesOfMind
  have alone (index : Nat) : ¬service.LetGo changesOfMind index := fun gone =>
    whole (letGo index gone)
  have refuses (index : Nat) (inside : index < reached.clients.tasks.length)
      (other : reached.current ≠ some index) : reached.Refuses index :=
    (closed index _ (Option.map_eq_some_iff.mpr ⟨_, List.getElem?_eq_getElem inside, rfl⟩) other
      (alone index)).2
  obtain ⟨_, stopped, changed⟩ := replaced 2 (three ▸ Nat.lt_succ_self 2) (alone 2)
  refine ⟨built, unlistened, answers, current, three, ?_, ?_, (keeps 2 current).1, stopped, ?_⟩
  · apply refuses 0
    · rw [three]
      decide
    · rw [current]
      decide
  · apply refuses 1
    · rw [three]
      decide
    · rw [current]
      decide
  · apply changed (.put optInKey none) rfl
    · exact fun silent => Option.some_ne_none 1 (listens.symm.trans silent)
    · exact fun same => Option.some_ne_none _ (agreed.symm.trans (same.symm.trans withdrawn))
    · refine ⟨false, ?_⟩
      unfold storedChoice Store.getBoolean
      rw [show ((service.course changesOfMind).perform
        (.change (.put optInKey none) rfl)).store.store.get? optInKey = none from withdrawn]
      rfl

end Service

end Telemetry
