import Telemetry.Proofs.Service.Mirror

/-! The stored choice is to be the gate of all hits. Only the current client takes hits, and only
while it is switched on; the switch follows the stored choice except where the choice cannot be
read. A new client is switched on before the choice is read, so a start that fails at the reading
leaves the gate open, and nobody listens for the choice that would close it. -/

namespace Telemetry

/-- The application never agrees in the user's place, and leaves the switches of clients alone. -/
def Operation.Cautious : Operation → Prop
  | .setOptIn enabled => enabled = false
  | .onClient _ (.setEnabled _) => False
  | _ => True

theorem Operation.Cautious.heeds {operation : Operation} (cautious : operation.Cautious) :
    operation.Heeds fun enabled _ choice => enabled = true → choice = true := by
  cases operation with
  | setOptIn enabled =>
      intro choice switched
      cases cautious.symm.trans switched
  | onClient index operation => cases operation <;> exact cautious
  | _ => trivial

namespace Service

variable (service : Service)

theorem store_perform {operation : Operation} (loud : ¬operation.IsQuiet) :
    (service.perform operation).store = service.store := by
  cases operation with
  | report report => exact (service.routine_report report).store
  | flush => exact service.routine_flush.store
  | dispatch exception => exact (service.routine_dispatch exception).store
  | panic exception => exact (service.routine_panic exception).store
  | onClient index operation => rfl
  | go index place => rfl
  | tick milliseconds => rfl
  | sleep milliseconds => rfl
  | _ => exact absurd trivial loud

theorem witness_send (hit : Hit) :
    (service.send hit).2.clients.witness = service.clients.witness := by
  unfold send
  split
  · rfl
  · unfold Clients.send
    split
    · rfl
    · split
      · rfl
      · split
        · rfl
        · exact Engine.witness_enqueue _ _ _

theorem unheard_perform (unheard : service.clients.witness = none) (operation : Operation) :
    (service.perform operation).clients.witness = none := by
  have sends (service : Service) (hit : Hit) (held : service.clients.witness = none) :
      (service.send hit).2.clients.witness = none := (service.witness_send hit).trans held
  by_cases quiet : operation.IsQuiet
  · exact (Engine.silent_leadsTo (service.silent_perform quiet) unheard).1
  · cases operation with
    | report report =>
        obtain ⟨hit, same⟩ := service.report_sends report
        simp only [perform, same]
        exact sends service hit unheard
    | flush =>
        simp only [perform, flush]
        split
        · exact unheard
        · rfl
    | dispatch exception =>
        exact dispatch_preserves (·.clients.witness = none) sends (fun _ _ held => held) exception
          service unheard
    | panic exception =>
        exact panic_preserves (·.clients.witness = none) sends (fun _ _ held => held) exception
          service unheard
    | onClient index operation => rfl
    | go index place => rfl
    | tick milliseconds => rfl
    | sleep milliseconds => rfl
    | _ => exact absurd trivial quiet

/-- The current client takes hits. -/
def Willing (index : Nat) : Prop :=
  service.current = some index ∧ ∃ client, Clients.client? service.clients index = some client ∧
    client.closed = false ∧ client.enabled = true ∧ client.dryRun = false

def Admits (operation : Operation) : Prop :=
  (service.perform operation).clients.arrivals ≠ service.clients.arrivals

variable {service : Service}

theorem send_unwilling (unwilling : ∀ index, ¬service.Willing index) (hit : Hit) :
    (service.send hit).2 = service := by
  unfold send
  split
  · rfl
  · rename_i index held
    unfold Clients.send
    split
    · rfl
    · rename_i client found
      split
      · rfl
      · rename_i opened
        split
        · rfl
        · rename_i switched
          simp only [Bool.or_eq_true, Bool.not_eq_true', not_or, Bool.not_eq_false,
            Bool.not_eq_true] at opened switched
          exact absurd ⟨held, client, found, opened, switched⟩ (unwilling index)

theorem witness_unwilling (unwilling : ∀ index, ¬service.Willing index) :
    service.witness? = none := by
  rw [Option.eq_none_iff_forall_ne_some]
  intro index told
  unfold witness? at told
  obtain ⟨current, held, told⟩ := Option.bind_eq_some_iff.mp told
  obtain ⟨client, found, told⟩ := Option.bind_eq_some_iff.mp told
  dsimp only at told
  split at told
  · rename_i takes
    simp only [Bool.and_eq_true, Bool.not_eq_true'] at takes
    exact unwilling current ⟨held, client, found, takes.1.1.2, takes.1.2, takes.2⟩
  · cases told

theorem arrivals_takeBack (unwilling : ∀ index, ¬service.Willing index) {clients : Clients}
    (leads : Engine.LeadsTo QueueEvent.Silent service.lendClients clients) :
    (service.takeBack clients).clients.arrivals = service.clients.arrivals :=
  (Engine.silent_leadsTo leads (witness_unwilling unwilling)).2

/-- While the current client takes no hits, none comes in by way of the service. -/
theorem arrivals_perform (unheard : service.clients.witness = none)
    (unwilling : ∀ index, ¬service.Willing index) {operation : Operation}
    (indirect : ∀ index hit, operation ≠ .onClient index (.send hit)) :
    (service.perform operation).clients.arrivals = service.clients.arrivals := by
  -- A service that takes no hits is the same after a send, so its members may be called in a row.
  have still (after : Service) (hit : Hit)
      (held : (∀ index, ¬after.Willing index) ∧
        after.clients.arrivals = service.clients.arrivals) :
      (∀ index, ¬(after.send hit).2.Willing index) ∧
        (after.send hit).2.clients.arrivals = service.clients.arrivals := by
    rw [send_unwilling held.1]
    exact held
  by_cases quiet : operation.IsQuiet
  · exact (Engine.silent_leadsTo (service.silent_perform quiet) unheard).2
  · cases operation with
    | report report =>
        obtain ⟨hit, same⟩ := service.report_sends report
        simp only [perform, same, send_unwilling unwilling]
    | flush =>
        simp only [perform, flush]
        split
        · rfl
        · rename_i index _
          exact arrivals_takeBack unwilling (.single _ (.flush index) trivial)
    | dispatch exception =>
        exact (dispatch_preserves _ still (fun _ _ held => held) exception service
          ⟨unwilling, rfl⟩).2
    | panic exception =>
        exact (panic_preserves _ still (fun _ _ held => held) exception service
          ⟨unwilling, rfl⟩).2
    | onClient index operation =>
        refine arrivals_takeBack unwilling ?_
        refine (Clients.leadsTo_perform _ index operation).weaken fun _ kept => kept.2.1 ?_
        rintro hit rfl
        exact indirect index hit rfl
    | go index place => exact arrivals_takeBack unwilling (.single _ (.go index place) trivial)
    | tick milliseconds =>
        exact arrivals_takeBack unwilling (.single _ (.tick milliseconds) trivial)
    | sleep milliseconds =>
        exact arrivals_takeBack unwilling
          (Engine.leadsTo_sleep (fun _ _ => trivial) (fun _ => trivial) _ milliseconds)
    | _ => exact absurd trivial quiet

theorem send_willing {index : Nat} (willing : service.Willing index) (hit : Hit) :
    (service.send hit).2 =
      { service with clients := (Engine.enqueue service.clients index hit).2 } := by
  obtain ⟨held, client, found, opened, enabled, sends⟩ := willing
  unfold send Clients.send
  simp only [held, found, opened, enabled, sends, Bool.false_eq_true, if_false, Bool.not_true,
    Bool.or_false]

def TakesHits (service : Service) : Prop :=
  ∃ index, service.Willing index ∧
    ∃ task, service.clients.tasks[index]? = some task ∧ task.queue.closed = false

theorem admits_report_iff (report : Report) :
    service.Admits (.report report) ↔ service.TakesHits := by
  obtain ⟨hit, same⟩ := service.report_sends report
  unfold Admits TakesHits
  simp only [perform, same]
  by_cases some : ∃ index, service.Willing index
  · obtain ⟨index, willing⟩ := some
    rw [send_willing willing, Engine.arrives_iff]
    constructor
    · intro unclosed
      exact ⟨index, willing, unclosed⟩
    · rintro ⟨other, same, unclosed⟩
      cases willing.1.symm.trans same.1
      exact unclosed
  · rw [send_unwilling (not_exists.mp some)]
    constructor
    · exact absurd rfl
    · rintro ⟨index, willing, _⟩
      exact absurd ⟨index, willing⟩ some

/-- The user has agreed, as far as the store knows. -/
def Consented (service : Service) : Prop :=
  service.store.store.get? optInKey = some (.boolean true)

/-- The user has not agreed, and either the stored choice cannot be read, or the service did not
begin to listen for it. -/
def Astray (service : Service) : Prop :=
  ¬service.Consented ∧
    ((∃ text, service.store.store.get? optInKey = some (.text text)) ∨ service.subscription = none)

theorem storedChoice_true (stored : service.storedChoice = .ok true) : service.Consented := by
  unfold storedChoice Store.getBoolean at stored
  unfold Consented
  split at stored
  · cases stored
  · rename_i value found
    cases stored
    exact found
  · cases stored

/-- A switched-on client stands for a stored agreement, unless the service went astray. -/
theorem consented_or_astray
    (inStep : service.InStep fun enabled _ choice => enabled = true → choice = true) {index : Nat}
    (willing : service.Willing index) : service.Consented ∨ service.Astray := by
  obtain ⟨held, client, found, _, enabled, _⟩ := willing
  by_cases agreed : service.Consented
  · exact .inl agreed
  · refine .inr ⟨agreed, ?_⟩
    by_cases legible : ∀ text, service.store.store.get? optInKey ≠ some (.text text)
    · refine .inr ?_
      by_contra listens
      obtain ⟨choice, stored⟩ := storedChoice_legible legible
      obtain ⟨other, same, agrees⟩ := inStep index choice held listens stored
      cases found.symm.trans same
      rw [agrees enabled] at stored
      exact agreed (storedChoice_true stored)
    · obtain ⟨text, unread⟩ := not_forall.mp legible
      exact .inl ⟨text, not_not.mp unread⟩

/-- Hits come in only with the current client and leave the store as it is. A report passes the gate
without the user's agreement exactly when the client takes hits and the service went astray, which
it never does while the stored choice can be read. -/
theorem gate_passed_iff {parts : ServiceParts} {environment : Environment} {disk : Disk}
    {directory : Place} (built : parts.build environment disk directory = .ok service)
    (unlistened : ∀ store, parts.store = some store → .service ∉ store.listeners.items)
    {operations : List Operation} (cautious : ∀ operation ∈ operations, operation.Cautious) :
    let reached := service.course operations
    (∀ operation, (∀ index hit, operation ≠ .onClient index (.send hit)) →
        reached.Admits operation →
          (∃ index, reached.Willing index) ∧ (reached.perform operation).store = reached.store ∧
            (¬reached.Consented → reached.Astray)) ∧
      (∀ report, reached.Admits (.report report) ∧ ¬reached.Consented ↔
        reached.TakesHits ∧ reached.Astray) ∧
      (service.Legible operations →
        ∀ operation, (∀ index hit, operation ≠ .onClient index (.send hit)) →
          reached.Admits operation → reached.Consented) := by
  intro reached
  obtain ⟨wired, idle⟩ := wired_build built unlistened
  have heed (operation : Operation) (member : operation ∈ operations) :=
    (cautious operation member).heeds
  obtain ⟨_, inStep⟩ := wired.course (fun _ => id) heed (.idle idle)
  have unheard : reached.clients.witness = none := by
    apply course_preserves (·.clients.witness = none) fun before operation _ held =>
      before.unheard_perform held operation
    obtain ⟨supply, store, _, rfl⟩ := ServiceParts.build_eq built
    rfl
  have willing (operation : Operation)
      (indirect : ∀ index hit, operation ≠ .onClient index (.send hit))
      (admitted : reached.Admits operation) : ∃ index, reached.Willing index := by
    by_contra unwilling
    exact admitted (arrivals_perform unheard (not_exists.mp unwilling) indirect)
  refine ⟨?_, ?_, ?_⟩
  · intro operation indirect admitted
    obtain ⟨index, takes⟩ := willing operation indirect admitted
    refine ⟨⟨index, takes⟩, ?_, (consented_or_astray inStep takes).resolve_left⟩
    apply store_perform
    intro quiet
    exact admitted (Engine.silent_leadsTo (reached.silent_perform quiet) unheard).2
  · intro report
    rw [admits_report_iff]
    constructor
    · rintro ⟨⟨index, takes, unclosed⟩, refused⟩
      exact ⟨⟨index, takes, unclosed⟩, (consented_or_astray inStep takes).resolve_left refused⟩
    · rintro ⟨takes, astray⟩
      exact ⟨takes, astray.1⟩
  · intro legible operation indirect admitted
    obtain ⟨index, takes⟩ := willing operation indirect admitted
    refine (consented_or_astray inStep takes).resolve_right ?_
    -- Without a text no start fails at the reading, so a service with a client listens.
    rintro ⟨_, ⟨text, unread⟩ | silent⟩
    · exact legible operations (List.prefix_refl _) text unread
    · have attached := wired.attached_course (fun _ => id) heed (.idle idle)
        (fun has => absurd idle has) legible
      exact attached (by rw [takes.1]; exact Option.some_ne_none index) silent

/-- The service is started while the store holds a text, and then the user refuses. -/
def lateRefusal : List Operation :=
  [.start, .change (.put optInKey (some (.boolean false))) rfl]

theorem cautious_lateRefusal : ∀ operation ∈ lateRefusal, operation.Cautious := by
  simp only [lateRefusal, List.forall_mem_cons, Operation.Cautious]
  exact ⟨trivial, trivial, List.forall_mem_nil _⟩

/-- The start has failed, and the refusal is stored; still a hit comes in. -/
theorem gate_passed_after_lateRefusal :
    ∃ service, (ServiceParts.atHand [(optInKey, .text "no")] []).build {} {} [] = .ok service ∧
      (∀ operation ∈ lateRefusal, operation.Cautious) ∧
      service.start.1.toOption = none ∧
      (service.course lateRefusal).store.store.get? optInKey = some (.boolean false) ∧
      (service.course lateRefusal).clients.arrivals = [] ∧
      ((service.course lateRefusal).perform (.report (.screen "DeckPicker"))).clients.arrivals =
        [(0, ⟨.ofScreen "DeckPicker", ⟨0⟩, 0⟩)] := by
  refine ⟨Service.atHand [(optInKey, .text "no")] [], rfl, cautious_lateRefusal, ?_, ?_, ?_, ?_⟩
  · decide +kernel
  · decide +kernel
  · decide +kernel
  · decide +kernel

theorem gate_passed_astray :
    let service := Service.atHand [(optInKey, .text "no")] []
    (ServiceParts.atHand [(optInKey, .text "no")] []).build {} {} [] = .ok service ∧
      (∀ store, (ServiceParts.atHand [(optInKey, .text "no")] []).store = some store →
        .service ∉ store.listeners.items) ∧
      (∀ operation ∈ lateRefusal, operation.Cautious) ∧
      (service.course lateRefusal).TakesHits ∧ (service.course lateRefusal).Astray := by
  intro service
  have built := ServiceParts.build_atHand [(optInKey, .text "no")] []
  have unlistened := ServiceParts.unlistened_atHand [(optInKey, .text "no")] []
  refine ⟨built, unlistened, cautious_lateRefusal, ?_⟩
  have passed :=
    (gate_passed_iff built unlistened cautious_lateRefusal).2.1 (.screen "DeckPicker")
  apply passed.mp
  constructor
  · unfold Admits
    decide +kernel
  · unfold Consented
    decide +kernel

end Service

end Telemetry
