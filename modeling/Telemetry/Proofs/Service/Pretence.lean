import Telemetry.Proofs.Service.Tenure

/-! Pretending to send. What the application has said about it last holds for the client in use and
for all that come after it; without a word the settings decide that the client was built from. As
long as the client in use pretends, no hit comes in by way of the service. -/

namespace Telemetry.Service

def lastPretence (past : List Stride) : Option Bool :=
  past.foldl (fun last stride => stride.operation.pretence?.or last) none

/-- The client with the index came to be in a step that loaded the settings. -/
def BuiltFrom (past : List Stride) (index : Nat) (settings : Settings) : Prop :=
  ∃ stride ∈ past, stride.before.clients.tasks.length ≤ index ∧
    index < stride.after.clients.tasks.length ∧
    (stride.before.supply.load stride.before.store.disk).1 = .ok settings

/-- The client in use pretends as the application has said last, or else as the settings say that it
was built from. -/
def PretendsAsSaid (past : List Stride) (service : Service) : Prop :=
  ∀ index, service.current = some index → ∃ client settings,
    Clients.client? service.clients index = some client ∧ BuiltFrom past index settings ∧
      client.dryRun = (lastPretence past).getD settings.delivery.dryRun

variable {past : List Stride} {operation : Operation} {service before after : Service}

theorem lastPretence_snoc (past : List Stride) (stride : Stride) :
    lastPretence (past ++ [stride]) = stride.operation.pretence?.or (lastPretence past) := by
  rw [lastPretence, List.foldl_append]
  rfl

theorem BuiltFrom.later {index : Nat} {settings : Settings} (from_ : BuiltFrom past index settings)
    (stride : Stride) : BuiltFrom (past ++ [stride]) index settings := by
  obtain ⟨origin, member, rest⟩ := from_
  exact ⟨origin, List.mem_append_left _ member, rest⟩

theorem PretendsAsSaid.turn (turn : Turn operation before after) (unmeddled : ¬operation.Meddles)
    (said : before.dryRunChoice = lastPretence past) (pretends : PretendsAsSaid past before) :
    after.dryRunChoice = lastPretence (past ++ [⟨operation, before, after⟩]) ∧
      PretendsAsSaid (past ++ [⟨operation, before, after⟩]) after := by
  rw [lastPretence_snoc, PretendsAsSaid, lastPretence_snoc, ← said]
  cases turn with
  | kept current choice tasks =>
      refine ⟨choice, ?_⟩
      intro index held
      rw [current] at held
      obtain ⟨client, settings, found, built, dryRun⟩ := pretends index held
      obtain ⟨task, there, rfl⟩ := Option.map_eq_some_iff.mp found
      obtain ⟨next, reached, _, still⟩ := tasks index task held there
      refine ⟨next.owner, settings, Option.map_eq_some_iff.mpr ⟨next, reached, rfl⟩,
        built.later _, ?_⟩
      rw [still unmeddled, dryRun, said]
      cases operation.pretence? <;> rfl
  | left idle choice =>
      refine ⟨choice, ?_⟩
      intro index held
      cases idle.symm.trans held
  | @built settings index task loaded current new found receptive dryRun choice =>
      refine ⟨choice, ?_⟩
      intro other held
      cases current.symm.trans held
      -- it came to be in this step, which is the last of the past
      refine ⟨task.owner, settings, Option.map_eq_some_iff.mpr ⟨task, found, rfl⟩,
        ⟨_, List.mem_append_right _ List.mem_cons_self, new, ?_, loaded⟩, ?_⟩
      · exact (List.getElem?_eq_some_iff.mp found).1
      · rw [dryRun, choice]

def Remembers (past : List Stride) (service : Service) : Prop :=
  (∀ stride ∈ past, ¬stride.operation.Meddles) →
    service.dryRunChoice = lastPretence past ∧ PretendsAsSaid past service

theorem Remembers.turn (turn : Turn operation before after) (remembers : Remembers past before) :
    Remembers (past ++ [⟨operation, before, after⟩]) after := by
  intro unmeddled
  obtain ⟨earlier, last⟩ := List.forall_mem_append.mp unmeddled
  obtain ⟨said, pretends⟩ := remembers earlier
  exact pretends.turn turn (last _ List.mem_cons_self) said

theorem send_pretending {clients : Clients} {index : Nat} {client : Client}
    (found : clients.client? index = some client) (dryRun : client.dryRun = true) (hit : Hit) :
    (clients.send index hit).2 = clients := by
  unfold Clients.send
  simp only [found, dryRun, Bool.or_true, if_true]
  split <;> rfl

/-- While the service pretends, no hit comes in by way of it or of its client. -/
theorem PretendsAsSaid.arrivals (pretends : PretendsAsSaid past service)
    (said : lastPretence past = some true) (unheard : service.clients.witness = none)
    (own : ∀ index hit, operation = .onClient index (.send hit) →
      service.current = some index) :
    (service.perform operation).clients.arrivals = service.clients.arrivals := by
  have pretending {index : Nat} (held : service.current = some index) :
      ∃ client, Clients.client? service.clients index = some client ∧ client.dryRun = true := by
    obtain ⟨client, settings, found, _, dryRun⟩ := pretends index held
    rw [said] at dryRun
    exact ⟨client, found, dryRun⟩
  -- hits come in by way of a client that somebody holds, or by way of the service
  by_cases direct : ∃ index hit, operation = .onClient index (.send hit)
  · obtain ⟨index, hit, rfl⟩ := direct
    obtain ⟨client, found, dryRun⟩ := pretending (own index hit rfl)
    have lent : Clients.client? service.lendClients index = some client := found
    have unmoved : Clients.perform service.lendClients index (.send hit) = service.lendClients :=
      send_pretending lent dryRun hit
    simp only [perform, withClients, unmoved]
    rfl
  · refine arrivals_perform unheard ?_ fun index hit same => direct ⟨index, hit, same⟩
    rintro index ⟨held, client, found, _, _, sends⟩
    obtain ⟨other, same, dryRun⟩ := pretending held
    cases found.symm.trans same
    cases sends.symm.trans dryRun

/-- After every step of a run the client in use pretends as the application has said last, or else as
the settings say that were loaded when it was built. Once it has been told to pretend, no hit comes
in until it is told otherwise. -/
theorem pretence_persists {parts : ServiceParts} {environment : Environment} {disk : Disk}
    {directory : Place} (built : parts.build environment disk directory = .ok service)
    {operations : List Operation} (unmeddled : ∀ operation ∈ operations, ¬operation.Meddles) :
    let reached := service.course operations
    PretendsAsSaid (service.history operations) reached ∧
      (∀ early stride late, service.history operations = early ++ stride :: late →
        PretendsAsSaid (early ++ [stride]) stride.after) ∧
      (lastPretence (service.history operations) = some true → ∀ operation,
        (∀ index hit, operation = .onClient index (.send hit) → reached.current = some index) →
          (reached.perform operation).clients.arrivals = reached.clients.arrivals) := by
  intro reached
  obtain ⟨silent, idle, unheard⟩ : service.dryRunChoice = none ∧ service.current = none ∧
      service.clients.witness = none := by
    obtain ⟨supply, store, _, rfl⟩ := ServiceParts.build_eq built
    exact ⟨rfl, rfl, rfl⟩
  have start : Remembers [] service := by
    refine fun _ => ⟨silent, ?_⟩
    intro index held
    cases idle.symm.trans held
  have clean (stride : Stride) (member : stride ∈ service.history operations) :
      ¬stride.operation.Meddles := unmeddled _ (service.operation_history operations stride member)
  obtain ⟨ends, each⟩ := (service.trail_history operations).preserves Remembers.turn start
  have pretends := (ends clean).2
  refine ⟨pretends, ?_, ?_⟩
  · intro early stride late listed
    refine (each early stride late listed fun other member => clean other ?_).2
    rw [listed, List.append_cons]
    exact List.mem_append_left _ member
  · intro said operation own
    refine pretends.arrivals said ?_ own
    exact course_preserves (·.clients.witness = none)
      (fun before operation _ held => before.unheard_perform held operation) unheard

/-- The service is told to pretend, and then it is restarted, loses and regains the user's agreement,
and is shut down and started again. -/
def pretending : List Operation :=
  [.start, .setDryRun true, .restart,
    .change (.put optInKey (some (.boolean false))) (Eq.refl true),
    .change (.put optInKey (some (.boolean true))) (Eq.refl true), .shutdown, .start]

theorem unmeddled_pretending : ∀ operation ∈ pretending, ¬operation.Meddles := by
  simp [pretending, Operation.Meddles]

/-- No error is reported to the fifth client, until the service is told to send again. -/
theorem pretence_persists_fifthClient :
    let service := Service.atHand [(optInKey, .boolean true)] []
    let reached := service.course pretending
    (ServiceParts.atHand [(optInKey, .boolean true)] []).build {} {} [] = .ok service ∧
      (∀ operation ∈ pretending, ¬operation.Meddles) ∧ reached.current = some 4 ∧
      PretendsAsSaid (service.history pretending) reached ∧
      (∀ exception, (reached.perform (.dispatch exception)).clients.arrivals =
        reached.clients.arrivals) ∧
      ((reached.perform (.setDryRun false)).perform
        (.dispatch { message := "boom" })).clients.arrivals =
          [(4, ⟨.ofFailure "boom" true, ⟨0⟩, 0⟩)] := by
  intro service reached
  have said : lastPretence (service.history pretending) = some true := by decide +kernel
  obtain ⟨pretends, _, quiet⟩ :=
    pretence_persists (ServiceParts.build_atHand _ _) unmeddled_pretending
  refine ⟨ServiceParts.build_atHand _ _, unmeddled_pretending, by decide +kernel, pretends, ?_,
    by decide +kernel⟩
  intro exception
  refine quiet said (.dispatch exception) ?_
  intro index hit same
  cases same

end Telemetry.Service
