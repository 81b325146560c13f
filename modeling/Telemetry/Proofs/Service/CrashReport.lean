import Telemetry.Proofs.Service.Enrollment
import Telemetry.Proofs.Service.Tenure

/-! Reports of uncaught errors. An error that is handed to the chain of a service calls everybody in
it once, the service too if it has its place there; what the others do does not reach the service.
So a client that takes hits gets one report, which is there when the terminal handler is called. -/

namespace Telemetry.Service

abbrev Habits := String → UncaughtException → Service → Service

/-- The service has the client that it had, and nobody has brought that or another one a hit. -/
structure LeavesAlone (before after : Service) : Prop where
  current : after.current = before.current
  clients : after.clients = before.clients
  released : after.released = before.released

/-- The others may do what they like, such as rearrange the chain, as long as they leave the service
alone. -/
def Habits.Discreet (habits : Habits) : Prop :=
  ∀ name exception service, LeavesAlone service (habits name exception service)

def recording : Habits := fun name exception service =>
  { service with records := service.records ++ [(name, exception.description)] }

theorem discreet_recording : recording.Discreet := fun _ _ _ => ⟨rfl, rfl, rfl⟩

def callBy (habits : Habits) (exception : UncaughtException) (service : Service) :
    ChainMember → Service
  | .recorder name => habits name exception service
  | .service => callMember exception service .service

/-- The calls of members of the chain, one after the other, each with the service that it meets. -/
def calls (habits : Habits) (exception : UncaughtException) (service : Service) :
    List ChainMember → List (ChainMember × Service)
  | [] => []
  | member :: rest =>
      (member, service) :: calls habits exception (service.callBy habits exception member) rest

def dispatchBy (habits : Habits) (exception : UncaughtException) (service : Service) : Service :=
  service.chain.handlers.foldl (callBy habits exception) service

theorem dispatchBy_recording (exception : UncaughtException) (service : Service) :
    service.dispatchBy recording exception = service.dispatch exception := by
  have same : callBy recording exception = callMember exception := by
    funext before member
    cases member with
    | service => rfl
    | recorder name => rfl
  rw [dispatchBy, same]
  rfl

variable {habits : Habits} {exception : UncaughtException} {service after : Service}
  {members : List ChainMember}

theorem calls_append (habits : Habits) (exception : UncaughtException) (service : Service)
    (first second : List ChainMember) :
    service.calls habits exception (first ++ second) = service.calls habits exception first ++
      (first.foldl (callBy habits exception) service).calls habits exception second := by
  induction first generalizing service with
  | nil => rfl
  | cons member rest ih => simp only [List.cons_append, calls, List.foldl_cons, ih]

theorem calls_members (habits : Habits) (exception : UncaughtException) (service : Service)
    (members : List ChainMember) :
    (service.calls habits exception members).map (·.1) = members := by
  induction members generalizing service with
  | nil => rfl
  | cons member rest ih => simp only [calls, List.map_cons, ih]

theorem calls_terminal (habits : Habits) (exception : UncaughtException) (service : Service)
    (terminal : Option ChainMember) :
    service.calls habits exception terminal.toList = terminal.toList.map (·, service) := by
  cases terminal <;> rfl

theorem LeavesAlone.trans {before between : Service} (first : before.LeavesAlone between)
    (second : between.LeavesAlone after) : before.LeavesAlone after where
  current := second.current.trans first.current
  clients := second.clients.trans first.clients
  released := second.released.trans first.released

theorem LeavesAlone.willing {before : Service} (alone : before.LeavesAlone after) (index : Nat) :
    after.Willing index ↔ before.Willing index := by
  unfold Willing
  rw [alone.current, alone.clients]

theorem leavesAlone_calls (discreet : habits.Discreet) (exception : UncaughtException)
    (service : Service) (absent : .service ∉ members) :
    service.LeavesAlone (members.foldl (callBy habits exception) service) := by
  induction members generalizing service with
  | nil => exact ⟨rfl, rfl, rfl⟩
  | cons member rest ih =>
      obtain ⟨other, others⟩ := not_or.mp (mt List.mem_cons.mpr absent)
      cases member with
      | service => exact absurd rfl other
      | recorder name => exact (discreet name exception service).trans (ih _ others)

structure Gains (index : Nat) (hit : Hit) (before after : Clients) : Prop where
  arrivals : ∃ queued, queued.hit = hit ∧ after.arrivals = before.arrivals ++ [(index, queued)] ∧
    ∃ task next, before.tasks[index]? = some task ∧ after.tasks[index]? = some next ∧
      next.queue.hits = task.queue.makeRoom.queue.hits ++ [queued]
  others : ∀ other, other ≠ index → after.tasks[other]? = before.tasks[other]?

/-- The client in use, unless it says that it is closed, has a queue that takes hits. -/
def Receives (service : Service) : Prop :=
  ∀ index, service.current = some index →
    ∃ task, service.clients.tasks[index]? = some task ∧ task.Receptive

theorem Receives.turn {operation : Operation} {before : Service}
    (turn : Turn operation before after) (receives : before.Receives) : after.Receives := by
  intro index held
  cases turn with
  | kept current choice tasks =>
      rw [current] at held
      obtain ⟨task, found, receptive⟩ := receives index held
      obtain ⟨next, there, still, _⟩ := tasks index task held found
      exact ⟨next, there, still receptive⟩
  | left idle choice => cases idle.symm.trans held
  | built loaded current new found receptive dryRun choice =>
      cases current.symm.trans held
      exact ⟨_, found, receptive⟩

theorem Receives.course (receives : service.Receives) (operations : List Operation) :
    (service.course operations).Receives :=
  (service.trail_history operations).keeps Receives.turn receives

theorem Receives.gains (receives : service.Receives) {index : Nat}
    (willing : service.Willing index) (hit : Hit) :
    Gains index hit service.clients (Engine.enqueue service.clients index hit).2 := by
  obtain ⟨held, client, found, opened, _⟩ := willing
  obtain ⟨task, there, rfl⟩ := Option.map_eq_some_iff.mp found
  obtain ⟨other, same, receptive⟩ := receives index held
  cases there.symm.trans same
  obtain ⟨came, ⟨next, reached, hits⟩, others⟩ :=
    Engine.enqueue_opened there (receptive opened) hit
  exact ⟨⟨_, rfl, came, task, next, there, reached, hits⟩, others⟩

theorem sends_between {front back : List ChainMember} (discreet : habits.Discreet)
    (exception : UncaughtException) (kept : service.released = false)
    (before : .service ∉ front) (behind : .service ∉ back) :
    ∃ turn, service.LeavesAlone turn ∧
      (turn.send (.ofFailure exception.description true)).2.LeavesAlone
        ((front ++ .service :: back).foldl (callBy habits exception) service) := by
  have reached : service.LeavesAlone (front.foldl (callBy habits exception) service) :=
    leavesAlone_calls discreet exception service before
  refine ⟨_, reached, ?_⟩
  rw [List.foldl_append, List.foldl_cons]
  generalize front.foldl (callBy habits exception) service = turn at reached
  have called : turn.callBy habits exception .service =
      (turn.send (.ofFailure exception.description true)).2 := by
    have still : turn.released = false := reached.released.trans kept
    simp only [callBy, callMember, still, Bool.false_eq_true, if_false, reportFailure]
  -- those who are called after the service leave it with what it has sent
  rw [called]
  exact leavesAlone_calls discreet exception _ behind

/-- An error that is handed to others and at most once to the service is reported once if the service
is among them and has a client that takes hits. Otherwise nothing comes in. -/
theorem reports_once (discreet : habits.Discreet) (exception : UncaughtException)
    (kept : service.released = false) (receives : service.Receives)
    (once : members.count .service ≤ 1) :
    let met := members.foldl (callBy habits exception) service
    (∀ index, .service ∈ members → service.Willing index →
      Gains index (.ofFailure exception.description true) service.clients met.clients) ∧
    (.service ∉ members ∨ (∀ index, ¬service.Willing index) →
      met.clients = service.clients) := by
  intro met
  by_cases listed : .service ∈ members
  · -- the one place of the service parts those called before it from those called after it
    obtain ⟨front, back, rfl⟩ := List.append_of_mem listed
    rw [List.count_append, List.count_cons_self] at once
    have before : .service ∉ front := List.not_mem_of_count_eq_zero (by omega)
    have behind : .service ∉ back := List.not_mem_of_count_eq_zero (by omega)
    obtain ⟨turn, reached, ended⟩ := sends_between discreet exception kept before behind
    constructor
    · intro index _ willing
      have sent := send_willing ((reached.willing index).mpr willing)
        (.ofFailure exception.description true)
      rw [ended.clients, sent, reached.clients]
      exact receives.gains willing _
    · rintro (absent | unwilling)
      · exact absurd listed absent
      · have idle (index : Nat) : ¬turn.Willing index :=
          mt (reached.willing index).mp (unwilling index)
        rw [ended.clients, send_unwilling idle, reached.clients]
  · have alone : service.LeavesAlone met := leavesAlone_calls discreet exception service listed
    exact ⟨fun _ member => absurd member listed, fun _ => alone.clients⟩

def Intercepts (service : Service) : Prop :=
  service.Enlisted ∧ service.chain.terminal ≠ some .service

theorem Intercepts.perform (intercepts : service.Intercepts) (operation : Operation) :
    (service.perform operation).Intercepts := by
  obtain ⟨enlisted, other⟩ := intercepts
  refine ⟨(enlisted.perform operation).1, ?_⟩
  by_cases foreign : operation.IsForeign
  · cases operation with
    | setTerminal name =>
        cases name with
        | none => exact fun same => by cases same
        | some name => exact fun same => ChainMember.noConfusion (Option.some.inj same)
    | enlist name => exact other
    | dismiss number =>
        simp only [Service.perform]
        split <;> exact other
    | _ => exact foreign.elim
  · rw [(enlisted.keepsPlaces foreign).terminal]
    exact other

theorem Intercepts.course (intercepts : service.Intercepts) (operations : List Operation) :
    (service.course operations).Intercepts :=
  course_preserves Intercepts (fun _ operation _ held => held.perform operation) intercepts

theorem intercepts_build {parts : ServiceParts} {environment : Environment} {disk : Disk}
    {directory : Place} (built : parts.build environment disk directory = .ok service)
    (unlisted : ∀ chain, parts.chain = some chain → .service ∉ chain.handlers) :
    service.Intercepts := by
  obtain ⟨enlisted, _⟩ := enlisted_build built fun chain given =>
    mt (List.mem_append_left _) (unlisted chain given)
  refine ⟨enlisted, ?_⟩
  obtain ⟨supply, store, _, rfl⟩ := ServiceParts.build_eq built
  intro same
  cases given : parts.chain with
  | none =>
      rw [given] at same
      cases same
  | some chain =>
      rw [given] at same
      exact unlisted chain given (List.mem_append_right _ (Option.mem_toList.mpr same))

/-- In every state the chain calls its interceptors, among which the service is at most once, and then
its terminal handler, once. If the service has its place and a client that takes hits, exactly one
report of the error has come in by then, which is fatal and begins as the error is described.
Otherwise no hit comes in. -/
theorem errors_reported_once {parts : ServiceParts} {environment : Environment} {disk : Disk}
    {directory : Place} (built : parts.build environment disk directory = .ok service)
    (unlistened : ∀ store, parts.store = some store → .service ∉ store.listeners.items)
    (unlisted : ∀ chain, parts.chain = some chain → .service ∉ chain.handlers)
    (discreet : habits.Discreet) (operations : List Operation) (exception : UncaughtException) :
    let reached := service.course operations
    let after := reached.dispatchBy habits exception
    reached.chain.interceptors.ListsOnce .service reached.token ∧
      ∃ early met,
        reached.calls habits exception reached.chain.handlers =
          early ++ reached.chain.terminal.toList.map (·, met) ∧
        early.map (·.1) = reached.chain.interceptors.items ∧ after.clients = met.clients ∧
        (∀ index, reached.token ≠ none → reached.Willing index →
          Gains index (.exception ⟨String.ofList (exception.description.toList.take 100), true⟩)
            reached.clients met.clients) ∧
        (reached.token = none ∨ (∀ index, ¬reached.Willing index) →
          met.clients = reached.clients) := by
  intro reached after
  obtain ⟨wired, idle⟩ := wired_build built unlistened
  have kept : reached.released = false := (wired.course_wired operations).kept
  have receives : reached.Receives := by
    refine Receives.course (fun index held => ?_) operations
    cases idle.symm.trans held
  obtain ⟨enlisted, other⟩ := (intercepts_build built unlisted).course operations
  have listsOnce := enlisted.chain.listsOnce
  obtain ⟨gains, idles⟩ := reports_once discreet exception kept receives listsOnce.count_le
  refine ⟨listsOnce, reached.calls habits exception reached.chain.interceptors.items,
    reached.chain.interceptors.items.foldl (callBy habits exception) reached, ?_,
    calls_members habits exception reached _, ?_, ?_, ?_⟩
  · rw [HookChain.handlers, calls_append, calls_terminal]
  · -- the terminal handler is somebody else, so nothing comes in after it is met
    have absent : .service ∉ reached.chain.terminal.toList :=
      fun member => other (Option.mem_toList.mp member)
    have ended : LeavesAlone (reached.chain.interceptors.items.foldl (callBy habits exception)
        reached) after := by
      unfold after
      rw [dispatchBy, HookChain.handlers, List.foldl_append]
      exact leavesAlone_calls discreet exception _ absent
    exact ended.clients
  · intro index placed willing
    exact gains index (listsOnce.mem_iff.mpr placed) willing
  · rintro (displaced | unwilling)
    · exact idles (.inl fun member => listsOnce.mem_iff.mp member displaced)
    · exact idles (.inr unwilling)

/-- The service takes its place between two others, three times, and a terminal handler is set. -/
def crowded : List Operation :=
  [.enlist "early", .start, .intercept, .restart, .enlist "late", .start,
    .setTerminal (some "original")]

theorem errors_reported_once_betweenOthers :
    let service := Service.atHand [(optInKey, .boolean true)] []
    let reached := service.course crowded
    let error : UncaughtException := { message := "boom", thread := some "main" }
    (ServiceParts.atHand [(optInKey, .boolean true)] []).build {} {} [] = .ok service ∧
      recording.Discreet ∧ reached.token = some 2 ∧ reached.Willing 1 ∧
      reached.chain.handlers =
        [.recorder "early", .service, .recorder "late", .recorder "original"] ∧
      ∃ early met,
        reached.calls recording error reached.chain.handlers =
          early ++ [(.recorder "original", met)] ∧
        (reached.perform (.dispatch error)).clients = met.clients ∧
        Gains 1 (.exception ⟨"boom \x7bmain\x7d", true⟩) reached.clients met.clients := by
  intro service reached error
  have built := ServiceParts.build_atHand [(optInKey, .boolean true)] []
  have unlistened := ServiceParts.unlistened_atHand [(optInKey, .boolean true)] []
  have unlisted (chain : HookChain ChainMember)
      (given : (ServiceParts.atHand [(optInKey, .boolean true)] []).chain = some chain) :
      .service ∉ chain.handlers := by
    rw [← Option.some.inj given]
    exact List.not_mem_nil
  have token : reached.token = some 2 := by decide +kernel
  have terminal : reached.chain.terminal = some (.recorder "original") := by decide +kernel
  have willing : reached.Willing 1 := by
    have switches : (Clients.client? reached.clients 1).map
        (fun client => (client.closed, client.enabled, client.dryRun)) =
          some (false, true, false) := by decide +kernel
    obtain ⟨client, found, same⟩ := Option.map_eq_some_iff.mp switches
    simp only [Prod.mk.injEq] at same
    exact ⟨by decide +kernel, client, found, same⟩
  have cut : String.ofList (error.description.toList.take 100) = "boom \x7bmain\x7d" := by
    decide +kernel
  obtain ⟨_, early, met, called, _, ended, gains, _⟩ :=
    errors_reported_once built unlistened unlisted discreet_recording crowded error
  rw [dispatchBy_recording] at ended
  have placed : reached.token ≠ none := by
    rw [token]
    exact Option.some_ne_none 2
  have reported := gains 1 placed willing
  rw [cut] at reported
  refine ⟨built, discreet_recording, token, willing, by decide +kernel, early, met, ?_, ended,
    reported⟩
  rw [terminal] at called
  exact called

end Telemetry.Service
