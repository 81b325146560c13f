import Telemetry.Proofs.Queue.Balance
import Telemetry.Proofs.Queue.Seal
import Telemetry.Proofs.Service.Start

/-! No hit is lost over all the clients that a service ever has. Old clients drain while the
current one takes hits, and callers and loops empty the same queues; still every hit that came in
is in one place at every point of a run. -/

namespace Telemetry

open Journal

namespace Service

variable (service : Service)

theorem leadsTo_perform (operation : Operation) :
    Engine.LeadsTo (fun _ => True) service.clients (service.perform operation).clients := by
  have any {kind : QueueEvent Client → Prop} {after : Clients}
      (leads : Engine.LeadsTo kind service.clients after) :
      Engine.LeadsTo (fun _ => True) service.clients after := leads.weaken fun _ _ => trivial
  have plainly (plain : operation.IsPlain) :
      Engine.LeadsTo (fun _ => True) service.clients (service.perform operation).clients :=
    any (service.routine_perform plain).clients
  by_cases quiet : operation.IsQuiet
  · exact any (service.silent_perform quiet)
  · cases operation with
    | report report => exact plainly trivial
    | flush => exact plainly trivial
    | dispatch exception => exact plainly trivial
    | panic exception => exact plainly trivial
    | onClient index operation =>
        exact service.leadsTo_withClients (fun _ => trivial)
          fun clients => (clients.leadsTo_perform index operation).weaken fun _ _ => trivial
    | go index place => exact plainly trivial
    | tick milliseconds => exact plainly trivial
    | sleep milliseconds => exact plainly trivial
    | _ => exact absurd trivial quiet

structure Sound (clients : Clients) : Prop where
  balanced : Engine.Balanced clients
  numbered : Engine.Numbered clients
  orderly : ∀ task ∈ clients.tasks, task.Orderly

theorem Sound.after {clients : Clients} (sound : Sound clients) (event : QueueEvent Client) :
    Sound (Engine.after clients event) where
  balanced := sound.balanced.after event
  numbered := sound.numbered.after event
  orderly := Engine.everywhere_after event (fun _ _ _ _ => List.forall_mem_nil _)
    (fun change => change.orderly) sound.orderly

variable {service : Service}

theorem Sound.course (sound : Sound service.clients) (operations : List Operation) :
    Sound (service.course operations).clients :=
  course_preserves (Sound ·.clients)
    (fun before operation _ held => Engine.LeadsTo.preserves Sound
      (fun _ event _ sound => sound.after event) (before.leadsTo_perform operation) held) sound

theorem sound_build {parts : ServiceParts} {environment : Environment} {disk : Disk}
    {directory : Place} (built : parts.build environment disk directory = .ok service) :
    Sound service.clients := by
  obtain ⟨supply, store, _, rfl⟩ := ServiceParts.build_eq built
  exact
    { balanced := fun queue hit => rfl
      numbered := ⟨.nil, List.forall_mem_nil _⟩
      orderly := List.forall_mem_nil _ }

/-- The batches of a queue that were handed over, answered or not. -/
def handedOver (service : Service) (index : Nat) : List (List QueuedHit) :=
  answered index service.clients.outbox.journal ++
    ((service.clients.tasks[index]?).elim [] Task.outstanding)

def waiting (service : Service) (index : Nat) : List QueuedHit :=
  (service.clients.queue? index).elim [] (·.hits)

theorem holding_eq (service : Service) (index : Nat) (hit : QueuedHit) :
    Engine.holding service.clients index hit =
      ((service.clients.tasks[index]?).elim [] Task.outstanding).flatten.count hit +
        (service.waiting index).count hit := by
  unfold Engine.holding waiting Engine.queue?
  cases service.clients.tasks[index]? with
  | none => rfl
  | some task =>
      simp only [Option.elim_some, Option.map_some, Task.holding, task.count_outstanding]
      omega

/-- Every hit that came into the queue of a client is in one place: in one batch that was handed
over, among the dropped hits of that queue, or still in it. No other client ever had it, and a
loop that has stopped leaves an empty queue. -/
theorem hits_conserved {parts : ServiceParts} {environment : Environment} {disk : Disk}
    {directory : Place} (built : parts.build environment disk directory = .ok service)
    (operations : List Operation) :
    let reached := service.course operations
    let journal := reached.clients.outbox.journal
    (∀ index, ∀ hit ∈ accepted index journal,
      (reached.handedOver index).flatten.count hit + (dropped index journal).count hit +
          (reached.waiting index).count hit = 1 ∧
        ∀ other ≠ index, hit ∉ (reached.handedOver other).flatten ∧
          hit ∉ dropped other journal ∧ hit ∉ reached.waiting other) ∧
      ∀ (index : Nat) task, reached.clients.tasks[index]? = some task →
        ∀ loop ∈ task.loops, loop.stage = .stopped → reached.waiting index = [] := by
  have sound := (sound_build built).course operations
  dsimp only
  have account (index : Nat) (hit : QueuedHit) :=
    sound.balanced index hit
  simp only [holding_eq] at account
  have handed (index : Nat) (hit : QueuedHit) :
      ((service.course operations).handedOver index).flatten.count hit =
        (answered index (service.course operations).clients.outbox.journal).flatten.count hit +
          (((service.course operations).clients.tasks[index]?).elim []
            Task.outstanding).flatten.count hit := by
    simp only [handedOver, List.flatten_append, List.count_append]
  constructor
  · intro index hit came
    have here := List.count_pos_iff.mpr came
    have once := sound.numbered.count_le_one index hit
    have own := account index hit
    refine ⟨by rw [handed]; omega, ?_⟩
    intro other apart
    have elsewhere : (accepted other (service.course operations).clients.outbox.journal).count
        hit = 0 := by
      apply List.count_eq_zero.mpr
      intro there
      exact apart (sound.numbered.one_queue there came)
    have sums := account other hit
    rw [elsewhere] at sums
    refine ⟨List.count_eq_zero.mp ?_, List.count_eq_zero.mp ?_, List.count_eq_zero.mp ?_⟩
    · rw [handed]
      omega
    · omega
    · omega
  · intro index task found loop member stopped
    have shut := sound.orderly task (List.mem_of_getElem? found) loop member
    rw [stopped] at shut
    simp only [waiting, Engine.queue?, found, Option.map_some, Option.elim_some]
    exact shut.2

/-- A restart leaves a client behind whose last batch fails while the next one takes a hit. -/
def changeOver : List Operation :=
  [.start, .report (.screen "first"), .restart, .report (.screen "last"), .go 0 0, .go 0 0, .go 0 0,
    .go 0 0, .go 0 0]

theorem hits_conserved_over_restart :
    let reached := (Service.atHand [(optInKey, .boolean true)] [.failed .closed]).course changeOver
    (ServiceParts.atHand [(optInKey, .boolean true)] [.failed .closed]).build {} {} [] =
        .ok (Service.atHand [(optInKey, .boolean true)] [.failed .closed]) ∧
      (∃ hit ∈ accepted 0 reached.clients.outbox.journal,
        (reached.handedOver 0).flatten.count hit +
            (dropped 0 reached.clients.outbox.journal).count hit +
            (reached.waiting 0).count hit = 1 ∧ hit ∉ reached.waiting 1) ∧
      reached.waiting 0 = [] := by
  have built := ServiceParts.build_atHand [(optInKey, .boolean true)] [.failed .closed]
  obtain ⟨once, emptied⟩ := hits_conserved built changeOver
  refine ⟨built, ⟨⟨.ofScreen "first", ⟨0⟩, 0⟩, by decide +kernel, ?_⟩, ?_⟩
  · obtain ⟨placed, elsewhere⟩ := once 0 ⟨.ofScreen "first", ⟨0⟩, 0⟩ (by decide +kernel)
    exact ⟨placed, (elsewhere 1 (by decide)).2.2⟩
  · have stages : (((Service.atHand [(optInKey, .boolean true)] [.failed .closed]).course
        changeOver).clients.tasks[0]?).map (·.loops.map (·.stage)) = some [.stopped] := by
      decide +kernel
    obtain ⟨task, found, stopped⟩ := Option.map_eq_some_iff.mp stages
    obtain ⟨loop, loops, stage⟩ := List.map_eq_singleton_iff.mp stopped
    exact emptied 0 task found loop (by rw [loops]; exact List.mem_singleton_self _) stage

end Service

end Telemetry
