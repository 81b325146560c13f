import Telemetry.Proofs.Delivery.Exchange
import Telemetry.Proofs.Queue.Balance
import Telemetry.Proofs.Queue.Change
import Telemetry.Proofs.Retry.Attempts

/-! Where the requests at a collector come from. Every request that a collector has noted is the
request for a group of hits of a batch that a queue handed over, and every hit of that batch was
accepted by the queue before: nothing reaches a collector that did not come in as a hit. -/

namespace Telemetry

open Journal

namespace HttpSender

variable {sender : HttpSender} {collector : Collector} {request : Request}

theorem post_noted {path body : String}
    (noted : request ∈ (sender.post path body collector).2.requests) :
    request ∈ collector.requests ∨ request = sender.requestTo path body := by
  unfold post at noted
  unfold requestTo targetOf
  split at noted
  · exact .inl noted
  · rename_i url parsed
    split at noted
    · exact .inl noted
    · unfold Collector.receive at noted
      dsimp only at noted
      split at noted
      · exact .inl noted
      · rcases List.mem_append.mp noted with old | new
        · exact .inl old
        · rw [parsed]
          exact .inr (List.mem_singleton.mp new)

theorem stateAfter_noted {path body : String} (count : Nat)
    (noted : request ∈ (stateAfter (sender.post path body) count collector).requests) :
    request ∈ collector.requests ∨ request = sender.requestTo path body := by
  induction count generalizing collector with
  | zero => exact .inl noted
  | succ count ih =>
      rcases ih noted with before | same
      · exact post_noted before
      · exact .inr same

theorem sendGroup_noted {calendar : Calendar} {group : List QueuedHit}
    (noted : request ∈ (sender.sendGroup calendar group collector).collector.requests) :
    request ∈ collector.requests ∨ request = sender.requestFor calendar group := by
  rw [sendGroup_eq] at noted
  obtain ⟨count, went⟩ := RetryPolicy.runWith_went sender.policy sender.policy.backoff?
    (sender.post (requestParts (sender.payloads calendar group)).1
      (requestParts (sender.payloads calendar group)).2) collector
  change request ∈ (sender.policy.runWith sender.policy.backoff? _ collector).state.requests at noted
  rw [went.state] at noted
  exact stateAfter_noted (count + 1) noted

theorem sendGroups_noted {calendar : Calendar} {groups : List (List QueuedHit)}
    (noted : request ∈ (sender.sendGroups calendar groups collector).collector.requests) :
    request ∈ collector.requests ∨
      ∃ group ∈ groups, ∃ looked, request = sender.requestFor looked group := by
  induction groups generalizing calendar collector with
  | nil => exact .inl noted
  | cons group groups ih =>
      have first (among : request ∈
          (sender.sendGroup calendar group collector).collector.requests) :
          request ∈ collector.requests ∨
            ∃ sent ∈ group :: groups, ∃ looked, request = sender.requestFor looked sent := by
        rcases sendGroup_noted among with before | same
        · exact .inl before
        · exact .inr ⟨group, List.mem_cons_self, calendar, same⟩
      rw [sendGroups] at noted
      dsimp only at noted
      split at noted
      · rcases ih noted with before | ⟨sent, later, same⟩
        · exact first before
        · exact .inr ⟨sent, List.mem_cons_of_mem _ later, same⟩
      · exact first noted

end HttpSender

def Courier.IsBlank : Courier → Prop
  | .scripted _ => True
  | .http _ collector => collector.requests = []

/-- The journal tells of a batch with a group of hits for which the sender makes the request. -/
def Journal.Explains (journal : List Happening) (courier : Nat) (sender : HttpSender)
    (request : Request) : Prop :=
  ∃ queue batch answer, .sent queue courier batch answer ∈ journal ∧
    ∃ group ∈ groupsOf maxHitsPerRequest batch, ∃ looked, request = sender.requestFor looked group

theorem Journal.Explains.mono {journal later : List Happening} {courier : Nat}
    {sender : HttpSender} {request : Request} (explains : Explains journal courier sender request)
    (grows : journal ⊆ later) : Explains later courier sender request := by
  obtain ⟨queue, batch, answer, told, explained⟩ := explains
  exact ⟨queue, batch, answer, grows told, explained⟩

theorem Courier.deliver_noted {courier : Courier} {calendar : Calendar} {batch : List QueuedHit}
    {sender : HttpSender} {collector : Collector}
    (delivered : (courier.deliver calendar batch).courier = .http sender collector) :
    ∃ before, courier = .http sender before ∧ ∀ request ∈ collector.requests,
      request ∈ before.requests ∨ ∃ group ∈ groupsOf maxHitsPerRequest batch, ∃ looked,
        request = sender.requestFor looked group := by
  cases courier with
  | scripted answers => cases delivered
  | http sender before =>
      cases delivered
      exact ⟨before, rfl, fun request noted => HttpSender.sendGroups_noted noted⟩

namespace Outbox

def Traced (outbox : Outbox) : Prop :=
  ∀ courier sender collector, outbox.couriers[courier]? = some (.http sender collector) →
    ∀ request ∈ collector.requests, Journal.Explains outbox.journal courier sender request

variable {outbox : Outbox}

theorem Traced.mono {later : Outbox} (traced : outbox.Traced)
    (couriers : later.couriers = outbox.couriers) (grows : outbox.journal ⊆ later.journal) :
    later.Traced := by
  intro courier sender collector found request noted
  rw [couriers] at found
  exact (traced courier sender collector found request noted).mono grows

theorem Traced.note (traced : outbox.Traced) (happenings : List Happening) :
    (outbox.note happenings).Traced :=
  traced.mono rfl (List.subset_append_left _ _)

theorem Traced.supply (traced : outbox.Traced) {courier : Courier} (blank : courier.IsBlank) :
    Traced { outbox with couriers := outbox.couriers ++ [courier] } := by
  intro place sender collector found request noted
  by_cases known : place < outbox.couriers.length
  · rw [List.getElem?_append_left known] at found
    exact traced place sender collector found request noted
  · rw [List.getElem?_append_right (Nat.le_of_not_lt known)] at found
    obtain rfl := List.mem_singleton.mp (List.mem_of_getElem? found)
    rw [show collector.requests = [] from blank] at noted
    cases noted

theorem courier_deliver {queue courier place : Nat} {batch : List QueuedHit} {after : Courier}
    (found : (outbox.deliver queue courier batch).2.couriers[place]? = some after) :
    outbox.couriers[place]? = some after ∨ place = courier ∧
      ∃ before, outbox.couriers[courier]? = some before ∧
        (before.deliver outbox.world.calendar batch).courier = after := by
  unfold deliver at found
  split at found
  · exact .inl found
  · rename_i before held
    change (outbox.couriers.set courier
      (before.deliver outbox.world.calendar batch).courier)[place]? = _ at found
    by_cases own : courier = place
    · subst own
      have inside := (List.getElem?_eq_some_iff.mp held).1
      rw [List.getElem?_set_self inside] at found
      exact .inr ⟨rfl, before, held, Option.some.inj found⟩
    · rw [List.getElem?_set_ne own] at found
      exact .inl found

theorem Traced.deliver (traced : outbox.Traced) (queue courier : Nat) (batch : List QueuedHit) :
    (outbox.deliver queue courier batch).2.Traced := by
  obtain ⟨warnings, journal⟩ := outbox.journal_deliver queue courier batch
  have grows : outbox.journal ⊆ (outbox.deliver queue courier batch).2.journal :=
    journal ▸ List.subset_append_left _ _
  have told : .sent queue courier batch (outbox.deliver queue courier batch).1 ∈
      (outbox.deliver queue courier batch).2.journal := by
    rw [journal]
    exact List.mem_append_right _
      (List.mem_append_left _ (List.mem_append_right _ List.mem_cons_self))
  intro place sender collector found request noted
  rcases courier_deliver found with same | ⟨rfl, before, held, delivered⟩
  · exact (traced place sender collector same request noted).mono grows
  · obtain ⟨earlier, rfl, origin⟩ := Courier.deliver_noted delivered
    rcases origin request noted with old | made
    · exact (traced place sender earlier held request old).mono grows
    · exact ⟨queue, batch, _, told, made⟩

end Outbox

def QueueEvent.Honest {α : Type} : QueueEvent α → Prop
  | .supply courier => courier.IsBlank
  | _ => True

namespace Engine

variable {α : Type}

/-- The accounts of hits are balanced, and the journal explains what the couriers have noted. -/
structure Explained (engine : Engine α) : Prop where
  balanced : engine.Balanced
  traced : engine.outbox.Traced

theorem traced_after {engine : Engine α} (traced : engine.outbox.Traced) {event : QueueEvent α}
    (honest : event.Honest) : (engine.after event).outbox.Traced := by
  refine outbox_after Outbox.Traced (fun _ _ kept => kept) (fun _ _ kept => kept.note _)
    (fun _ _ _ _ kept => kept.deliver _ _ _) ?_ traced
  rintro outbox courier rfl kept
  exact kept.supply honest

theorem Explained.after {engine : Engine α} {event : QueueEvent α} (honest : event.Honest)
    (explained : engine.Explained) : (engine.after event).Explained :=
  ⟨explained.balanced.after event, traced_after explained.traced honest⟩

theorem Balanced.accepted_of_sent {engine : Engine α} (balanced : engine.Balanced)
    {queue courier : Nat} {batch : List QueuedHit} {answer : Answer}
    (told : .sent queue courier batch answer ∈ engine.outbox.journal) {queued : QueuedHit}
    (among : queued ∈ batch) : queued ∈ accepted queue engine.outbox.journal := by
  have listed : batch ∈ answered queue engine.outbox.journal := by
    refine List.mem_map.mpr ⟨(queue, batch), List.mem_filter.mpr ⟨?_, beq_self_eq_true queue⟩, rfl⟩
    exact List.mem_filterMap.mpr ⟨_, told, rfl⟩
  have counted : 0 < (answered queue engine.outbox.journal).flatten.count queued :=
    List.count_pos_iff.mpr (List.mem_flatten.mpr ⟨batch, listed, among⟩)
  have sums := balanced queue queued
  exact List.count_pos_iff.mp (by omega)

theorem Explained.lines {engine : Engine α} (explained : engine.Explained) {courier : Nat}
    {sender : HttpSender} {collector : Collector}
    (found : engine.outbox.couriers[courier]? = some (.http sender collector))
    {request : Request} (noted : request ∈ collector.requests) {line : String}
    (among : line ∈ request.lines) :
    ∃ queue, ∃ queued ∈ accepted queue engine.outbox.journal, ∃ now,
      line = payload sender.origin queued.hit (queued.queueTime now) := by
  obtain ⟨queue, batch, answer, told, group, inBatch, looked, rfl⟩ :=
    explained.traced courier sender collector found request noted
  rw [sender.lines_requestFor looked (ne_nil_of_mem_groupsOf inBatch)] at among
  obtain ⟨queued, inGroup, now, rfl⟩ := HttpSender.payloads_made among
  have whole : (groupsOf maxHitsPerRequest batch).flatten = batch := flatten_groupsOf batch
  have sent : queued ∈ batch := whole ▸ List.mem_flatten.mpr ⟨group, inBatch, inGroup⟩
  exact ⟨queue, queued, explained.balanced.accepted_of_sent told sent, now, rfl⟩

end Engine

end Telemetry
