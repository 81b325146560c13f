import Telemetry.Proofs.Delivery.Payload
import Telemetry.Proofs.Delivery.Posting
import Telemetry.Proofs.Retry.History

/-! A delivery to a collector that takes everything. Each group of hits is posted once, whatever the
policy, and the lines of all bodies one after the other are read back as the hits: no text of a hit
or of the installation can end a line or a parameter. -/

namespace Telemetry

open Telemetry.Text

def Request.lines (request : Request) : List String :=
  (splitAll '\n' request.body.toList).map String.ofList

/-- A body with one payload on each line, or with the only payload, has the payloads as its lines. -/
theorem lines_requestParts {payloads : List String} (nonempty : payloads ≠ [])
    (closed : ∀ text ∈ payloads, '\n' ∉ text.toList) :
    (splitAll '\n' (requestParts payloads).2.toList).map String.ofList = payloads := by
  unfold requestParts
  split
  · rename_i single
    rw [splitAll_absent (closed single List.mem_cons_self), List.map_singleton,
      String.ofList_toList]
  · have pieces : payloads.map String.toList ≠ [] := by
      rw [Ne, List.map_eq_nil_iff]
      exact nonempty
    have absent : ∀ piece ∈ payloads.map String.toList, '\n' ∉ piece := by
      intro piece among
      obtain ⟨text, present, rfl⟩ := List.mem_map.mp among
      exact closed text present
    have written : (batchBody payloads).toList =
        List.intercalate ['\n'] (payloads.map String.toList) :=
      String.toList_intercalate
    have back : String.ofList ∘ String.toList = id := by
      funext text
      exact String.ofList_toList
    rw [written, splitAll_intercalate pieces absent, List.map_map, back, List.map_id]

theorem path_requestParts (payloads : List String) :
    (requestParts payloads).1 = if payloads.length = 1 then "/collect" else "/batch" := by
  unfold requestParts
  split
  · rfl
  · rename_i several
    rw [if_neg]
    intro one
    obtain ⟨single, rfl⟩ := List.length_eq_one_iff.mp one
    exact several single rfl

namespace HttpSender

variable {sender : HttpSender} {collector : Collector}

theorem lines_requestFor (calendar : Calendar) {group : List QueuedHit} (nonempty : group ≠ []) :
    (sender.requestFor calendar group).lines = sender.payloads calendar group := by
  refine lines_requestParts ?_ ?_
  · intro empty
    have none := sender.length_payloads calendar group
    rw [empty, List.length_nil] at none
    exact nonempty (List.length_eq_zero_iff.mp none.symm)
  · intro text among
    obtain ⟨queued, _, now, rfl⟩ := payloads_made among
    exact Form.newline_not_mem_encode _

theorem requestFor_path (sender : HttpSender) (calendar : Calendar) (group : List QueuedHit) :
    ∃ path, sender.requestFor calendar group =
        sender.requestTo path (sender.requestFor calendar group).body ∧
      (path = "/collect" ↔ group.length = 1) ∧ (path = "/batch" ↔ group.length ≠ 1) := by
  refine ⟨(requestParts (sender.payloads calendar group)).1, rfl, ?_⟩
  rw [path_requestParts, length_payloads]
  by_cases one : group.length = 1
  · rw [if_pos one]
    exact ⟨iff_of_true rfl one, iff_of_false (by decide) (not_not_intro one)⟩
  · rw [if_neg one]
    exact ⟨iff_of_false (by decide) one, iff_of_true rfl one⟩

end HttpSender

def Collector.TakesAll (collector : Collector) : Prop :=
  ∀ response ∈ collector.habit :: collector.script,
    response.IsComplete ∧ response.acknowledges = true

instance (collector : Collector) : Decidable collector.TakesAll :=
  inferInstanceAs (Decidable (∀ response ∈ _, Response.IsComplete response ∧ _ = true))

namespace HttpSender

variable {sender : HttpSender} {collector : Collector}

def requestsFor (sender : HttpSender) : Calendar → List (List QueuedHit) → List Request
  | _, [] => []
  | calendar, group :: groups =>
      sender.requestFor calendar group :: sender.requestsFor (calendar.after group.length) groups

theorem length_requestsFor (sender : HttpSender) (calendar : Calendar)
    (groups : List (List QueuedHit)) :
    (sender.requestsFor calendar groups).length = groups.length := by
  induction groups generalizing calendar with
  | nil => rfl
  | cons group groups inductionHypothesis =>
      rw [requestsFor, List.length_cons, inductionHypothesis, List.length_cons]

theorem mem_requestsFor {calendar : Calendar} {groups : List (List QueuedHit)} {request : Request}
    (among : request ∈ sender.requestsFor calendar groups) :
    ∃ group ∈ groups, ∃ looked, request = sender.requestFor looked group := by
  induction groups generalizing calendar with
  | nil => cases among
  | cons group groups inductionHypothesis =>
      rcases List.mem_cons.mp among with rfl | later
      · exact ⟨group, List.mem_cons_self, calendar, rfl⟩
      · obtain ⟨other, present, found⟩ := inductionHypothesis later
        exact ⟨other, List.mem_cons_of_mem _ present, found⟩

/-- A group that is taken is posted once, whatever the policy. -/
theorem sendGroup_taken (addressed : sender.HasAddress) (takes : collector.TakesAll)
    (calendar : Calendar) (group : List QueuedHit) :
    (sender.sendGroup calendar group collector).answer = .delivered ∧
      (sender.sendGroup calendar group collector).collector =
        collector.after [sender.requestFor calendar group] ∧
      (sender.sendGroup calendar group collector).calendar = calendar.after group.length := by
  have complete : collector.IsComplete := fun response among => (takes response among).1
  have acknowledges := (takes _ (collector.responseTo_mem 0)).2
  have taken : (collector.responseTo 0).outcome = .ok () := by
    rcases (complete.responseTo 0).outcome with ⟨_, succeeded⟩ | ⟨error, reports, _⟩
    · exact succeeded
    · rw [reports.not_acknowledges] at acknowledges
      cases acknowledges
  have posted := post_complete addressed complete
    (requestParts_known (sender.payloads calendar group))
    (requestParts (sender.payloads calendar group)).2
  rw [taken] at posted
  rw [sendGroup_eq]
  dsimp only
  rw [sender.policy.run_succeeded posted]
  exact ⟨rfl, rfl, rfl⟩

theorem sendGroups_taken (addressed : sender.HasAddress) (takes : collector.TakesAll)
    (calendar : Calendar) (groups : List (List QueuedHit)) :
    (sender.sendGroups calendar groups collector).answer = .delivered ∧
      (sender.sendGroups calendar groups collector).collector =
        collector.after (sender.requestsFor calendar groups) := by
  induction groups generalizing calendar collector with
  | nil => exact ⟨rfl, Collector.after_nil.symm⟩
  | cons group groups inductionHypothesis =>
      obtain ⟨delivered, reached, looked⟩ := sendGroup_taken addressed takes calendar group
      have takesLater : (collector.after [sender.requestFor calendar group]).TakesAll :=
        fun response among => takes response (Collector.mem_of_after among)
      obtain ⟨others, after⟩ := inductionHypothesis takesLater (calendar.after group.length)
      rw [sendGroups, delivered, reached, looked]
      exact ⟨others, after.trans (Collector.after_after [sender.requestFor calendar group] _)⟩

/-- The lines of the bodies for all groups are the payloads of all hits, as if all had been made in
one go: the requests in between do not look at the calendar. -/
theorem lines_requestsFor (sender : HttpSender) (calendar : Calendar)
    {groups : List (List QueuedHit)} (filled : ∀ group ∈ groups, group ≠ []) :
    (sender.requestsFor calendar groups).flatMap Request.lines =
      sender.payloads calendar groups.flatten := by
  induction groups generalizing calendar with
  | nil => rfl
  | cons group groups inductionHypothesis =>
      rw [List.forall_mem_cons] at filled
      rw [requestsFor, List.flatMap_cons, inductionHypothesis _ filled.2,
        lines_requestFor calendar filled.1, List.flatten_cons, payloads_append]

/-- All requests of a delivery to a collector that takes everything, and what can be read in their
bodies: one line for each hit in the order of the hits, from which the parameters and the hit come
back, whatever stands in the texts of hits and installation. The time that a hit has waited is what
the calendar says when its turn comes. -/
theorem send_readBack (addressed : sender.HasAddress) (takes : collector.TakesAll)
    (calendar : Calendar) (hits : List QueuedHit) :
    ∃ posted : List Request,
      (sender.send calendar hits collector).collector.requests = collector.requests ++ posted ∧
      (sender.send calendar hits collector).answer = .delivered ∧
      posted.length = (hits.length + 19) / 20 ∧
      (∀ request ∈ posted,
        (∃ path, request = sender.requestTo path request.body ∧
          (path = "/collect" ↔ request.lines.length = 1) ∧
          (path = "/batch" ↔ request.lines.length ≠ 1)) ∧
        1 ≤ request.lines.length ∧ request.lines.length ≤ 20 ∧
        ∀ line ∈ request.lines, line ≠ "") ∧
      (posted.flatMap Request.lines).map Form.decode =
        List.zipWith
          (fun queued now => parameters sender.origin queued.hit (queued.queueTime now)) hits
          (calendar.coming hits.length) ∧
      (posted.flatMap Request.lines).map (fun line => hitOf? (Form.decode line)) =
        hits.map (fun queued => some queued.hit) := by
  obtain ⟨delivered, reached⟩ :=
    sendGroups_taken addressed takes calendar (groupsOf maxHitsPerRequest hits)
  have filled : ∀ group ∈ groupsOf maxHitsPerRequest hits, group ≠ [] :=
    fun group among => ne_nil_of_mem_groupsOf among
  have lines := sender.lines_requestsFor calendar filled
  rw [flatten_groupsOf, payloads_eq] at lines
  refine ⟨sender.requestsFor calendar (groupsOf maxHitsPerRequest hits),
    congrArg Collector.requests reached, delivered, ?_, ?_, ?_, ?_⟩
  · rw [length_requestsFor, length_groupsOf (by decide)]
    rfl
  · intro request among
    obtain ⟨group, present, looked, rfl⟩ := mem_requestsFor among
    have several := filled group present
    have bounded := length_le_of_mem_groupsOf (by decide) present
    have counted : (sender.requestFor looked group).lines.length = group.length := by
      rw [lines_requestFor looked several, length_payloads]
    rw [counted]
    refine ⟨sender.requestFor_path looked group, List.length_pos_iff.mpr several, bounded, ?_⟩
    rw [lines_requestFor looked several]
    intro line written
    obtain ⟨queued, _, now, rfl⟩ := payloads_made written
    exact payload_ne_empty sender.origin queued.hit (queued.queueTime now)
  · rw [lines, List.map_zipWith]
    simp only [payloadAt, decode_payload]
  · have back (queued : QueuedHit) (now : Instant) :
        hitOf? (Form.decode (sender.payloadAt queued now)) = some queued.hit := by
      rw [payloadAt, decode_payload, hitOf?_parameters]
    have each : (hits.zip (calendar.coming hits.length)).map Prod.fst = hits :=
      List.map_fst_zip (Nat.le_of_eq (calendar.length_coming _).symm)
    rw [lines, List.map_zipWith]
    simp only [back]
    conv => rhs; rw [← each, List.map_map, List.map_zip_eq_zipWith]
    rfl

/-- Two requests to an address that a client has if it is told no other one. -/
theorem send_readBack_newlines :
    let sender := HttpSender.make "https://www.google-analytics.com"
      ⟨⟨"UA-1-1", "Deck\n&", "1.0", "deck", true⟩, "id"⟩ {} "agent"
    let collector : Collector := { script := [.answer 204 [] []] }
    let hits := List.replicate 21 { hit := Hit.ofScreen "a\nb&c=d", queuedAt := ⟨0⟩ }
    let calendar : Calendar := { shows := fun look => ⟨look * 1000000⟩ }
    sender.HasAddress ∧ collector.TakesAll ∧
      ∃ posted, (sender.send calendar hits collector).collector.requests = posted ∧
        posted.length = 2 ∧
        (posted.flatMap Request.lines).map (fun line => hitOf? (Form.decode line)) =
          List.replicate 21 (some (Hit.ofScreen "a\nb&c=d")) := by
  intro sender collector hits calendar
  have addressed : sender.HasAddress := by decide +kernel
  have takes : collector.TakesAll := by decide +kernel
  obtain ⟨posted, requests, _, count, _, _, back⟩ := send_readBack addressed takes calendar hits
  have two : posted.length = 2 := by
    rw [count]
    decide
  refine ⟨addressed, takes, posted, requests, two, ?_⟩
  rw [back, List.map_replicate]

end HttpSender

end Telemetry
