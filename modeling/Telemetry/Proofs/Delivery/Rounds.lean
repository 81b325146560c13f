import Telemetry.Proofs.Delivery.Posting
import Telemetry.Proofs.Retry.History

/-! A delivery to a collector that answers every request. Each group of hits has its round: the same
request is posted again after every failure on which the policy insists, and the next round begins
only when the group has been acknowledged. -/

namespace Telemetry

/-- How the sending of one group went: the answers after which the same request was posted again,
and the one after which it was not. -/
structure Round where
  group : List QueuedHit
  calendar : Calendar
  repeated : List Response
  final : Response

namespace Round

def responses (round : Round) : List Response := round.repeated ++ [round.final]

def requests (round : Round) (sender : HttpSender) : List Request :=
  List.replicate round.responses.length (sender.requestFor round.calendar round.group)

/-- Posted again exactly after failures on which the policy insists, while attempts are left. -/
structure Follows (round : Round) (policy : RetryPolicy) : Prop where
  within : round.responses.length ≤ policy.attempts
  repeated : ∀ response ∈ round.repeated, ∃ error, response.Reports error ∧ policy.Insists error
  final : round.final.acknowledges = true ∨ ∃ error, round.final.Reports error ∧
    (policy.Insists error → round.responses.length = policy.attempts)

end Round

/-- What is left of the groups after the rounds, and what is told at the end. -/
inductive Ends : List Round → List (List QueuedHit) → Answer → Prop where
  | delivered {rounds : List Round} (taken : ∀ round ∈ rounds, round.final.acknowledges = true) :
      Ends rounds [] .delivered
  | failed {rounds : List Round} {refused : Round} {unsent : List (List QueuedHit)}
      {error : ServiceError} (taken : ∀ round ∈ rounds, round.final.acknowledges = true)
      (reports : refused.final.Reports error) : Ends (rounds ++ [refused]) unsent (.failed error)

theorem Ends.cons {round : Round} {rounds : List Round} {unsent : List (List QueuedHit)}
    {answer : Answer} (acknowledges : round.final.acknowledges = true)
    (ends : Ends rounds unsent answer) : Ends (round :: rounds) unsent answer := by
  cases ends with
  | delivered taken => exact .delivered (List.forall_mem_cons.mpr ⟨acknowledges, taken⟩)
  | failed taken reports =>
      rw [← List.cons_append]
      exact .failed (List.forall_mem_cons.mpr ⟨acknowledges, taken⟩) reports

namespace HttpSender

variable {sender : HttpSender} {collector : Collector}

end HttpSender

namespace HttpSender

variable {sender : HttpSender} {collector : Collector}

end HttpSender

end Telemetry
