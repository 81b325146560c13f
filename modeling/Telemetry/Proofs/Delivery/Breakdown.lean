import Mathlib.Data.Nat.Find
import Telemetry.Proofs.Delivery.Posting
import Telemetry.Proofs.Retry.Attempts

/-! Deliveries that break down. The numbers of a policy are checked by nobody, and a pause that comes
out negative, or longer than any span, ends the delivery by a panic. It depends on the policy, the
number of the attempt and the answers so far whether such a pause is reached. -/

namespace Telemetry

namespace RetryPolicy

variable {σ ε α : Type} [Retryable ε]

/-- The failure after the given number of others is worth another attempt, but the pause before it
does not come out. It is the first one that does not. -/
structure BreaksDownAt (policy : RetryPolicy) (call : σ → Except ε α × σ) (before : σ)
    (count : Nat) : Prop where
  within : count + 1 < policy.attempts
  missing : policy.backoff? count = none
  insisted : ∀ index < count, (policy.backoff? index).isSome = true ∧
    ∃ failure, outcomeAt call before index = .error failure ∧ policy.Insists failure
  worth : ∃ failure, outcomeAt call before count = .error failure ∧
    policy.shouldRetry failure = true

structure FirstMissing (policy : RetryPolicy) (attempt : Nat) : Prop where
  within : attempt + 1 < policy.attempts
  missing : policy.backoff? attempt = none
  pauses : ∀ index < attempt, (policy.backoff? index).isSome = true

theorem firstMissing_of_not_steady {policy : RetryPolicy} (plain : policy.jitter = false)
    (unsteady : ¬policy.Steady) : ∃ attempt, policy.FirstMissing attempt := by
  have some : ∃ attempt, attempt + 1 < policy.attempts ∧ policy.backoff? attempt = none := by
    by_contra all
    refine unsteady ⟨plain, fun attempt within => ?_⟩
    rw [Option.isSome_iff_ne_none]
    exact fun missing => all ⟨attempt, within, missing⟩
  obtain ⟨within, missing⟩ := Nat.find_spec some
  refine ⟨Nat.find some, within, missing, fun index early => ?_⟩
  rw [Option.isSome_iff_ne_none]
  exact fun absent => Nat.find_min some early ⟨by omega, absent⟩

end RetryPolicy

section Runs

variable {σ ε α : Type} [Retryable ε] {policy : RetryPolicy} {backoff : Nat → Option Duration}
  {call : σ → Except ε α × σ}

theorem retryFrom_breaks (count attempt further : Nat) (before : σ) (counted : 1 ≤ attempt)
    (within : count < further) (missing : backoff (attempt - 1 + count) = none)
    (insisted : ∀ index < count, (backoff (attempt - 1 + index)).isSome = true ∧
      ∃ failure, outcomeAt call before index = .error failure ∧ policy.Insists failure)
    (worth : ∃ failure, outcomeAt call before count = .error failure ∧
      policy.shouldRetry failure = true) :
    (retryFrom policy backoff call attempt further before).result = .brokeDown ∧
      (retryFrom policy backoff call attempt further before).calls = count + 1 := by
  induction count generalizing attempt further before with
  | zero =>
      obtain ⟨failure, failed, worthy⟩ := worth
      obtain ⟨left, rfl⟩ : ∃ left, further = left + 1 := ⟨further - 1, by omega⟩
      have same : call before = (.error failure, (call before).2) := Prod.ext failed rfl
      rw [Nat.add_zero] at missing
      rw [retryFrom, same]
      simp only [worthy, Bool.not_true, Bool.false_eq_true, if_false, missing, nextStep,
        and_self]
  | succ count ih =>
      have shifted (index : Nat) : attempt + 1 - 1 + index = attempt - 1 + (index + 1) := by omega
      rcases retryFrom_turn policy backoff call attempt further before with
        ⟨_, computed, left, _, _, _, rfl, same⟩ | ⟨log, _, used⟩ | ⟨_, _, _, _, absent, _⟩
      · rw [same]
        refine (ih (attempt + 1) left (call before).2 (Nat.le_succ_of_le counted)
          (Nat.lt_of_succ_lt_succ within) ?_ ?_ worth).imp_right (congrArg Nat.succ)
        · rw [shifted]
          exact missing
        · intro index early
          rw [shifted]
          exact insisted (index + 1) (Nat.succ_lt_succ early)
      · obtain ⟨_, failure, failed, insists⟩ := insisted 0 (Nat.succ_pos count)
        have none := used failure failed insists
        omega
      · have present := (insisted 0 (Nat.succ_pos count)).1
        rw [Nat.add_zero, absent] at present
        cases present

/-- A run breaks down at the first pause that is needed and does not come out, and nowhere else. -/
theorem RetryPolicy.run_brokeDown (policy : RetryPolicy) (call : σ → Except ε α × σ) (before : σ)
    (count : Nat) :
    (policy.run call before).result = .brokeDown ∧ (policy.run call before).calls = count + 1 ↔
      policy.BreaksDownAt call before count := by
  constructor
  · rintro ⟨broke, called⟩
    obtain ⟨last, went⟩ := policy.runWith_went policy.backoff? call before
    obtain rfl : last = count := Nat.succ.inj (went.calls.symm.trans called)
    rcases went.ending with ⟨regular, _⟩ | ⟨_, failure, failed, worthy, early, missing⟩
    · have impossible := broke.symm.trans regular
      cases outcome : outcomeAt call before last <;> rw [outcome] at impossible <;>
        cases impossible
    · rw [Nat.sub_self, Nat.zero_add] at missing
      refine ⟨by omega, missing, ?_, failure, failed, worthy⟩
      intro index before
      obtain ⟨earlier, computed, failed, insists, paused, _⟩ := went.insisted index before
      rw [Nat.sub_self, Nat.zero_add] at paused
      exact ⟨Option.isSome_of_eq_some paused, earlier, failed, insists⟩
  · intro breaks
    have within := breaks.within
    apply retryFrom_breaks count 1 (policy.attempts - 1) before (Nat.le_refl 1) (by omega)
    · rw [Nat.sub_self, Nat.zero_add]
      exact breaks.missing
    · intro index early
      rw [Nat.sub_self, Nat.zero_add]
      exact breaks.insisted index early
    · exact breaks.worth

end Runs

namespace HttpSender

variable {sender : HttpSender} {calendar : Calendar} {collector : Collector}

def posting (sender : HttpSender) (calendar : Calendar) (group : List QueuedHit) :
    Collector → Except ServiceError Unit × Collector :=
  sender.post (requestParts (sender.payloads calendar group)).1
    (requestParts (sender.payloads calendar group)).2

/-- All groups before one of them are delivered, and its attempts break down. -/
def BreaksDown (sender : HttpSender) (calendar : Calendar) (groups : List (List QueuedHit))
    (collector : Collector) (message : String) : Prop :=
  ∃ earlier group later, groups = earlier ++ group :: later ∧
    (sender.sendGroups calendar earlier collector).answer = .delivered ∧
    ∃ count, sender.policy.BreaksDownAt
        (sender.posting (sender.sendGroups calendar earlier collector).calendar group)
        (sender.sendGroups calendar earlier collector).collector count ∧
      message = sender.policy.breakdownMessage count

theorem sendGroup_panicked {group : List QueuedHit} {message : String} :
    (sender.sendGroup calendar group collector).answer = .panicked message ↔
      ∃ count, sender.policy.BreaksDownAt (sender.posting calendar group) collector count ∧
        message = sender.policy.breakdownMessage count := by
  rw [sendGroup_eq]
  simp only [← sender.policy.run_brokeDown]
  change ((sender.policy.run (sender.posting calendar group) collector).result.answer
    (sender.policy.breakdownMessage
      ((sender.policy.run (sender.posting calendar group) collector).calls - 1)) = _ ↔ _)
  obtain ⟨count, went⟩ := sender.policy.runWith_went sender.policy.backoff?
    (sender.posting calendar group) collector
  have called : (sender.policy.run (sender.posting calendar group) collector).calls = count + 1 :=
    went.calls
  rw [called, Nat.add_sub_cancel]
  cases (sender.policy.run (sender.posting calendar group) collector).result with
  | succeeded value => simp [RetryEnd.answer]
  | failed failure => simp [RetryEnd.answer]
  | brokeDown => simp [RetryEnd.answer, eq_comm]

theorem sendGroups_cons (sender : HttpSender) (calendar : Calendar) (group : List QueuedHit)
    (rest : List (List QueuedHit)) (collector : Collector) :
    (sender.sendGroup calendar group collector).answer = .delivered ∧
        (∃ log, sender.sendGroups calendar (group :: rest) collector =
          { sender.sendGroups (sender.sendGroup calendar group collector).calendar rest
              (sender.sendGroup calendar group collector).collector with log }) ∨
      (sender.sendGroup calendar group collector).answer ≠ .delivered ∧
        sender.sendGroups calendar (group :: rest) collector =
          sender.sendGroup calendar group collector := by
  rw [sendGroups]
  dsimp only
  split
  · rename_i delivered
    exact .inl ⟨delivered, _, rfl⟩
  · rename_i other
    exact .inr ⟨other, rfl⟩

theorem sendGroups_panicked {groups : List (List QueuedHit)} {message : String} :
    (sender.sendGroups calendar groups collector).answer = .panicked message ↔
      sender.BreaksDown calendar groups collector message := by
  induction groups generalizing calendar collector with
  | nil =>
      constructor
      · intro panicked
        cases panicked
      · rintro ⟨earlier, group, later, impossible, _⟩
        cases earlier <;> cases impossible
  | cons group rest ih =>
      rcases sender.sendGroups_cons calendar group rest collector with
        ⟨delivered, log, same⟩ | ⟨stopped, same⟩
      · rw [same]
        dsimp only
        rw [ih]
        constructor
        · rintro ⟨earlier, broken, later, rfl, before, breaks⟩
          refine ⟨group :: earlier, broken, later, rfl, ?_⟩
          rcases sender.sendGroups_cons calendar group earlier collector with
            ⟨_, _, all⟩ | ⟨stopped, _⟩
          · rw [all]
            exact ⟨before, breaks⟩
          · exact absurd delivered stopped
        · rintro ⟨earlier, broken, later, split, before, breaks⟩
          cases earlier with
          | nil =>
              -- the group that breaks down would be the one that was delivered
              cases split
              cases delivered.symm.trans (sendGroup_panicked.mpr breaks)
          | cons first earlier =>
              cases split
              rcases sender.sendGroups_cons calendar group earlier collector with
                ⟨_, _, all⟩ | ⟨stopped, _⟩
              · rw [all] at before breaks
                exact ⟨earlier, broken, later, rfl, before, breaks⟩
              · exact absurd delivered stopped
      · rw [same, sendGroup_panicked]
        constructor
        · intro breaks
          exact ⟨[], group, rest, rfl, rfl, breaks⟩
        · rintro ⟨earlier, broken, later, split, before, breaks⟩
          cases earlier with
          | nil =>
              cases split
              exact breaks
          | cons first earlier =>
              cases split
              rcases sender.sendGroups_cons calendar group earlier collector with
                ⟨delivered, _⟩ | ⟨_, whole⟩
              · exact absurd delivered stopped
              · rw [whole] at before
                exact absurd before stopped

structure Unanswered (sender : HttpSender) (collector : Collector) : Prop where
  addressed : sender.HasAddress
  script : collector.script = []
  habit : collector.habit = .hanging

theorem Unanswered.post (unanswered : sender.Unanswered collector) {path : String}
    (known : path ∈ ["/collect", "/batch"]) (body : String) :
    (sender.post path body collector).1 = .error (.requestFailed .timedOut) ∧
      sender.Unanswered (sender.post path body collector).2 := by
  rw [unanswered.addressed.post_eq known]
  unfold Collector.receive
  dsimp only
  rw [unanswered.script, List.head?_nil, Option.getD_none, unanswered.habit]
  exact ⟨rfl, unanswered.addressed, rfl, rfl⟩

theorem Unanswered.outcome (unanswered : sender.Unanswered collector) (calendar : Calendar)
    (group : List QueuedHit) (index : Nat) :
    outcomeAt (sender.posting calendar group) collector index = .error (.requestFailed .timedOut) ∧
      sender.Unanswered (stateAfter (sender.posting calendar group) index collector) := by
  have one {collector : Collector} (unanswered : sender.Unanswered collector) :
      (sender.posting calendar group collector).1 = .error (.requestFailed .timedOut) ∧
        sender.Unanswered (sender.posting calendar group collector).2 :=
    unanswered.post (requestParts_known _) _
  induction index generalizing collector with
  | zero => exact ⟨(one unanswered).1, unanswered⟩
  | succ index ih => exact ih (one unanswered).2

theorem Unanswered.sendGroup (unanswered : sender.Unanswered collector) (calendar : Calendar)
    (group : List QueuedHit) :
    sender.Unanswered (sender.sendGroup calendar group collector).collector := by
  obtain ⟨count, went⟩ := sender.policy.runWith_went sender.policy.backoff?
    (sender.posting calendar group) collector
  rw [sendGroup_eq]
  change sender.Unanswered (sender.policy.run (sender.posting calendar group) collector).state
  unfold RetryPolicy.run
  rw [went.state]
  exact (unanswered.outcome calendar group (count + 1)).2

theorem Unanswered.sendGroups (unanswered : sender.Unanswered collector) (calendar : Calendar)
    (groups : List (List QueuedHit)) :
    sender.Unanswered (sender.sendGroups calendar groups collector).collector := by
  induction groups generalizing calendar collector with
  | nil => exact unanswered
  | cons group rest ih =>
      rcases sender.sendGroups_cons calendar group rest collector with ⟨_, _, same⟩ | ⟨_, same⟩
      · rw [same]
        exact ih (unanswered.sendGroup calendar group) _
      · rw [same]
        exact unanswered.sendGroup calendar group

/-- Where no request is answered the first pause that does not come out is reached. -/
theorem Unanswered.breaksDown (unanswered : sender.Unanswered collector) (calendar : Calendar)
    {group : List QueuedHit} {rest : List (List QueuedHit)} {attempt : Nat}
    (first : sender.policy.FirstMissing attempt) :
    sender.BreaksDown calendar (group :: rest) collector
      (sender.policy.breakdownMessage attempt) := by
  refine ⟨[], group, rest, rfl, rfl, attempt, ⟨first.within, first.missing, ?_, ?_⟩, rfl⟩
  · intro index early
    refine ⟨first.pauses index early, _, (unanswered.outcome calendar group index).1, rfl, ?_⟩
    intro asked wanted
    cases wanted
  · exact ⟨_, (unanswered.outcome calendar group attempt).1, rfl⟩

end HttpSender

end Telemetry
