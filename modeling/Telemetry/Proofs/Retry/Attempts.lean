import Mathlib.Order.Bounds.Basic
import Telemetry.Proofs.Retry.History
import Telemetry.ServiceError

/-! Attempts by their numbers. The operation is called until an outcome ends the attempts, which is
told by that outcome and its number alone; every call but the last is followed by a pause, which is
as long as the computed one and as the one that was asked for. -/

namespace Telemetry

variable {σ ε α : Type}

def stateAfter (call : σ → Except ε α × σ) (count : Nat) (before : σ) : σ :=
  Nat.iterate (fun state => (call state).2) count before

def outcomeAt (call : σ → Except ε α × σ) (before : σ) (index : Nat) : Except ε α :=
  (call (stateAfter call index before)).1

variable [Retryable ε]

def pauseAfter (computed : Duration) (failure : ε) : Duration :=
  ((Retryable.retryAfter failure).map computed.longer).getD computed

namespace RetryPolicy

/-- A failure with a status is dismissed if the status is not listed, one without a status if it
does not pass. -/
def Dismisses (policy : RetryPolicy) (failure : ε) : Prop :=
  (∃ status, Retryable.status failure = some status ∧ status ∉ policy.statuses) ∨
    Retryable.status failure = none ∧ Retryable.isTransient failure = false

/-- No further call comes after an outcome of the call with the given number, counted from one. -/
def EndsWith (policy : RetryPolicy) (number : Nat) : Except ε α → Prop
  | .ok _ => True
  | .error failure => policy.Dismisses failure ∨
      (∃ asked, Retryable.retryAfter failure = some asked ∧ policy.maxDelay < asked) ∨
      number = max 1 policy.maxAttempts

theorem dismisses_iff (policy : RetryPolicy) (failure : ε) :
    policy.Dismisses failure ↔ policy.shouldRetry failure = false := by
  unfold Dismisses shouldRetry
  cases Retryable.status failure with
  | none => simp
  | some status => simp

theorem endsWith_error {policy : RetryPolicy} {number : Nat} {failure : ε} :
    policy.EndsWith number (.error failure : Except ε α) ↔
      ¬policy.Insists failure ∨ number = policy.attempts := by
  have tooLong : (∃ asked, Retryable.retryAfter failure = some asked ∧ policy.maxDelay < asked) ↔
      ¬∀ asked, Retryable.retryAfter failure = some asked → ¬policy.maxDelay < asked := by
    simp only [not_forall, not_not, exists_prop]
  rw [EndsWith, dismisses_iff, tooLong, Insists, not_and_or, Bool.not_eq_true, attempts,
    Nat.max_comm, or_assoc]

end RetryPolicy

theorem longer_nanoseconds (first second : Duration) :
    (first.longer second).nanoseconds = max first.nanoseconds second.nanoseconds := by
  unfold Duration.longer
  by_cases shorter : first < second
  · rw [if_pos shorter]
    exact (Nat.max_eq_right (Nat.le_of_lt shorter)).symm
  · rw [if_neg shorter]
    exact (Nat.max_eq_left (Nat.not_lt.mp shorter)).symm

theorem pauseAfter_nanoseconds (computed : Duration) (failure : ε) :
    (pauseAfter computed failure).nanoseconds =
      max computed.nanoseconds ((Retryable.retryAfter failure).elim 0 Duration.nanoseconds) := by
  unfold pauseAfter
  cases Retryable.retryAfter failure with
  | none => exact (Nat.max_eq_left (Nat.zero_le _)).symm
  | some asked => exact longer_nanoseconds computed asked

theorem RetryPolicy.Insists.nextStep {policy : RetryPolicy} {failure : ε}
    (insists : policy.Insists failure) (computed : Duration) :
    nextStep policy.maxDelay (some computed) (Retryable.retryAfter failure) =
      .pause (pauseAfter computed failure) := by
  unfold pauseAfter
  cases asked : Retryable.retryAfter failure with
  | none => rfl
  | some wanted => exact if_neg (insists.2 wanted asked)

variable (policy : RetryPolicy) (backoff : Nat → Option Duration) (call : σ → Except ε α × σ)

/-- A call is followed by a pause and the next call, or its outcome is the result, or the pause
after it does not come out. -/
theorem retryFrom_turn (attempt further : Nat) (before : σ) :
    (∃ failure computed left, (call before).1 = .error failure ∧ policy.Insists failure ∧
        backoff (attempt - 1) = some computed ∧ further = left + 1 ∧
        retryFrom policy backoff call attempt further before =
          (retryFrom policy backoff call (attempt + 1) left (call before).2).afterPause attempt
            policy.attempts (pauseAfter computed failure)) ∨
      (∃ log, retryFrom policy backoff call attempt further before =
          ⟨.of (call before).1, (call before).2, 1, [], log⟩ ∧
        ∀ failure, (call before).1 = .error failure → policy.Insists failure → further = 0) ∨
      ∃ failure, (call before).1 = .error failure ∧ policy.shouldRetry failure = true ∧
        0 < further ∧ backoff (attempt - 1) = none ∧
        retryFrom policy backoff call attempt further before =
          ⟨.brokeDown, (call before).2, 1, [], []⟩ := by
  rw [retryFrom]
  rcases call before with ⟨failure | value, state⟩
  · dsimp only
    by_cases worth : policy.shouldRetry failure = true
    · rw [if_neg (by simp [worth])]
      cases further with
      | zero => exact .inr (.inl ⟨_, rfl, fun _ _ _ => rfl⟩)
      | succ left =>
          dsimp only
          cases pause : backoff (attempt - 1) with
          | none => exact .inr (.inr ⟨failure, rfl, worth, Nat.succ_pos left, rfl, rfl⟩)
          | some computed =>
              by_cases insists : policy.Insists failure
              · rw [insists.nextStep computed]
                exact .inl ⟨failure, computed, left, rfl, insists, rfl, rfl, rfl⟩
              · obtain ⟨wanted, asked, long⟩ := asks_long worth insists
                rw [asked, nextStep_givesUp rfl long]
                refine .inr (.inl ⟨_, rfl, ?_⟩)
                intro other same again
                cases same
                exact absurd again insists
    · rw [if_pos (by simp [worth])]
      refine .inr (.inl ⟨[], rfl, ?_⟩)
      intro other same insists
      cases same
      exact absurd insists.1 worth
  · refine .inr (.inl ⟨[], rfl, ?_⟩)
    intro failure failed
    cases failed

/-- How the calls went, from the one with the given number on. All but the last failed in a way on
which the policy insists, and a pause came after each. -/
structure Went (policy : RetryPolicy) (backoff : Nat → Option Duration)
    (call : σ → Except ε α × σ) (attempt further : Nat) (before : σ) (run : RetryRun σ ε α)
    (count : Nat) : Prop where
  within : count ≤ further
  calls : run.calls = count + 1
  state : run.state = stateAfter call (count + 1) before
  pauses : run.pauses.length = count
  insisted : ∀ index < count, ∃ failure computed,
    outcomeAt call before index = .error failure ∧ policy.Insists failure ∧
    backoff (attempt - 1 + index) = some computed ∧
    run.pauses[index]? = some (pauseAfter computed failure)
  ending : run.result = .of (outcomeAt call before count) ∧
      (∀ failure, outcomeAt call before count = .error failure → policy.Insists failure →
        count = further) ∨
    run.result = .brokeDown ∧ ∃ failure, outcomeAt call before count = .error failure ∧
      policy.shouldRetry failure = true ∧ count < further ∧ backoff (attempt - 1 + count) = none

variable {policy backoff call}

theorem Went.afterPause {attempt left count : Nat} {before : σ} {run : RetryRun σ ε α}
    {failure : ε} {computed : Duration} (counted : 1 ≤ attempt)
    (failed : (call before).1 = .error failure) (insists : policy.Insists failure)
    (paused : backoff (attempt - 1) = some computed)
    (went : Went policy backoff call (attempt + 1) left (call before).2 run count) :
    Went policy backoff call attempt (left + 1) before
      (run.afterPause attempt policy.attempts (pauseAfter computed failure)) (count + 1) := by
  have shifted (index : Nat) : attempt + 1 - 1 + index = attempt - 1 + (index + 1) := by omega
  constructor
  · exact Nat.succ_le_succ went.within
  · exact congrArg Nat.succ went.calls
  · exact went.state
  · exact congrArg Nat.succ went.pauses
  · intro index early
    cases index with
    | zero => exact ⟨failure, computed, failed, insists, paused, rfl⟩
    | succ index =>
        have later := went.insisted index (Nat.lt_of_succ_lt_succ early)
        rw [shifted] at later
        exact later
  · rcases went.ending with ⟨result, used⟩ | ⟨result, failure, same, worth, early, missing⟩
    · exact .inl ⟨result, fun other same again => congrArg Nat.succ (used other same again)⟩
    · rw [shifted] at missing
      exact .inr ⟨result, failure, same, worth, Nat.succ_lt_succ early, missing⟩

variable (policy backoff call)

theorem retryFrom_went (attempt further : Nat) (before : σ) (counted : 1 ≤ attempt) :
    ∃ count, Went policy backoff call attempt further before
      (retryFrom policy backoff call attempt further before) count := by
  -- the attempts that are left carry the induction
  induction further generalizing attempt before with
  | zero =>
      rcases retryFrom_turn policy backoff call attempt 0 before with
        ⟨_, _, left, _, _, _, impossible, _⟩ | ⟨log, same, used⟩ | ⟨_, _, _, impossible, _⟩
      · cases impossible
      · rw [same]
        exact ⟨0, Nat.le_refl 0, rfl, rfl, rfl, fun _ early => absurd early (Nat.not_lt_zero _),
          .inl ⟨rfl, fun _ _ _ => rfl⟩⟩
      · cases impossible
  | succ further ih =>
      rcases retryFrom_turn policy backoff call attempt (further + 1) before with
        ⟨failure, computed, left, failed, insists, paused, counts, same⟩ | ⟨log, same, used⟩ |
        ⟨failure, failed, worth, more, missing, same⟩
      · obtain rfl : further = left := Nat.succ.inj counts
        obtain ⟨count, went⟩ := ih (attempt + 1) (call before).2 (Nat.le_succ_of_le counted)
        rw [same]
        exact ⟨count + 1, went.afterPause counted failed insists paused⟩
      · rw [same]
        refine ⟨0, Nat.zero_le _, rfl, rfl, rfl, fun _ early => absurd early (Nat.not_lt_zero _),
          .inl ⟨rfl, ?_⟩⟩
        exact fun other failed insists => (used other failed insists).symm
      · rw [same]
        exact ⟨0, Nat.zero_le _, rfl, rfl, rfl, fun _ early => absurd early (Nat.not_lt_zero _),
          .inr ⟨rfl, failure, failed, worth, more, missing⟩⟩

theorem RetryPolicy.runWith_went (before : σ) :
    ∃ count, Went policy backoff call 1 (policy.attempts - 1) before
      (policy.runWith backoff call before) count :=
  retryFrom_went policy backoff call 1 (policy.attempts - 1) before (Nat.le_refl 1)

/-- Whatever the outcomes are, the operation is called until the first one that ends the attempts,
and that one is the result. After each call before it comes a pause, which is as long as was computed
and as was asked for, and no longer than the limit. -/
theorem RetryPolicy.attempts_exact (before : σ)
    (bounded : ∀ attempt, attempt + 1 < policy.attempts →
      ∃ computed, backoff attempt = some computed ∧ computed ≤ policy.maxDelay) :
    ∃ last, IsLeast {number | 1 ≤ number ∧
        policy.EndsWith number (outcomeAt call before (number - 1))} last ∧
      last ≤ max 1 policy.maxAttempts ∧
      (policy.runWith backoff call before).calls = last ∧
      (policy.runWith backoff call before).state = stateAfter call last before ∧
      (policy.runWith backoff call before).result = .of (outcomeAt call before (last - 1)) ∧
      (policy.runWith backoff call before).pauses.length = last - 1 ∧
      ∀ index < last - 1, ∃ failure computed pause, outcomeAt call before index = .error failure ∧
        backoff index = some computed ∧
        (policy.runWith backoff call before).pauses[index]? = some pause ∧
        pause.nanoseconds = max computed.nanoseconds
          ((Retryable.retryAfter failure).elim 0 Duration.nanoseconds) ∧
        pause ≤ policy.maxDelay ∧
        ∀ asked, Retryable.retryAfter failure = some asked → asked ≤ pause := by
  have atLeast : 1 ≤ policy.attempts := Nat.le_max_right policy.maxAttempts 1
  obtain ⟨count, went⟩ := policy.runWith_went backoff call before
  have within := went.within
  have insisted (index : Nat) (early : index < count) := by
    have found := went.insisted index early
    rw [show 1 - 1 + index = index by omega] at found
    exact found
  -- Every pause that is needed comes out, so the last outcome is the result.
  obtain ⟨result, used⟩ : (policy.runWith backoff call before).result =
      .of (outcomeAt call before count) ∧ ∀ failure, outcomeAt call before count = .error failure →
        policy.Insists failure → count = policy.attempts - 1 := by
    rcases went.ending with regular | ⟨_, failure, _, _, early, missing⟩
    · exact regular
    · obtain ⟨computed, found, _⟩ := bounded count (by omega)
      rw [show 1 - 1 + count = count by omega, found] at missing
      cases missing
  refine ⟨count + 1, ⟨⟨Nat.le_add_left 1 count, ?_⟩, ?_⟩, ?_, went.calls, went.state, result,
    went.pauses, ?_⟩
  · rw [Nat.add_sub_cancel]
    cases outcome : outcomeAt call before count with
    | ok value => trivial
    | error failure =>
        rw [endsWith_error]
        by_cases insists : policy.Insists failure
        · have all := used failure outcome insists
          exact .inr (by omega)
        · exact .inl insists
  · rintro number ⟨counted, ends⟩
    by_contra smaller
    obtain ⟨failure, _, failed, insists, _⟩ := insisted (number - 1) (by omega)
    rw [failed, endsWith_error] at ends
    rcases ends with gaveUp | exhausted
    · exact gaveUp insists
    · omega
  · rw [Nat.max_comm]
    change count + 1 ≤ policy.attempts
    omega
  · intro index early
    obtain ⟨failure, computed, failed, insists, found, paused⟩ := insisted index early
    obtain ⟨other, same, limited⟩ := bounded index (by omega)
    obtain rfl : computed = other := Option.some.inj (found.symm.trans same)
    have length := pauseAfter_nanoseconds computed failure
    refine ⟨failure, computed, _, failed, found, paused, length, ?_, ?_⟩
    · change (pauseAfter computed failure).nanoseconds ≤ policy.maxDelay.nanoseconds
      rw [length]
      refine Nat.max_le.mpr ⟨limited, ?_⟩
      cases asked : Retryable.retryAfter failure with
      | none => exact Nat.zero_le _
      | some wanted => exact Nat.not_lt.mp (insists.2 wanted asked)
    · intro asked wanted
      change asked.nanoseconds ≤ (pauseAfter computed failure).nanoseconds
      rw [length, wanted]
      exact Nat.le_max_right _ _

/-- The second of four attempts is the last: the pause that is asked for after the first is longer
than the computed one and within the limit, the one after the second is beyond it. -/
theorem RetryPolicy.attempts_exact_impatient :
    let policy : RetryPolicy := { maxAttempts := 4, jitter := false }
    let outcomes : List (Except ServiceError Unit) :=
      [.error (.rateLimited (some 3)), .error (.rateLimited (some 60)), .ok ()]
    let call := fun index : Nat => (outcomes.getD index (.ok ()), index + 1)
    (∀ attempt, attempt + 1 < policy.attempts →
        ∃ computed, policy.backoff? attempt = some computed ∧ computed ≤ policy.maxDelay) ∧
      IsLeast {number | 1 ≤ number ∧ policy.EndsWith number (outcomeAt call 0 (number - 1))} 2 ∧
      (policy.run call 0).result = .of (.error (.rateLimited (some 60))) ∧
      (policy.run call 0).pauses = [.ofSeconds 3] := by
  intro policy outcomes call
  have bounded (attempt : Nat) (early : attempt + 1 < policy.attempts) :
      ∃ computed, policy.backoff? attempt = some computed ∧ computed ≤ policy.maxDelay := by
    have few : attempt < 3 := Nat.lt_of_succ_lt_succ early
    have each : ∀ attempt < 3, (policy.backoff? attempt).any (· ≤ policy.maxDelay) = true := by
      decide +kernel
    obtain ⟨computed, found, limited⟩ := (Option.any_eq_true _ _).mp (each attempt few)
    exact ⟨computed, found, of_decide_eq_true limited⟩
  have calls : (policy.run call 0).calls = 2 := by decide +kernel
  have pauses : (policy.run call 0).pauses = [.ofSeconds 3] := by decide +kernel
  obtain ⟨last, least, _, called, _, result, _⟩ :=
    policy.attempts_exact policy.backoff? call 0 bounded
  obtain rfl : last = 2 := called.symm.trans calls
  exact ⟨bounded, least, result, pauses⟩

end Telemetry
