import Telemetry.Retry.Run

/-! A repeated operation as the outcomes of its calls. Every outcome but the last is a failure on
which the policy insists, the last is what the run ends with, and as long as there are attempts left
nobody stops at a failure on which the policy insists. -/

namespace Telemetry

variable {σ ε α : Type}

inductive Calls (call : σ → Except ε α × σ) : σ → List (Except ε α) → σ → Prop where
  | none (state : σ) : Calls call state [] state
  | more {before after : σ} {outcomes : List (Except ε α)}
      (others : Calls call (call before).2 outcomes after) :
      Calls call before ((call before).1 :: outcomes) after

def RetryEnd.of : Except ε α → RetryEnd ε α
  | .ok value => .succeeded value
  | .error failure => .failed failure

variable [Retryable ε]

/-- The failure is worth another attempt, and no longer pause is asked for than the policy allows. -/
def RetryPolicy.Insists (policy : RetryPolicy) (failure : ε) : Prop :=
  policy.shouldRetry failure = true ∧
    ∀ asked, Retryable.retryAfter failure = some asked → ¬policy.maxDelay < asked

variable (policy : RetryPolicy) (backoff : Nat → Option Duration) (call : σ → Except ε α × σ)

theorem nextStep_pauses {maxDelay : Duration} {computed : Option Duration}
    {asked : Option Duration} (present : computed.isSome = true)
    (short : ∀ wanted, asked = some wanted → ¬maxDelay < wanted) :
    ∃ length, nextStep maxDelay computed asked = .pause length := by
  obtain ⟨pause, rfl⟩ := Option.isSome_iff_exists.mp present
  cases asked with
  | none => exact ⟨pause, rfl⟩
  | some wanted => exact ⟨pause.longer wanted, if_neg (short wanted rfl)⟩

theorem nextStep_givesUp {maxDelay : Duration} {computed : Option Duration} {wanted : Duration}
    (present : computed.isSome = true) (long : maxDelay < wanted) :
    nextStep maxDelay computed (some wanted) = .giveUp := by
  obtain ⟨pause, rfl⟩ := Option.isSome_iff_exists.mp present
  exact if_pos long

theorem asks_long {policy : RetryPolicy} {failure : ε}
    (worth : policy.shouldRetry failure = true) (gaveUp : ¬policy.Insists failure) :
    ∃ wanted, Retryable.retryAfter failure = some wanted ∧ policy.maxDelay < wanted := by
  cases asked : Retryable.retryAfter failure with
  | none =>
      refine absurd ⟨worth, ?_⟩ gaveUp
      intro wanted same
      rw [asked] at same
      cases same
  | some wanted =>
      refine ⟨wanted, rfl, Decidable.byContradiction fun short => gaveUp ⟨worth, ?_⟩⟩
      intro other same
      rw [asked] at same
      exact Option.some.inj same ▸ short

/-- One call either ends the run or is followed by the run with one attempt less. -/
theorem retryFrom_cases (attempt further : Nat) (before : σ)
    (paused : further ≠ 0 → (backoff (attempt - 1)).isSome = true) :
    ((retryFrom policy backoff call attempt further before).result = .of (call before).1 ∧
        (retryFrom policy backoff call attempt further before).state = (call before).2 ∧
        ∀ failure, (call before).1 = .error failure → policy.Insists failure → further = 0) ∨
      ∃ failure left, (call before).1 = .error failure ∧ policy.Insists failure ∧
        further = left + 1 ∧
        (retryFrom policy backoff call attempt further before).result =
          (retryFrom policy backoff call (attempt + 1) left (call before).2).result ∧
        (retryFrom policy backoff call attempt further before).state =
          (retryFrom policy backoff call (attempt + 1) left (call before).2).state := by
  rw [retryFrom]
  rcases call before with ⟨failure | value, state⟩
  · dsimp only
    by_cases worth : policy.shouldRetry failure = true
    · rw [if_neg (by simp [worth])]
      cases further with
      | zero => exact .inl ⟨rfl, rfl, fun _ _ _ => rfl⟩
      | succ left =>
          have present := paused (Nat.succ_ne_zero left)
          by_cases insists : policy.Insists failure
          · obtain ⟨length, pauses⟩ := nextStep_pauses present insists.2
            dsimp only
            rw [pauses]
            exact .inr ⟨failure, left, rfl, insists, rfl, rfl, rfl⟩
          · obtain ⟨wanted, asked, long⟩ := asks_long worth insists
            dsimp only
            rw [asked, nextStep_givesUp present long]
            refine .inl ⟨rfl, rfl, ?_⟩
            intro other same again
            cases same
            exact absurd again insists
    · rw [if_pos (by simp [worth])]
      refine .inl ⟨rfl, rfl, ?_⟩
      intro other same insists
      cases same
      exact absurd insists.1 worth
  · exact .inl ⟨rfl, rfl, fun failure failed => by cases failed⟩

/-- A run as its calls. The last outcome is the result; all before it are failures on which the
policy insists, and only the number of attempts can stop it there. -/
theorem retryFrom_calls (attempt further : Nat) (before : σ) (counted : 1 ≤ attempt)
    (paused : ∀ index, index + 1 < attempt + further → (backoff index).isSome = true) :
    ∃ (failures : List ε) (last : Except ε α),
      Calls call before (failures.map .error ++ [last])
        (retryFrom policy backoff call attempt further before).state ∧
      (retryFrom policy backoff call attempt further before).result = .of last ∧
      failures.length ≤ further ∧ (∀ failure ∈ failures, policy.Insists failure) ∧
      ∀ failure, last = .error failure → policy.Insists failure → failures.length = further := by
  -- The attempts that are left carry the induction; the number of the attempt counts along, since
  -- it selects the pause.
  induction further generalizing attempt before with
  | zero =>
      rcases retryFrom_cases policy backoff call attempt 0 before (absurd rfl) with
        ⟨result, state, _⟩ | ⟨_, left, _, _, impossible, _⟩
      · refine ⟨[], (call before).1, ?_, result, Nat.le_refl 0, List.forall_mem_nil _, ?_⟩
        · rw [state]
          exact .more (.none _)
        · exact fun _ _ _ => rfl
      · cases impossible
  | succ further inductionHypothesis =>
      have now : further + 1 ≠ 0 → (backoff (attempt - 1)).isSome = true :=
        fun _ => paused (attempt - 1) (by omega)
      rcases retryFrom_cases policy backoff call attempt (further + 1) before now with
        ⟨result, state, stopped⟩ | ⟨failure, left, failed, insists, counts, result, state⟩
      · refine ⟨[], (call before).1, ?_, result, Nat.zero_le _, List.forall_mem_nil _, ?_⟩
        · rw [state]
          exact .more (.none _)
        · intro failure failed insists
          exact absurd (stopped failure failed insists) (Nat.succ_ne_zero further)
      · obtain rfl : further = left := Nat.succ.inj counts
        obtain ⟨failures, last, calls, ending, bounded, insisted, used⟩ :=
          inductionHypothesis (attempt + 1) (call before).2 (by omega)
            (fun index within => paused index (by omega))
        refine ⟨failure :: failures, last, ?_, ?_, ?_, ?_, ?_⟩
        · rw [state, List.map_cons, List.cons_append, ← failed]
          exact .more calls
        · rw [result, ending]
        · exact Nat.succ_le_succ bounded
        · exact List.forall_mem_cons.mpr ⟨insists, insisted⟩
        · intro other same again
          exact congrArg Nat.succ (used other same again)

theorem RetryPolicy.run_succeeded (policy : RetryPolicy) {call : σ → Except ε α × σ}
    {before after : σ} {value : α} (succeeds : call before = (.ok value, after)) :
    policy.run call before = ⟨.succeeded value, after, 1, [], []⟩ := by
  unfold run runWith
  rw [retryFrom, succeeds]

/-- Pauses are not spread, and each that can be needed comes out. -/
structure RetryPolicy.Steady (policy : RetryPolicy) : Prop where
  plain : policy.jitter = false
  pauses : ∀ attempt, attempt + 1 < policy.attempts → (policy.backoff? attempt).isSome = true

theorem RetryPolicy.Steady.run_calls {policy : RetryPolicy} (steady : policy.Steady)
    (call : σ → Except ε α × σ) (before : σ) :
    ∃ (failures : List ε) (last : Except ε α),
      Calls call before (failures.map .error ++ [last]) (policy.run call before).state ∧
      (policy.run call before).result = .of last ∧ failures.length + 1 ≤ policy.attempts ∧
      (∀ failure ∈ failures, policy.Insists failure) ∧
      ∀ failure, last = .error failure → policy.Insists failure →
        failures.length + 1 = policy.attempts := by
  have atLeast : 1 ≤ policy.attempts := Nat.le_max_right policy.maxAttempts 1
  obtain ⟨failures, last, calls, ending, bounded, insisted, used⟩ :=
    retryFrom_calls policy policy.backoff? call 1 (policy.attempts - 1) before (Nat.le_refl 1)
      (fun index within => steady.pauses index (by omega))
  refine ⟨failures, last, calls, ending, by omega, insisted, ?_⟩
  intro failure same insists
  have all := used failure same insists
  omega

end Telemetry
