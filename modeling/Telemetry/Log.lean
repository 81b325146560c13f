import Telemetry.Hit
/-!
What is worth a warning.

Every event has a level, a message and fields of its own.
-/

namespace Telemetry

inductive LogEvent where
  | sourceSkipped (source : String)
  | retrying (attempt maxAttempts delayMs : Nat)
  | retriesExhausted (attempt maxAttempts : Nat)
  | pauseTooLong (retryAfterMs maxDelayMs : Nat)
  | hitDropped (kind : HitKind)
  | flushFailed
  | loopLost
  | optInUnreadable
  | optInNotApplied
  | notReinitialized
  deriving DecidableEq, Repr, Inhabited

namespace LogEvent

def level : LogEvent → String
  | .flushFailed | .loopLost | .notReinitialized => "ERROR"
  | _ => "WARN"

def message : LogEvent → String
  | .sourceSkipped _ => "failed to load config source, skipping"
  | .retrying _ _ _ => "retrying delivery"
  | .retriesExhausted _ _ => "delivery retries exhausted"
  | .pauseTooLong _ _ => "server asked for a longer pause than allowed, giving up"
  | .hitDropped _ => "Dropped hit due to queue overflow"
  | .flushFailed => "Failed to flush analytics batch"
  | .loopLost => "Error waiting for flush task to complete"
  | .optInUnreadable => "Could not read analytics opt-in preference"
  | .optInNotApplied => "Could not apply analytics opt-in change"
  | .notReinitialized => "Could not reinitialize analytics after opt-in change"

def fields : LogEvent → List (String × Json)
  | .sourceSkipped source => [("source", .text source)]
  | .retrying attempt maxAttempts delayMs =>
      [("attempt", .ofNat attempt), ("max_attempts", .ofNat maxAttempts),
        ("delay_ms", .ofNat delayMs)]
  | .retriesExhausted attempt maxAttempts =>
      [("attempt", .ofNat attempt), ("max_attempts", .ofNat maxAttempts)]
  | .pauseTooLong retryAfterMs maxDelayMs =>
      [("retry_after_ms", .ofNat retryAfterMs), ("max_delay_ms", .ofNat maxDelayMs)]
  | .hitDropped kind => [("hit_type", .text kind.name)]
  | _ => []

def toJson (event : LogEvent) : Json :=
  .object (("level", .text event.level) :: ("message", .text event.message) :: event.fields)

end LogEvent

instance : ToJson LogEvent := ⟨LogEvent.toJson⟩

end Telemetry
