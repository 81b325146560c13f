/-!
Errors with their sources.

An error may have a source, another error that brought it about.  The cause of an error is found
by going from source to source.  An error whose source has the same address as the error itself
counts as its own source, and there the search ends.
-/

namespace Telemetry

inductive Placement where
  | apart
  /-- At the very address of the error that holds it. -/
  | inPlace
  deriving DecidableEq, Repr, Inhabited

inductive ErrorChain where
  | root (message : String)
  /-- An error that is its own source. -/
  | selfCaused (message : String)
  | causedBy (message : String) (placement : Placement) (source : ErrorChain)
  deriving DecidableEq, Repr, Inhabited

namespace ErrorChain

def message : ErrorChain → String
  | .root message => message
  | .selfCaused message => message
  | .causedBy message _ _ => message

def rootCause : ErrorChain → ErrorChain
  | .root message => .root message
  | .selfCaused message => .selfCaused message
  | .causedBy _ .apart source => source.rootCause
  | .causedBy message .inPlace source => .causedBy message .inPlace source

def describe (error : ErrorChain) : String := error.rootCause.message

end ErrorChain

end Telemetry
