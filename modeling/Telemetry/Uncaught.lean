/-!
Errors that nobody caught and that are about to end a thread.
-/

namespace Telemetry

structure UncaughtException where
  message : String
  thread : Option String := none
  location : Option String := none
  deriving DecidableEq, Repr, Inhabited

/-- A description on one line, such as `index out of bounds (@src/deck.rs:10:5) \x7bmain\x7d`. -/
def UncaughtException.description (exception : UncaughtException) : String :=
  exception.message ++
    (exception.location.elim "" fun location => " (@" ++ location ++ ")") ++
    (exception.thread.elim "" fun thread => " \x7b" ++ thread ++ "\x7d")

end Telemetry
