import Telemetry.Text.Blank
/-!
The collector: what a sender is connected to, whatever the address of its requests.

What becomes of the requests is given in advance, one after the other; after the last one the
collector keeps to its habit.  It notes every request that reaches it.
-/

namespace Telemetry

open Telemetry.Text

structure Request where
  method : String
  target : String
  contentType : String
  userAgent : String
  body : String
  deriving DecidableEq, Repr, Inhabited

inductive Response where
  | answer (status : Nat) (headers : List (String × String)) (body : List UInt8)
  | dropped
  | hanging
  | refused
  deriving DecidableEq, Repr, Inhabited

structure Collector where
  script : List Response := []
  habit : Response := .answer 200 [] []
  requests : List Request := []
  deriving DecidableEq, Repr, Inhabited

def Collector.fresh (collector : Collector) : Collector := { collector with requests := [] }

def Collector.unreachable : Collector := { habit := .refused }

/-- What becomes of a request, and the collector after it.  The name of the sender is noted without
blanks at its ends. -/
def Collector.receive (collector : Collector) (request : Request) : Response × Collector :=
  let response := collector.script.head?.getD collector.habit
  let heard := { request with userAgent := trim request.userAgent }
  let noted := if response = .refused then collector.requests else collector.requests ++ [heard]
  (response, { collector with script := collector.script.drop 1, requests := noted })

end Telemetry
