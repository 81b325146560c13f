import Telemetry.Delivery.Chunks
import Telemetry.Text.Utf8
/-!
What arrives of an answer of the collector.

An answer with an impossible status or an ill-formed head does not arrive at all, and neither does
one that announces itself only.  The headers may say that the body is shorter or longer than it
is, or that it comes in chunks.
-/

namespace Telemetry

open Telemetry.Text

structure Arrival where
  headers : List Header
  body : List UInt8
  deriving DecidableEq, Repr, Inhabited

def switchingProtocols : Nat := 101

def isFinalStatus (status : Nat) : Bool :=
  status == switchingProtocols || (200 ≤ status && status ≤ 999)

def mostHeaders : Nat := 100

def bodilessStatuses : List Nat := [switchingProtocols, 204, 304]

def statesLength (length : Nat) (value : List Char) : Bool :=
  (splitAll ',' value).all fun piece =>
    let digits := trimSpaces piece
    !digits.isEmpty && digits.all isDecimalDigit && decimalNumber digits == length

def isChunked (value : List Char) : Bool :=
  let last := ((splitAll ',' value).getLast?.getD []).map Char.toLower
  value.all isPlainHeaderCharacter && trimSpaces last == "chunked".toList

/-- What arrives of an answer, to which the collector adds a header with the length of the body.  A
body in ill-formed chunks arrives empty. -/
def arrival? (status : Nat) (headers : List (String × String)) (body : List UInt8) :
    Option Arrival := do
  let found ← readHead? headers
  if !isFinalStatus status || mostHeaders ≤ found.length then none
  if bodilessStatuses.contains status then return ⟨found, []⟩
  match (headerValues "transfer-encoding" found).getLast? with
  | some way => return ⟨found, if isChunked way then (readChunks? body).getD [] else body⟩
  | none =>
      if (headerValues "content-length" found).all (statesLength body.length) then
        return ⟨found, body⟩
      else none

end Telemetry
