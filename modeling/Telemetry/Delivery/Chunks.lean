import Telemetry.Delivery.Head
import Telemetry.Text.Digits
/-!
Bodies that arrive in chunks.

Each chunk tells its size in hexadecimal digits, on a line that may say more behind a semicolon.
A chunk of size zero is the last; headers may follow it, up to an empty line.
-/

namespace Telemetry

open Telemetry.Text

inductive ChunkStage where
  | start
  | size (found : Nat)
  | afterSize (found : Nat)
  | remark (found : Nat)
  | lineEnd (found : Nat)
  /-- In a chunk, of which one byte more than given is left. -/
  | content (left : Nat)
  | contentEnd
  | contentLineEnd
  /-- Behind the last chunk, in a header that is given from its end. -/
  | header (line : List Char)
  | headerEnd (line : List Char)
  deriving DecidableEq, Repr

inductive ChunkStep where
  | next (stage : ChunkStage)
  | keep (stage : ChunkStage)
  | complete
  | illFormed
  deriving DecidableEq, Repr

def sizeStep (found : Nat) (character : Char) : ChunkStep :=
  if character = ' ' ∨ character = '\t' then .next (.afterSize found)
  else if character = ';' then .next (.remark found)
  else if character = '\r' then .next (.lineEnd found)
  else .illFormed

def ChunkStage.step (stage : ChunkStage) (byte : UInt8) : ChunkStep :=
  let character := Char.ofNat byte.toNat
  match stage with
  | .start =>
      match hexValue? character with
      | some digit => .next (.size digit)
      | none => .illFormed
  | .size found =>
      match hexValue? character with
      | some digit => .next (.size (found * 16 + digit))
      | none => sizeStep found character
  | .afterSize found => sizeStep found character
  | .remark found =>
      if character = '\r' then .next (.lineEnd found)
      else if character = '\n' then .illFormed
      else .next (.remark found)
  | .lineEnd found =>
      if character ≠ '\n' then .illFormed
      else
        match found with
        | 0 => .next (.header [])
        | left + 1 => .next (.content left)
  | .content 0 => .keep .contentEnd
  | .content (left + 1) => .keep (.content left)
  | .contentEnd => if character = '\r' then .next .contentLineEnd else .illFormed
  | .contentLineEnd => if character = '\n' then .next .start else .illFormed
  | .header line =>
      if character = '\r' then .next (.headerEnd line) else .next (.header (character :: line))
  | .headerEnd line =>
      if character ≠ '\n' then .illFormed
      else if line.isEmpty then .complete
      else if (readHeader? line.reverse).isSome then .next (.header [])
      else .illFormed

/-- Reads the rest of a body; nothing that follows the last chunk counts. -/
def readChunksFrom? (stage : ChunkStage) : List UInt8 → Option (List UInt8)
  | [] => none
  | byte :: rest =>
      match stage.step byte with
      | .next after => readChunksFrom? after rest
      | .keep after => (readChunksFrom? after rest).map (byte :: ·)
      | .complete => some []
      | .illFormed => none

def readChunks? (bytes : List UInt8) : Option (List UInt8) := readChunksFrom? .start bytes

end Telemetry
