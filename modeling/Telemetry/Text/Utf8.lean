/-!
Texts as bytes.

A character is written as one to four bytes by its code point (UTF-8).

A byte sequence is read as UTF-8 from left to right.  Each scalar value that is encoded
correctly gives its character; where the bytes are ill formed, the longest beginning of a
scalar value that is there gives one gap.  A strict reading refuses gaps, a lenient reading
puts a replacement character for each.
-/

namespace Telemetry.Text

def continuation (bits : Nat) : UInt8 := UInt8.ofNat (0x80 + bits % 64)

def encodeScalar (character : Char) : List UInt8 :=
  let code := character.toNat
  if code < 0x80 then [UInt8.ofNat code]
  else if code < 0x800 then [UInt8.ofNat (0xC0 + code / 64), continuation code]
  else if code < 0x10000 then
    [UInt8.ofNat (0xE0 + code / 4096), continuation (code / 64), continuation code]
  else
    [UInt8.ofNat (0xF0 + code / 262144), continuation (code / 4096), continuation (code / 64),
      continuation code]

def encodeUtf8 (text : String) : List UInt8 := text.toList.flatMap encodeScalar

def isContinuation (byte : UInt8) : Bool := 0x80 ≤ byte && byte ≤ 0xBF

/-- The bytes that may follow a first byte directly, and how many follow in all. -/
def leadRange (lead : UInt8) : Option (UInt8 × UInt8 × Nat) :=
  if 0xC2 ≤ lead && lead ≤ 0xDF then some (0x80, 0xBF, 1)
  else if lead == 0xE0 then some (0xA0, 0xBF, 2)
  else if lead == 0xED then some (0x80, 0x9F, 2)
  else if 0xE1 ≤ lead && lead ≤ 0xEF then some (0x80, 0xBF, 2)
  else if lead == 0xF0 then some (0x90, 0xBF, 3)
  else if 0xF1 ≤ lead && lead ≤ 0xF3 then some (0x80, 0xBF, 3)
  else if lead == 0xF4 then some (0x80, 0x8F, 3)
  else none

def continuationBits (code : Nat) (byte : UInt8) : Nat := code * 64 + byte.toNat % 64

/-- The scalar value that starts with a byte, if it is complete, and how many of the bytes
after it belong to it or to its broken beginning. -/
def readScalar (lead : UInt8) (rest : List UInt8) : Option Char × Nat :=
  if lead < 0x80 then (some (Char.ofNat lead.toNat), 0)
  else
    match leadRange lead with
    | none => (none, 0)
    | some (low, high, needed) =>
        let second := rest.takeWhile fun byte => low ≤ byte && byte ≤ high
        if second.isEmpty then (none, 0)
        else
          let more := (rest.drop 1).takeWhile isContinuation
          let present := min needed (1 + more.length)
          if present = needed then
            let start := lead.toNat % Nat.pow 2 (6 - needed)
            (some (Char.ofNat ((rest.take needed).foldl continuationBits start)), needed)
          else (none, present)

def scanUtf8 : List UInt8 → List (Option Char)
  | [] => []
  | lead :: rest =>
      let found := readScalar lead rest
      found.1 :: scanUtf8 (rest.drop found.2)
termination_by bytes => bytes.length
decreasing_by
  simp only [List.length_cons, List.length_drop]
  omega

def decodeUtf8? (bytes : List UInt8) : Option String :=
  ((scanUtf8 bytes).mapM id).map String.ofList

def decodeUtf8Lenient (bytes : List UInt8) : String :=
  String.ofList ((scanUtf8 bytes).map fun found => found.getD '\uFFFD')

end Telemetry.Text
