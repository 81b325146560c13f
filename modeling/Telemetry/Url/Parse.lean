import Telemetry.Text.Quoted
import Telemetry.Url.Host
/-!
Absolute URLs.

A URL is read from left to right: scheme, user information, host and port, path, query.  The
part after a number sign is never sent and is dropped.
-/

namespace Telemetry

open Telemetry.Text

structure Url where
  scheme : String
  host : String
  port : Option Nat
  target : String
  deriving DecidableEq, Repr, Inhabited

namespace Url

inductive SchemeKind where
  | named
  | file
  | other
  deriving DecidableEq, Repr

def SchemeKind.of (scheme : String) : SchemeKind :=
  if ["http", "https", "ws", "wss", "ftp"].contains scheme then .named
  else if scheme = "file" then .file
  else .other

def SchemeKind.isSpecial : SchemeKind → Bool
  | .other => false
  | _ => true

def isEdge (character : Char) : Bool := character.toNat ≤ 0x20

def isSkipped (character : Char) : Bool :=
  character == '\t' || character == '\n' || character == '\r'

def significant (text : String) : List Char :=
  (dropEndWhile isEdge (text.toList.dropWhile isEdge)).filter (!isSkipped ·)

def splitScheme? (characters : List Char) : Option (String × List Char) :=
  let isPart := fun (character : Char) =>
    character.isAlphanum || character == '+' || character == '-' || character == '.'
  let scheme := characters.takeWhile isPart
  match scheme, characters.dropWhile isPart with
  | first :: _, ':' :: rest =>
      if first.isAlpha then some (String.ofList (scheme.map Char.toLower), rest) else none
  | _, _ => none

def isSlash (kind : SchemeKind) (character : Char) : Bool :=
  character == '/' || (kind.isSpecial && character == '\\')

def endsAuthority (kind : SchemeKind) (character : Char) : Bool :=
  isSlash kind character || character == '?' || character == '#'

/-- The authority of a URL split at its last at sign: user information, if there is any, and
host with port. -/
def splitUser (authority : List Char) : Option (List Char) × List Char :=
  match splitFirst? '@' authority.reverse with
  | some (host, user) => (some user.reverse, host.reverse)
  | none => (none, authority)

def splitPort (inBrackets : Bool) : List Char → List Char × Option (List Char)
  | [] => ([], none)
  | character :: rest =>
      if character == ':' && !inBrackets then ([], some rest)
      else
        let inside := character == '[' || (inBrackets && character != ']')
        let (host, port) := splitPort inside rest
        (character :: host, port)

def isPort (port : List Char) : Bool :=
  port.all isDecimalDigit && decimalNumber port < 65536

/-- Reads the port of a URL.  Where a backslash has no special meaning it still ends the port. -/
def readPort (port : Option (List Char)) : Except Fault (Option Nat) :=
  let written := (port.getD []).takeWhile (· != '\\')
  if !isPort written then .error .badPort
  else .ok (if written.isEmpty then none else some (decimalNumber written))

def readAuthority (kind : SchemeKind) (characters : List Char) :
    Except Fault (List Char × Option Nat) := do
  let authority := characters.takeWhile (!endsAuthority kind ·)
  let isLast := authority.length == characters.length
  let (user, hostPort) := splitUser authority
  if user == some [] && hostPort.isEmpty && !isLast then .error .emptyHost
  let hasUser := user.any fun found => found != [] && found != [':']
  let (host, port) := splitPort false hostPort
  let found ←
    match kind with
    | .named => if host.isEmpty then .error .emptyHost else readHost host
    | _ => readOpaqueHost host
  if host.isEmpty && port.isSome then .error .emptyHost
  let number ← readPort port
  if host.isEmpty && hasUser then .error .emptyHost
  return (found, number)

def isDriveLetter : List Char → Bool
  | [letter, mark] => letter.isAlpha && (mark == ':' || mark == '|')
  | _ => false

def checkFile (characters : List Char) : Except Fault Unit :=
  match characters with
  | first :: second :: rest =>
      if isSlash .file first && isSlash .file second then
        let host := rest.takeWhile (!endsAuthority .file ·)
        if host.isEmpty || isDriveLetter host then .ok () else (readHost host).map fun _ => ()
      else .ok ()
  | _ => .ok ()

def percentByte (byte : UInt8) : List Char :=
  ['%', hexDigitUpper (byte.toNat / 16), hexDigitUpper (byte.toNat % 16)]

/-- A character of a path or query, where the given characters and all that do not show are
written by their bytes. -/
def percentEncode (reserved : List Char) (character : Char) : List Char :=
  if character.toNat ≤ 0x20 || character.toNat ≥ 0x7F || reserved.contains character then
    (encodeScalar character).flatMap percentByte
  else [character]

def isHere (part : List Char) : Bool :=
  [".", "%2e"].contains (String.ofList (part.map Char.toLower))

def isAbove (part : List Char) : Bool :=
  ["..", ".%2e", "%2e.", "%2e%2e"].contains (String.ofList (part.map Char.toLower))

/-- The parts of a path above the last one, in reverse order.  A drive has nothing above it. -/
def above : List (List Char) → List (List Char)
  | [] => []
  | last :: outer => if isDriveLetter last then last :: outer else outer

/-- Resolves the parts of a path.  The parts found so far stand in reverse order. -/
def resolveParts (found : List (List Char)) : List (List Char) → List (List Char)
  | [] => found.reverse
  | part :: rest =>
      if isAbove part then
        resolveParts (if rest.isEmpty then [] :: above found else above found) rest
      else if isHere part then resolveParts (if rest.isEmpty then [] :: found else found) rest
      else resolveParts (part :: found) rest

def requestTarget (characters : List Char) : String :=
  let beforeFragment := characters.takeWhile (· != '#')
  let path := (beforeFragment.takeWhile (· != '?')).map fun character =>
    if character == '\\' then '/' else character
  let query := beforeFragment.dropWhile (· != '?')
  let parts := resolveParts [] (splitAll '/' (if path.isEmpty then [] else path.drop 1))
  let written := parts.map fun part =>
    '/' :: part.flatMap (percentEncode ['"', '<', '>', '\x60', '\x7b', '\x7d'])
  String.ofList (written.flatten ++ query.flatMap (percentEncode ['"', '<', '>', '\'']))

def parse (text : String) : Except Fault Url :=
  match splitScheme? (significant text) with
  | none => .error .relativeWithoutBase
  | some (scheme, rest) => do
      match SchemeKind.of scheme with
      | .file =>
          checkFile rest
          return ⟨scheme, "", none, ""⟩
      | .named =>
          let afterSlashes := rest.dropWhile (isSlash .named)
          let (host, port) ← readAuthority .named afterSlashes
          let target := requestTarget (afterSlashes.dropWhile (!endsAuthority .named ·))
          return ⟨scheme, String.ofList host, port, target⟩
      | .other =>
          match rest with
          | '/' :: '/' :: authority =>
              let (host, port) ← readAuthority .other authority
              return ⟨scheme, String.ofList host, port, ""⟩
          | _ => return ⟨scheme, "", none, ""⟩

def unsendableMarks : List Char := ['"', '\x60', '\x7b', '\x7d']

def isSendable (url : Url) : Bool :=
  ["http", "https"].contains url.scheme && !url.host.toList.any unsendableMarks.contains

end Url

end Telemetry
