import Telemetry.Text.Digits
import Telemetry.Url.Domain
/-!
Hosts in URLs: domain names, and addresses of the two versions of the internet protocol.

A domain name that ends in a number has to be an address.
-/

namespace Telemetry.Url

open Telemetry.Text

inductive Fault where
  | relativeWithoutBase
  | emptyHost
  | badPort
  | badIpv4
  | badIpv6
  | badDomainName
  | badHostCharacter
  deriving DecidableEq, Repr, Inhabited

def Fault.message : Fault → String
  | .relativeWithoutBase => "relative URL without a base"
  | .emptyHost => "empty host"
  | .badPort => "invalid port number"
  | .badIpv4 => "invalid IPv4 address"
  | .badIpv6 => "invalid IPv6 address"
  | .badDomainName => "invalid international domain name"
  | .badHostCharacter => "invalid domain character"

/-- A part of an address that is written in numbers: its value, if it is a number at all.  The
beginnings `0x` and `0` stand for the bases sixteen and eight. -/
def addressNumber? (part : List Char) : Option Nat :=
  let digits (base : Nat) (written : List Char) : Option Nat :=
    if written.all fun character => (hexValue? character).any (· < base) then
      some (written.foldl (fun value digit => value * base + (hexValue? digit).getD 0) 0)
    else none
  match part with
  | [] => none
  | '0' :: 'x' :: rest | '0' :: 'X' :: rest => digits 16 rest
  | '0' :: next :: rest => digits 8 (next :: rest)
  | _ => digits 10 part

def domainParts (domain : List Char) : List (List Char) :=
  let parts := splitAll '.' domain
  if parts.getLast? = some [] ∧ parts.length ≠ 1 then parts.dropLast else parts

def endsInNumber (domain : List Char) : Bool :=
  match (domainParts domain).getLast? with
  | none | some [] => false
  | some last => last.all isDecimalDigit || (addressNumber? last).isSome

/-- Whether a domain name is an address of four bytes.  The last number may stand for several
bytes. -/
def isIpv4 (domain : List Char) : Bool :=
  let parts := domainParts domain
  match parts.mapM addressNumber? with
  | none => false
  | some numbers =>
      parts.length ≤ 4 &&
        (numbers.getLast?.getD 0) < Nat.pow 256 (5 - numbers.length) && numbers.dropLast.all (· < 256)

def isQuadNumber (written : List Char) : Bool :=
  !written.isEmpty && written.all isDecimalDigit && decimalNumber written < 256 &&
    (written.length == 1 || written.head? != some '0')

/-- The number of groups that a part of an address stands for; only the last part may hold four
numbers. -/
def groupCount? : List (List Char) → Option Nat
  | [] => some 0
  | [last] =>
      if last.contains '.' then
        let numbers := splitAll '.' last
        if numbers.length = 4 ∧ numbers.all isQuadNumber = true then some 2 else none
      else if isGroup last then some 1
      else none
  | first :: rest => if isGroup first then (groupCount? rest).map (· + 1) else none
where
  isGroup (written : List Char) : Bool :=
    !written.isEmpty && written.length ≤ 4 && written.all fun digit => (hexValue? digit).isSome

def groups (written : List Char) : List (List Char) :=
  if written.isEmpty then [] else splitAll ':' written

def splitPair? : List Char → Option (List Char × List Char)
  | ':' :: ':' :: rest => some ([], rest)
  | character :: rest => (splitPair? rest).map fun (before, after) => (character :: before, after)
  | [] => none

def isIpv6 (written : List Char) : Bool :=
  match splitPair? written with
  | none => groupCount? (groups written) == some 8
  | some (before, after) =>
      !before.contains '.' &&
        match groupCount? (groups before), groupCount? (groups after) with
        | some first, some second => first + second ≤ 7
        | _, _ => false

def bracketed? (host : List Char) : Option (List Char) :=
  match host with
  | '[' :: rest => if rest.getLast? = some ']' then some rest.dropLast else none
  | _ => none

def readHost (host : List Char) : Except Fault (List Char) :=
  if host.head? = some '[' then
    if (bracketed? host).any isIpv6 then .ok host else .error .badIpv6
  else
    match domain? host with
    | none => .error .badDomainName
    | some domain =>
        if domain.isEmpty then .error .emptyHost
        else if endsInNumber domain && !isIpv4 domain then .error .badIpv4
        else .ok domain

def isHostBreaker (character : Char) : Bool :=
  ['\x00', '\t', '\n', '\r', ' ', '#', '/', ':', '<', '>', '?', '@', '[', '\\', ']', '^',
    '|'].contains character

def readOpaqueHost (host : List Char) : Except Fault (List Char) :=
  if host.head? = some '[' then
    if (bracketed? host).any isIpv6 then .ok host else .error .badIpv6
  else if host.any isHostBreaker then .error .badHostCharacter
  else .ok host

end Telemetry.Url
