import Telemetry.Preferences.Store
import Telemetry.Text.Quoted
/-!
The id of an installation: a text that stays the same from the first start on.

It is kept among the preferences.  A new one is a random identifier of version 4.
-/

namespace Telemetry

open Telemetry.Text

def installationKey : String := "analyticsInstallationId"

def paddedHex (count number : Nat) : List Char :=
  match count with
  | 0 => []
  | rest + 1 => paddedHex rest (number / 16) ++ [hexDigit (number % 16)]

def identifierOf (bits : Nat) : String :=
  let last := paddedHex 12 bits
  let fourth := hexDigit (8 + (bits >>> 48) % 4) :: paddedHex 3 (bits >>> 50)
  let third := '4' :: paddedHex 3 (bits >>> 62)
  let second := paddedHex 4 (bits >>> 74)
  let first := paddedHex 8 (bits >>> 90)
  String.ofList (List.intercalate ['-'] [first, second, third, fourth, last])

/-- The random bits of the draw with the given number: a fixed sequence in which no bits come
twice. -/
def drawnBits (draw : Nat) : Nat :=
  (draw + 1) * 0x9E3779B97F4A7C15F39CC0605CEDC835 % Nat.pow 2 122

def drawnIdentifier (draw : Nat) : String := identifierOf (drawnBits draw)

def Store.installationId? {α : Type} (store : Store α) : Except PreferenceFault (Option String) :=
  (store.getText installationKey).map fun stored =>
    stored.filter fun text => !decide (IsBlankText text)

end Telemetry
