/-!
The shortest decimal that reads back as a binary floating point number.

A finite double is `mantissa * 2 ^ exponent` exactly.  The reals that round to it form an
interval, closed when the mantissa is even.  Among the decimals with the fewest digits that
lie in the interval, the one nearest to the number is chosen.
-/

namespace Telemetry.Number

/-- The magnitude of a finite double: `mantissa * 2 ^ exponent`. -/
structure Binary where
  mantissa : Nat
  exponent : Int
  deriving DecidableEq, Repr

def fractionCount : Nat := 0x10000000000000

def Binary.ofBits (bits : Nat) : Binary :=
  let fraction : Nat := bits % fractionCount
  let scale : Nat := bits / fractionCount % 2048
  if scale = 0 then ⟨fraction, -1074⟩ else ⟨fractionCount + fraction, (scale : Int) - 1075⟩

/-- A decimal: `digits * 10 ^ exponent`. -/
structure Decimal where
  digits : Nat
  exponent : Int
  deriving DecidableEq, Repr

/-- Powers of ten below this one are never needed for a double. -/
def decimalShift : Nat := 400

/-- A number with the ends of its interval, all in units of `10 ^ (-decimalShift) / unit`. -/
structure Interval where
  lower : Nat
  middle : Nat
  upper : Nat
  unit : Nat
  closed : Bool

/-- The reals that round to a magnitude.  The step below a power of two is half as wide. -/
def Binary.interval (value : Binary) : Interval :=
  let shift := value.exponent - 2
  let scale := Nat.pow 2 shift.toNat * Nat.pow 10 decimalShift
  let below := if value.mantissa = fractionCount ∧ value.exponent ≠ -1074 then 1 else 2
  { lower := (4 * value.mantissa - below) * scale
    middle := 4 * value.mantissa * scale
    upper := (4 * value.mantissa + 2) * scale
    unit := Nat.pow 2 (-shift).toNat
    closed := value.mantissa % 2 == 0 }

def Interval.holds (interval : Interval) (point : Nat) : Bool :=
  if interval.closed then interval.lower ≤ point && point ≤ interval.upper
  else interval.lower < point && point < interval.upper

/-- The multiple of `10 ^ place` in the interval that is nearest to its middle, if there is one. -/
def Interval.nearest? (interval : Interval) (place : Nat) : Option Nat :=
  let step := Nat.pow 10 place * interval.unit
  let below := interval.middle / step
  let above := below + 1
  match interval.holds (below * step), interval.holds (above * step) with
  | false, false => none
  | true, false => some below
  | false, true => some above
  | true, true =>
      let toBelow := interval.middle - below * step
      let toAbove := above * step - interval.middle
      if toBelow < toAbove ∨ (toBelow = toAbove ∧ below % 2 = 0) then some below else some above

def digitCount (number : Nat) : Nat := (Nat.toDigits 10 number).length

def Binary.shortest (value : Binary) : Decimal :=
  let interval := value.interval
  let size := digitCount (interval.middle / interval.unit)
  let found := (List.range 17).findSome? fun shorter =>
    let place := size - (shorter + 1)
    (interval.nearest? place).map fun digits =>
      (⟨digits, (place : Int) - decimalShift⟩ : Decimal)
  found.getD ⟨0, 0⟩

def Decimal.reduce (decimal : Decimal) : Decimal :=
  let digits := Nat.toDigits 10 decimal.digits
  let zeros := (digits.reverse.takeWhile (· == '0')).length
  ⟨decimal.digits / Nat.pow 10 zeros, decimal.exponent + zeros⟩

/-- The text of a decimal.  Points stand inside or near the digits while at most sixteen
places precede them and at most five follow; beyond that a power of ten is written, with its
sign. -/
def Decimal.text (decimal : Decimal) : String :=
  let digits := Nat.toDigits 10 decimal.digits
  let length : Int := digits.length
  let places := length + decimal.exponent
  let zeros (count : Int) : List Char := List.replicate count.toNat '0'
  if 0 ≤ decimal.exponent ∧ places ≤ 16 then
    String.ofList (digits ++ zeros decimal.exponent ++ ['.', '0'])
  else if 0 < places ∧ places ≤ 16 then
    String.ofList (digits.take places.toNat ++ ['.'] ++ digits.drop places.toNat)
  else if -5 < places ∧ places ≤ 0 then
    String.ofList (['0', '.'] ++ zeros (-places) ++ digits)
  else
    let head := digits.take 1 ++ (if digits.length = 1 then [] else '.' :: digits.drop 1)
    String.ofList head ++ (if 0 < places then "e+" else "e") ++ toString (places - 1)

/-- The text of a finite double: a sign, then the shortest decimal that reads back. -/
def floatText (number : Float) : String :=
  let bits := number.toBits.toNat
  let sign := if bits >>> 63 = 1 then "-" else ""
  let value := Binary.ofBits bits
  if value.mantissa = 0 then sign ++ "0.0" else sign ++ value.shortest.reduce.text

end Telemetry.Number
