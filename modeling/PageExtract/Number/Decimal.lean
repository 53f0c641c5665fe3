import PageExtract.Number.Binary

/-!
# The fewest decimal digits that read back

`BinaryFormat.shortest` gives, for a finite value, the decimal with the fewest digits that rounds to
it. All arithmetic is exact: the reals that round to a value form an interval, and on the grid of
decimals with a given number of digits only the two neighbours of the value can be the nearest point
in it.
-/

namespace PageExtract

/-- A positive decimal: the digits `d₁d₂…dₙ`, the first not zero, read as `d₁.d₂…dₙ * 10^exponent`. -/
structure DecimalDigits where
  digits : List Char
  exponent : Int
deriving DecidableEq, Repr, Inhabited

/-- The greatest `e` with `10^e * den ≤ num`, for positive `num` and `den`. -/
def log10Ratio (num den : Nat) : Int :=
  let guess : Int := Int.ofNat (Nat.toDigits 10 num).length - Int.ofNat (Nat.toDigits 10 den).length
  let reached := if 0 ≤ guess then den * Nat.pow 10 guess.toNat ≤ num else den ≤ num * Nat.pow 10 (-guess).toNat
  if reached then guess else guess - 1

/-- The reals that round to a value: the value itself and the ends of the interval, over one
denominator. -/
structure RoundingInterval where
  low : Nat
  value : Nat
  high : Nat
  den : Nat
  closed : Bool

namespace BinaryFormat

/-- The interval is half a unit wide on both sides, but a quarter below a power of two whose lower
neighbour lies in the finer binade. -/
def roundingInterval (fmt : BinaryFormat) (x : Dyadic) : RoundingInterval :=
  let below := if x.significand = Nat.pow 2 (fmt.precision - 1) ∧ fmt.minExponent < x.exponent then 1 else 2
  let scale := x.exponent - 2
  let up (n : Nat) := if 0 ≤ scale then n <<< scale.toNat else n
  { low := up (4 * x.significand - below)
    value := up (4 * x.significand)
    high := up (4 * x.significand + 2)
    den := if 0 ≤ scale then 1 else 1 <<< (-scale).toNat
    closed := x.significand % 2 = 0 }

end BinaryFormat

namespace RoundingInterval

/-- Whether `num / den` lies in the interval. -/
def holds (i : RoundingInterval) (num den : Nat) : Bool :=
  if i.closed then i.low * den ≤ num * i.den && num * i.den ≤ i.high * den
  else i.low * den < num * i.den && num * i.den < i.high * den

/-- The point of the grid `10^exponent` in the interval that is nearest to the value, the even one
of two that are equally near. -/
def nearestOnGrid (i : RoundingInterval) (exponent : Int) : Option Nat :=
  let num := if 0 ≤ exponent then Nat.pow 10 exponent.toNat else 1
  let den := if 0 ≤ exponent then 1 else Nat.pow 10 (-exponent).toNat
  let lower := i.value * den / (i.den * num)
  let upper := lower + 1
  let fromLower := i.value * den - lower * num * i.den
  let toUpper := upper * num * i.den - i.value * den
  match i.holds (lower * num) den, i.holds (upper * num) den with
  | true, true =>
    if fromLower < toUpper then some lower
    else if toUpper < fromLower then some upper
    else if lower % 2 = 0 then some lower else some upper
  | true, false => some lower
  | false, true => some upper
  | false, false => none

/-- Tries the grids with one digit more each time. -/
def firstGrid (i : RoundingInterval) (leading : Int) : (count fuel : Nat) → Nat × Int
  | count, 0 => (i.value / i.den, leading - count)
  | count, fuel + 1 =>
    let exponent := leading - count
    match i.nearestOnGrid exponent with
    | some point => (point, exponent)
    | none => firstGrid i leading (count + 1) fuel

end RoundingInterval

def dropTrailingZeros (digits : List Char) : List Char :=
  (digits.reverse.dropWhile (· == '0')).reverse

/-- The shortest decimal that rounds to a value other than zero; sign not included. Seventeen digits
always suffice. -/
def BinaryFormat.shortest (fmt : BinaryFormat) (x : Dyadic) : DecimalDigits :=
  let i := fmt.roundingInterval x
  let (point, exponent) := i.firstGrid (log10Ratio i.value i.den) 0 18
  let digits := Nat.toDigits 10 point
  { digits := dropTrailingZeros digits
    exponent := exponent + digits.length - 1 }

namespace DecimalDigits

/-- The digits before and after the point, without exponent; at least one of each. -/
def positional (d : DecimalDigits) : List Char × List Char :=
  if d.exponent < 0 then
    (['0'], List.replicate (-d.exponent - 1).toNat '0' ++ d.digits)
  else
    let whole := d.exponent.toNat + 1
    let before := d.digits.take whole
    let after := d.digits.drop whole
    (before ++ List.replicate (whole - before.length) '0', if after.isEmpty then ['0'] else after)

end DecimalDigits

end PageExtract
