/-!
# Binary floating-point values

A finite value of a binary format is kept as its sign, its significand and the power of two that
scales it. Rounding is then exact arithmetic on natural numbers: `BinaryFormat.round` takes a ratio
to the nearest representable value, a half going to the even significand, and gives nothing when the
ratio lies beyond the greatest finite value. A rounded value is in the one form its format has for
it, so apart from the two zeros equal values are equal as data.
-/

namespace PageExtract

/-- The value `(-1)^negative * significand * 2^exponent`. -/
structure Dyadic where
  negative : Bool
  significand : Nat
  exponent : Int
deriving DecidableEq, Repr, Inhabited

/-- A binary format: its significands are below `2^precision`, and its exponents lie between
`minExponent` and `maxExponent`. -/
structure BinaryFormat where
  precision : Nat
  minExponent : Int
  maxExponent : Int

def binary64 : BinaryFormat := ⟨53, -1074, 971⟩

def binary32 : BinaryFormat := ⟨24, -149, 104⟩

/-- The quotient rounded to the nearest whole number, a half going to the even neighbour. -/
def roundDivEven (num den : Nat) : Nat :=
  let quotient := num / den
  let rest := 2 * (num % den)
  if rest < den then quotient
  else if den < rest then quotient + 1
  else if quotient % 2 = 0 then quotient else quotient + 1

/-- The greatest `k` with `2^k * den ≤ num`, for positive `num` and `den`. -/
def log2Ratio (num den : Nat) : Int :=
  let guess : Int := Int.ofNat num.log2 - Int.ofNat den.log2
  let reached := if 0 ≤ guess then den <<< guess.toNat ≤ num else den ≤ num <<< (-guess).toNat
  if reached then guess else guess - 1

namespace Dyadic

/-- The two values without magnitude. -/
def isZero (x : Dyadic) : Bool := x.significand == 0

/-- Equality of the values, for which the two zeros are one. -/
def sameValue (x y : Dyadic) : Bool :=
  (x.isZero && y.isZero) || x == y

def ratio (x : Dyadic) : Nat × Nat :=
  if 0 ≤ x.exponent then (x.significand <<< x.exponent.toNat, 1)
  else (x.significand, 1 <<< (-x.exponent).toNat)

end Dyadic

namespace BinaryFormat

def zero (fmt : BinaryFormat) (negative : Bool) : Dyadic := ⟨negative, 0, fmt.minExponent⟩

/-- The value of the format nearest to `num / den`, or nothing if that is beyond all of them. -/
def round (fmt : BinaryFormat) (negative : Bool) (num den : Nat) : Option Dyadic :=
  if num = 0 then some (fmt.zero negative)
  else
    let exponent := max fmt.minExponent (log2Ratio num den - (fmt.precision - 1 : Int))
    let significand :=
      if 0 ≤ exponent then roundDivEven num (den <<< exponent.toNat)
      else roundDivEven (num <<< (-exponent).toNat) den
    let carried := significand = Nat.pow 2 fmt.precision
    let significand := if carried then significand / 2 else significand
    let exponent := if carried then exponent + 1 else exponent
    if significand = 0 then some (fmt.zero negative)
    else if exponent ≤ fmt.maxExponent then some ⟨negative, significand, exponent⟩
    else none

/-- The rounded product of the magnitudes, with the sign of `x`. -/
def scaleUp (fmt : BinaryFormat) (x y : Dyadic) : Option Dyadic :=
  fmt.round x.negative (x.ratio.1 * y.ratio.1) (x.ratio.2 * y.ratio.2)

/-- The rounded quotient of the magnitudes, with the sign of `x`. -/
def scaleDown (fmt : BinaryFormat) (x y : Dyadic) : Option Dyadic :=
  fmt.round x.negative (x.ratio.1 * y.ratio.2) (x.ratio.2 * y.ratio.1)

/-- The value nearest to `digits * 10^exponent`. -/
def ofDecimal (fmt : BinaryFormat) (negative : Bool) (digits : Nat) (exponent : Int) : Option Dyadic :=
  if 0 ≤ exponent then fmt.round negative (digits * Nat.pow 10 exponent.toNat) 1
  else fmt.round negative digits (Nat.pow 10 (-exponent).toNat)

end BinaryFormat

end PageExtract
