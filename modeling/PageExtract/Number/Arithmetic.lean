import PageExtract.Number.Binary

/-!
# Arithmetic with rounded results

Sums, products and quotients of numbers of a binary format. Each operation gives the value nearest to
the exact result, an infinite number if that lies beyond all values, and an undefined one if there is
no result, as for the product of zero and an infinite number.
-/

namespace PageExtract

/-- A number of a binary format: a finite value, or beyond all of them, or undefined. -/
inductive BinaryNumber where
  | finite (value : Dyadic)
  | infinite (negative : Bool)
  | undefined
deriving DecidableEq, Repr, Inhabited

namespace Dyadic

/-- The value over the denominator of its magnitude. -/
def numerator (x : Dyadic) : Int := if x.negative then -(x.ratio.1 : Int) else x.ratio.1

end Dyadic

namespace BinaryNumber

def negate : BinaryNumber → BinaryNumber
  | finite x => finite { x with negative := !x.negative }
  | infinite negative => infinite !negative
  | undefined => undefined

def isPositive : BinaryNumber → Bool
  | finite x => !x.negative && !x.isZero
  | infinite negative => !negative
  | undefined => false

end BinaryNumber

namespace BinaryFormat

open BinaryNumber

def nearest (fmt : BinaryFormat) (negative : Bool) (num den : Nat) : BinaryNumber :=
  match fmt.round negative num den with
  | some x => finite x
  | none => infinite negative

def ofNat (fmt : BinaryFormat) (n : Nat) : BinaryNumber := fmt.nearest false n 1

/-- The number of this format nearest to a number of another. -/
def convert (fmt : BinaryFormat) : BinaryNumber → BinaryNumber
  | finite x => fmt.nearest x.negative x.ratio.1 x.ratio.2
  | x => x

/-- The rounded sum. The sum of values is the negative zero only if both are. -/
def sum (fmt : BinaryFormat) : BinaryNumber → BinaryNumber → BinaryNumber
  | finite x, finite y =>
    let total := x.numerator * y.ratio.2 + y.numerator * x.ratio.2
    let negative := total < 0 || (total = 0 && x.negative && y.negative)
    fmt.nearest negative total.natAbs (x.ratio.2 * y.ratio.2)
  | infinite a, infinite b => if a = b then infinite a else undefined
  | infinite a, finite _ => infinite a
  | finite _, infinite b => infinite b
  | _, _ => undefined

def product (fmt : BinaryFormat) : BinaryNumber → BinaryNumber → BinaryNumber
  | finite x, finite y =>
    fmt.nearest (x.negative != y.negative) (x.ratio.1 * y.ratio.1) (x.ratio.2 * y.ratio.2)
  | infinite a, infinite b => infinite (a != b)
  | infinite a, finite y => if y.isZero then undefined else infinite (a != y.negative)
  | finite x, infinite b => if x.isZero then undefined else infinite (x.negative != b)
  | _, _ => undefined

def quotient (fmt : BinaryFormat) : BinaryNumber → Nat → BinaryNumber
  | finite x, n => fmt.nearest x.negative x.ratio.1 (x.ratio.2 * n)
  | x, _ => x

/-- The number nearest to `10^exponent`, for an exponent of any size in the 64-bit format: beyond
`greatest` in either direction there are no values but zero. -/
def tenTo (fmt : BinaryFormat) (greatest : Nat) (exponent : Int) : BinaryNumber :=
  if (greatest : Int) < exponent then infinite false
  else if exponent < -(greatest : Int) then finite (fmt.zero false)
  else if 0 ≤ exponent then fmt.nearest false (Nat.pow 10 exponent.toNat) 1
  else fmt.nearest false 1 (Nat.pow 10 exponent.natAbs)

end BinaryFormat

end PageExtract
