import PageExtract.Json.Basic
import PageExtract.Number.Binary

/-!
# Prices

The number in a text such as "12,99 €". Only the digits count, and of the points and commas the first
one behind a digit, which is the decimal point; so a separator of thousands is read as the decimal
point too.
-/

namespace PageExtract.Price

/-- The digits of a text, with the first point or comma behind a digit as a point between them. -/
def gather : (begun pointed : Bool) → List Char → List Char
  | _, _, [] => []
  | begun, pointed, c :: rest =>
    if c.isDigit then c :: gather true pointed rest
    else if (c == '.' || c == ',') && begun && !pointed then '.' :: gather begun true rest
    else gather begun pointed rest

/-- The numeral in a text: digits, and a point only if digits follow it. -/
def numeral (text : List Char) : List Char :=
  ((gather false false text).reverse.dropWhile (· == '.')).reverse

/-- The digits of a numeral as one number, and how many of them stand behind the point. -/
def decimal (numeral : List Char) : Nat × Nat :=
  let whole := numeral.takeWhile (· != '.')
  let fraction := (numeral.dropWhile (· != '.')).drop 1
  ((whole ++ fraction).foldl (fun n c => n * 10 + (c.toNat - '0'.toNat)) 0, fraction.length)

/-- The number nearest to what a numeral says, if there is a numeral and the number is finite. -/
def nearest? (numeral : List Char) : Option Dyadic :=
  match numeral with
  | [] => none
  | numeral =>
    let (digits, places) := decimal numeral
    binary64.ofDecimal false digits (-places)

/-- The price in a text as a number, or null. -/
def parse (text : String) : Json :=
  match nearest? (numeral text.toList) with
  | some x => .number (.float x)
  | none => .null

end PageExtract.Price
