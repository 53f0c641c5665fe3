import PageExtract.Json.Basic
import PageExtract.Number.Decimal

/-!
# The compact text of JSON values

No blanks, members in order. A string is written with the shortest escapes and with everything from
U+0020 on as it is, apart from the quote and the backslash.
-/

namespace PageExtract

/-- The text of a finite float: the fewest digits that read back, positional from `10^-5` up to
below `10^16` with at least one digit after the point, else with a signed exponent. -/
def Dyadic.jsonText (x : Dyadic) : String :=
  let sign := if x.negative then "-" else ""
  if x.isZero then sign ++ "0.0"
  else
    let d := binary64.shortest x
    if -5 ≤ d.exponent ∧ d.exponent ≤ 15 then
      let (before, after) := d.positional
      sign ++ String.ofList before ++ "." ++ String.ofList after
    else
      let tail := d.digits.drop 1
      sign ++ String.ofList (d.digits.take 1)
        ++ (if tail.isEmpty then "" else "." ++ String.ofList tail)
        ++ "e" ++ (if d.exponent < 0 then "-" else "+") ++ toString d.exponent.natAbs

namespace Json

def Number.text : Number → String
  | .int value => toString value
  | .float value => value.jsonText

/-- The digits of a number below 2^16 in base sixteen, four of them, in lower case. -/
def fourHexDigits (n : Nat) : String :=
  let digits := Nat.toDigits 16 n
  String.ofList (List.replicate (4 - digits.length) '0' ++ digits)

def escapeChar (c : Char) : String :=
  match c with
  | '"' => "\\\""
  | '\\' => "\\\\"
  | '\x08' => "\\b"
  | '\x0c' => "\\f"
  | '\n' => "\\n"
  | '\r' => "\\r"
  | '\t' => "\\t"
  | c => if c.toNat < 0x20 then "\\u" ++ fourHexDigits c.toNat else c.toString

def quote (s : String) : String :=
  "\"" ++ s.foldl (fun text c => text ++ escapeChar c) "" ++ "\""

mutual

/-- The compact text of a value. -/
def text : Json → String
  | .null => "null"
  | .bool true => "true"
  | .bool false => "false"
  | .number value => value.text
  | .string value => quote value
  | .array items => "[" ++ itemsText items ++ "]"
  | .object members => "\x7b" ++ membersText members ++ "\x7d"

def itemsText : List Json → String
  | [] => ""
  | [item] => text item
  | item :: rest => text item ++ "," ++ itemsText rest

def membersText : List (String × Json) → String
  | [] => ""
  | [(key, value)] => quote key ++ ":" ++ text value
  | (key, value) :: rest => quote key ++ ":" ++ text value ++ "," ++ membersText rest

end

end Json

end PageExtract
