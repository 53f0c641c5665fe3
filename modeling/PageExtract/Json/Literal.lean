import PageExtract.Json.Cursor
import PageExtract.Json.Basic

/-!
# Strings and numbers in a JSON text

A string ends at its closing quote. A number that is written without point and exponent and fits 64
bits is an integer. Any other is a float: up to nineteen or twenty digits are gathered in a 64-bit
significand, later ones only move the point, and the significand is then scaled by a power of ten
with one rounding for each of the two and one for the result.
-/

namespace PageExtract.Json

def hexDigit? (c : Char) : Option Nat :=
  if c.isDigit then some (c.toNat - '0'.toNat)
  else if 'a' ≤ c ∧ c ≤ 'f' then some (c.toNat - 'a'.toNat + 10)
  else if 'A' ≤ c ∧ c ≤ 'F' then some (c.toNat - 'A'.toNat + 10)
  else none

/-- Four hexadecimal digits. Fewer than four bytes are the end of the text; four that are not all
digits are passed before the fault is noticed. -/
def readFourHex (c : Cursor) : Except ReadError (Nat × Cursor) :=
  match c.rest with
  | a :: b :: d :: e :: rest =>
    match hexDigit? a, hexDigit? b, hexDigit? d, hexDigit? e with
    | some a, some b, some d, some e => .ok (((a * 16 + b) * 16 + d) * 16 + e, ⟨rest, c.offset + 4⟩)
    | _, _, _, _ => .error ⟨.invalidEscape, c.offset + 4⟩
  | _ =>
    let finish := c.toEnd
    if finish.offset < c.offset + 4 then finish.fail .endInString else .error ⟨.invalidEscape, c.offset + 4⟩

def isHighSurrogate (code : Nat) : Bool := 0xd800 ≤ code && code ≤ 0xdbff

def isLowSurrogate (code : Nat) : Bool := 0xdc00 ≤ code && code ≤ 0xdfff

/-- The character behind `\u`. The first half of a surrogate pair has to be followed by an escape
with the second half. -/
def readUnicodeEscape (c : Cursor) : Except ReadError (Char × Cursor) := do
  let (code, c) ← readFourHex c
  if isLowSurrogate code then c.fail .loneSurrogate
  else if !isHighSurrogate code then .ok (Char.ofNat code, c)
  else
    match c.rest with
    | [] => c.fail .endInString
    | '\\' :: _ =>
      let c := c.next
      match c.rest with
      | [] => c.fail .endInString
      | 'u' :: _ =>
        let (second, c) ← readFourHex c.next
        if isLowSurrogate second then
          .ok (Char.ofNat (0x10000 + (code - 0xd800) * 0x400 + (second - 0xdc00)), c)
        else c.fail .loneSurrogate
      | _ => c.failNext .unfinishedSurrogatePair
    | _ => c.failNext .unfinishedSurrogatePair

def simpleEscape? : Char → Option Char
  | '"' => some '"'
  | '\\' => some '\\'
  | '/' => some '/'
  | 'b' => some '\x08'
  | 'f' => some '\x0c'
  | 'n' => some '\n'
  | 'r' => some '\r'
  | 't' => some '\t'
  | _ => none

def readEscape (c : Cursor) : Except ReadError (Char × Cursor) :=
  match c.rest with
  | [] => c.fail .endInString
  | 'u' :: _ => readUnicodeEscape c.next
  | x :: _ =>
    match simpleEscape? x with
    | some y => .ok (y, c.next)
    | none => c.failNext .invalidEscape

/-- The rest of a string, its opening quote read; `found` holds its characters so far in reverse. -/
def readStringFrom : (fuel : Nat) → (found : List Char) → Cursor → Except ReadError (String × Cursor)
  | 0, _, c => c.fail .endInString
  | fuel + 1, found, c =>
    match c.rest with
    | [] => c.fail .endInString
    | '"' :: _ => .ok (String.ofList found.reverse, c.next)
    | '\\' :: _ => do
      let (x, c) ← readEscape c.next
      readStringFrom fuel (x :: found) c
    | x :: _ =>
      if x.toNat < 0x20 then c.failNext .controlCharacter
      else readStringFrom fuel (x :: found) c.next

/-- A string whose opening quote has been read. Each character takes one step. -/
def readString (c : Cursor) : Except ReadError (String × Cursor) := readStringFrom (c.rest.length + 1) [] c

def significandLimit : Nat := Nat.pow 2 64

/-- The largest power of ten that scales in one step. -/
def greatestScale : Nat := 308

/-- Divides by `10^308` until the exponent is in reach or nothing is left of the value. -/
def shrink : (steps : Nat) → Dyadic → Dyadic
  | 0, x => x
  | steps + 1, x =>
    if x.isZero then x
    else
      match (binary64.round false (Nat.pow 10 greatestScale) 1).bind (binary64.scaleDown x) with
      | some y => shrink steps y
      | none => x

/-- The float `significand * 10^exponent`, computed in steps that each round. -/
def scaled (negative : Bool) (significand : Nat) (exponent : Int) : Option Dyadic := do
  let value ← binary64.round negative significand 1
  if 0 ≤ exponent then
    if exponent ≤ greatestScale then
      let power ← binary64.round false (Nat.pow 10 exponent.toNat) 1
      binary64.scaleUp value power
    else if value.isZero then some value
    else none
  else
    let size := exponent.natAbs
    let steps := (size - 1) / greatestScale
    let value := shrink steps value
    if value.isZero then some value
    else
      let power ← binary64.round false (Nat.pow 10 (size - steps * greatestScale)) 1
      binary64.scaleDown value power

/-- The float, or the fault of a number beyond all floats. -/
def scaledAt (negative : Bool) (significand : Nat) (exponent : Int) (c : Cursor) : Except ReadError (Number × Cursor) :=
  match scaled negative significand exponent with
  | some value => .ok (.float value, c)
  | none => c.fail .numberOutOfRange

/-- Takes digits into the significand while they fit. Gives the significand, how many were taken
and the place behind them. -/
def gatherDigits : (significand count : Nat) → List Char → (offset : Nat) → Nat × Nat × Cursor
  | significand, count, [], offset => (significand, count, ⟨[], offset⟩)
  | significand, count, x :: rest, offset =>
    let next := significand * 10 + (x.toNat - '0'.toNat)
    if x.isDigit && next < significandLimit then gatherDigits next (count + 1) rest (offset + 1)
    else (significand, count, ⟨x :: rest, offset⟩)

def exponentLimit : Nat := Nat.pow 2 31

/-- Takes the digits of an exponent; nothing if they exceed the limit, with the place of the digit
that did. -/
def gatherExponent : (value : Nat) → List Char → (offset : Nat) → Option Nat × Cursor
  | value, [], offset => (some value, ⟨[], offset⟩)
  | value, x :: rest, offset =>
    if x.isDigit then
      let next := value * 10 + (x.toNat - '0'.toNat)
      if next < exponentLimit then gatherExponent next rest (offset + 1)
      else (none, ⟨rest, offset + 1⟩)
    else (some value, ⟨x :: rest, offset⟩)

/-- A sum held between the limits of exponents. -/
def saturate (exponent : Int) : Int :=
  max (-(exponentLimit : Int)) (min (exponentLimit - 1) exponent)

/-- The exponent of a number, from its mark on. -/
def readExponent (negative : Bool) (significand : Nat) (start : Int) (c : Cursor) :
    Except ReadError (Number × Cursor) :=
  let c := c.next
  let (down, c) := match c.rest with
    | '+' :: _ => (false, c.next)
    | '-' :: _ => (true, c.next)
    | _ => (false, c)
  match c.rest with
  | [] => c.fail .endInValue
  | x :: _ =>
    if x.isDigit then
      match gatherExponent 0 c.rest c.offset with
      | (some value, c) =>
        scaledAt negative significand (saturate (if down then start - value else start + value)) c
      | (none, c) =>
        if significand ≠ 0 ∧ ¬ down then c.fail .numberOutOfRange
        else .ok (.float (binary64.zero negative), c.skipDigits)
    else c.failNext .invalidNumber

/-- What follows the digits of a float: an exponent or nothing. -/
def readScale (negative : Bool) (significand : Nat) (exponent : Int) (c : Cursor) :
    Except ReadError (Number × Cursor) :=
  match c.rest with
  | 'e' :: _ | 'E' :: _ => readExponent negative significand exponent c
  | _ => scaledAt negative significand exponent c

/-- The digits behind the point, from the point on. At least one has to follow. -/
def readFraction (negative : Bool) (significand : Nat) (exponent : Int) (c : Cursor) :
    Except ReadError (Number × Cursor) :=
  let c := c.next
  let (found, count, c) := gatherDigits significand 0 c.rest c.offset
  match c.rest with
  | x :: _ =>
    if x.isDigit then readScale negative found (exponent - count) c.skipDigits
    else if count = 0 then c.failNext .invalidNumber
    else readScale negative found (exponent - count) c
  | [] => if count = 0 then c.fail .endInValue else readScale negative found (exponent - count) c

/-- The integer with these digits and sign, or the float if it has no integer. -/
def wholeNumber (negative : Bool) (significand : Nat) : Number :=
  if !negative then .int significand
  else if significand ≠ 0 ∧ significand ≤ Nat.pow 2 63 then .int (-significand)
  else .float ((binary64.round true significand 1).getD (binary64.zero true))

def readAfterWhole (negative : Bool) (significand : Nat) (c : Cursor) : Except ReadError (Number × Cursor) :=
  match c.rest with
  | '.' :: _ => readFraction negative significand 0 c
  | 'e' :: _ | 'E' :: _ => readExponent negative significand 0 c
  | _ => .ok (wholeNumber negative significand, c)

/-- What follows when the whole digits no longer fit: the rest of them only moves the point. -/
def readLongWhole (negative : Bool) (significand : Nat) (c : Cursor) : Except ReadError (Number × Cursor) :=
  let after := c.skipDigits
  let exponent : Int := (after.offset : Int) - c.offset
  match after.rest with
  | '.' :: _ => readFraction negative significand exponent after
  | _ => readScale negative significand exponent after

/-- A number, its sign read. -/
def readNumber (negative : Bool) (c : Cursor) : Except ReadError (Number × Cursor) :=
  match c.rest with
  | [] => c.fail .endInValue
  | '0' :: rest =>
    let after := c.next
    match rest with
    | x :: _ => if x.isDigit then after.failNext .invalidNumber else readAfterWhole negative 0 after
    | [] => readAfterWhole negative 0 after
  | x :: _ =>
    if x.isDigit then
      let (significand, _, after) := gatherDigits 0 0 c.rest c.offset
      match after.rest with
      | y :: _ =>
        if y.isDigit then readLongWhole negative significand after
        else readAfterWhole negative significand after
      | [] => readAfterWhole negative significand after
    else c.failNext .invalidNumber

end PageExtract.Json
