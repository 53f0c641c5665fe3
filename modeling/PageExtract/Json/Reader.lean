import PageExtract.Json.Literal

/-!
# Reading JSON values

A value may hold lists and objects nested up to a depth; a text is a value with nothing but blanks
around it. Of members with one key the last value counts, at the place of the first. A value can
also be passed over unread: then its depth and the size of its numbers do not matter, and some
faults have another name.
-/

namespace PageExtract.Json

/-- How deep lists and objects may be nested, the outermost counted as one. -/
def greatestDepth : Nat := 128

/-- The place of the next item of a list, or the place of the closing bracket. -/
def nextItem (first : Bool) (c : Cursor) : Except ReadError (Bool × Cursor) :=
  let c := c.skipBlanks
  match c.rest with
  | [] => c.failNext .endInList
  | ']' :: _ => .ok (false, c)
  | x :: _ =>
    if first then .ok (true, c)
    else if x = ',' then
      let c := c.next.skipBlanks
      match c.rest with
      | [] => c.failNext .endInValue
      | ']' :: _ => c.failNext .trailingComma
      | _ => .ok (true, c)
    else c.failNext .expectedCommaOrBracket

/-- The next key of an object and the place behind it, or the place of the closing brace. -/
def nextKey (first : Bool) (c : Cursor) : Except ReadError (Option String × Cursor) :=
  let c := c.skipBlanks
  let key (c : Cursor) : Except ReadError (Option String × Cursor) := do
    let (key, c) ← readString c.next
    return (some key, c)
  match c.rest with
  | [] => c.failNext .endInObject
  | '\x7d' :: _ => .ok (none, c)
  | x :: _ =>
    if first then
      if x = '"' then key c else c.failNext .keyMustBeString
    else if x = ',' then
      let c := c.next.skipBlanks
      match c.rest with
      | [] => c.failNext .endInValue
      | '"' :: _ => key c
      | '\x7d' :: _ => c.failNext .trailingComma
      | _ => c.failNext .keyMustBeString
    else c.failNext .expectedCommaOrBrace

def readColon (c : Cursor) : Except ReadError Cursor :=
  let c := c.skipBlanks
  match c.rest with
  | [] => c.failNext .endInObject
  | ':' :: _ => .ok c.next
  | _ => c.failNext .expectedColon

/-- The items of a list up to and with the closing bracket, each read by `item`. -/
def readItems (item : Cursor → Except ReadError (Json × Cursor)) :
    (fuel : Nat) → (found : List Json) → Cursor → Except ReadError (Json × Cursor)
  | 0, _, c => c.fail .endInList
  | fuel + 1, found, c => do
    let (more, c) ← nextItem found.isEmpty c
    if more then
      let (value, c) ← item c
      readItems item fuel (value :: found) c
    else return (.array found.reverse, c.next)

/-- The members of an object up to and with the closing brace, each value read by `item`. -/
def readMembers (item : Cursor → Except ReadError (Json × Cursor)) :
    (fuel : Nat) → (found : List (String × Json)) → Cursor → Except ReadError (Json × Cursor)
  | 0, _, c => c.fail .endInObject
  | fuel + 1, found, c => do
    let (key, c) ← nextKey found.isEmpty c
    match key with
    | none => return (.object (Keyed.ofEntries found.reverse), c.next)
    | some key =>
      let c ← readColon c
      let (value, c) ← item c
      readMembers item fuel ((key, value) :: found) c

/-- A value in which lists and objects are nested less deep than `depth`. -/
def readValue : (depth : Nat) → Cursor → Except ReadError (Json × Cursor)
  | 0, c => c.failNext .nestedTooDeep
  | depth + 1, c =>
    let c := c.skipBlanks
    match c.rest with
    | [] => c.failNext .endInValue
    | 'n' :: _ => do
      let c ← c.next.readWord ['u', 'l', 'l']
      return (.null, c)
    | 't' :: _ => do
      let c ← c.next.readWord ['r', 'u', 'e']
      return (.bool true, c)
    | 'f' :: _ => do
      let c ← c.next.readWord ['a', 'l', 's', 'e']
      return (.bool false, c)
    | '"' :: _ => do
      let (value, c) ← readString c.next
      return (.string value, c)
    | '-' :: _ => do
      let (value, c) ← readNumber true c.next
      return (.number value, c)
    | '[' :: _ =>
      if depth = 0 then c.failNext .nestedTooDeep
      else readItems (readValue depth) (c.rest.length + 1) [] c.next
    | '\x7b' :: _ =>
      if depth = 0 then c.failNext .nestedTooDeep
      else readMembers (readValue depth) (c.rest.length + 1) [] c.next
    | x :: _ =>
      if x.isDigit then do
        let (value, c) ← readNumber false c
        return (.number value, c)
      else c.failNext .expectedValue

/-- A text of which nothing is left but blanks. -/
def readEnd (c : Cursor) : Except ReadError Unit :=
  let c := c.skipBlanks
  if c.rest.isEmpty then .ok () else c.failNext .trailingCharacters

def parse (source : String) : Except ReadError Json := do
  let (value, c) ← readValue greatestDepth (Cursor.start source)
  readEnd c
  return value

/-- Passes over four hexadecimal digits or a letter behind a backslash. -/
def skipEscape (c : Cursor) : Except ReadError Cursor :=
  match c.rest with
  | [] => c.fail .endInString
  | 'u' :: _ => (readFourHex c.next).map (·.2)
  | x :: _ => if (simpleEscape? x).isSome then .ok c.next else c.failNext .invalidEscape

def skipString : (fuel : Nat) → Cursor → Except ReadError Cursor
  | 0, c => c.fail .endInString
  | fuel + 1, c =>
    match c.rest with
    | [] => c.fail .endInString
    | '"' :: _ => .ok c.next
    | '\\' :: _ => do skipString fuel (← skipEscape c.next)
    | x :: _ => if x.toNat < 0x20 then c.fail .controlCharacter else skipString fuel c.next

def skipExponent (c : Cursor) : Except ReadError Cursor :=
  let c := c.next
  let c := match c.rest with
    | '+' :: _ | '-' :: _ => c.next
    | _ => c
  match c.rest with
  | [] => c.fail .invalidNumber
  | x :: _ => if x.isDigit then .ok c.skipDigits else c.failNext .invalidNumber

def skipAfterWhole (c : Cursor) : Except ReadError Cursor :=
  match c.rest with
  | '.' :: _ =>
    let after := c.next.skipDigits
    if after.offset = c.offset + 1 then after.failNext .invalidNumber
    else
      match after.rest with
      | 'e' :: _ | 'E' :: _ => skipExponent after
      | _ => .ok after
  | 'e' :: _ | 'E' :: _ => skipExponent c
  | _ => .ok c

def skipNumber (c : Cursor) : Except ReadError Cursor :=
  match c.rest with
  | [] => c.fail .invalidNumber
  | '0' :: x :: _ => if x.isDigit then c.next.failNext .invalidNumber else skipAfterWhole c.next
  | x :: _ => if x.isDigit then skipAfterWhole c.skipDigits else c.failNext .invalidNumber

inductive Enclosure where
  | list
  | object
deriving DecidableEq, Repr

namespace Enclosure

def closing : Enclosure → Char
  | .list => ']'
  | .object => '\x7d'

def unclosed : Enclosure → Fault
  | .list => .endInList
  | .object => .endInObject

/-- The fault of an item that is followed neither by a comma nor by the closing bracket. -/
def unseparated : Enclosure → Fault
  | .list => .expectedCommaOrBracket
  | .object => .expectedCommaOrBrace

end Enclosure

def skipKey (c : Cursor) : Except ReadError Cursor := do
  let c := c.skipBlanks
  match c.rest with
  | [] => c.failNext .endInObject
  | '"' :: _ =>
    let c ← skipString (c.rest.length + 1) c.next
    readColon c
  | _ => c.failNext .keyMustBeString

/-- Passes over the items of a list or the members of an object up to and with the closing bracket. -/
def skipItems (kind : Enclosure) (item : Cursor → Except ReadError Cursor) :
    (fuel : Nat) → (first : Bool) → Cursor → Except ReadError Cursor
  | 0, _, c => c.fail kind.unclosed
  | fuel + 1, first, c =>
    let c := c.skipBlanks
    let entry (c : Cursor) : Except ReadError Cursor := do
      let c ← if kind = .object then skipKey c else .ok c
      let c ← item c
      skipItems kind item fuel false c
    match c.rest with
    | [] => c.failNext kind.unclosed
    | x :: _ =>
      if x = ',' ∧ ¬ first then entry c.next
      else if x = kind.closing then .ok c.next
      else if first then entry c
      else c.failNext kind.unseparated

/-- Passes over a value of any depth. -/
def skipValue : (fuel : Nat) → Cursor → Except ReadError Cursor
  | 0, c => c.failNext .endInValue
  | fuel + 1, c =>
    let c := c.skipBlanks
    match c.rest with
    | [] => c.failNext .endInValue
    | 'n' :: _ => c.next.readWord ['u', 'l', 'l']
    | 't' :: _ => c.next.readWord ['r', 'u', 'e']
    | 'f' :: _ => c.next.readWord ['a', 'l', 's', 'e']
    | '"' :: _ => skipString (c.rest.length + 1) c.next
    | '-' :: _ => skipNumber c.next
    | '[' :: _ => skipItems .list (skipValue fuel) (c.rest.length + 1) true c.next
    | '\x7b' :: _ => skipItems .object (skipValue fuel) (c.rest.length + 1) true c.next
    | x :: _ => if x.isDigit then skipNumber c else c.failNext .expectedValue

end PageExtract.Json
