import PageExtract.Markup.EntityTable
import PageExtract.Text.Blank

/-!
# Character references

What an ampersand in text or in an attribute value stands for. A name is matched as far as some
entry goes; a name without its semicolon counts, except in an attribute value in front of an equals
sign or an alphanumeric character. A number beyond the code points, of a surrogate or of zero stands
for the replacement character, and numbers of control characters in the second block stand for what
a Western code page has there.
-/

namespace PageExtract.Markup

def replacement : Char := '\ufffd'

def digitValue? (base : Nat) (c : Char) : Option Nat :=
  let value :=
    if '0' ≤ c ∧ c ≤ '9' then c.toNat - '0'.toNat
    else if 'a' ≤ c ∧ c ≤ 'z' then c.toNat - 'a'.toNat + 10
    else if 'A' ≤ c ∧ c ≤ 'Z' then c.toNat - 'A'.toNat + 10
    else base
  if value < base then some value else none

/-- A number in the given base; other characters are passed over. -/
def numberOf (base : Nat) (digits : List Char) : Nat :=
  (digits.filterMap (digitValue? base)).foldl (fun n d => n * base + d) 0

/-- The name and the characters of an entry. -/
def entityOf (entry : List Char) : List Char × List Char :=
  let name := entry.takeWhile (· != ':')
  let codes := (String.ofList (entry.drop (name.length + 1))).splitOn ","
  (name, codes.map fun code => Char.ofNat (numberOf 16 code.toList))

def entities : Array (List Char × List Char) :=
  ((words entityEntries).map fun entry => entityOf entry.toList).toArray

/-- What is left behind a leading part, if the text begins with it. -/
def afterPart? : (part text : List Char) → Option (List Char)
  | [], text => some text
  | c :: part, d :: text => if c = d then afterPart? part text else none
  | _ :: _, [] => none

/-- The longest name that the text begins with, what it stands for and what follows it. -/
def longestEntity (text : List Char) : Option (List Char × List Char × List Char) :=
  entities.foldl (fun best (name, chars) =>
    match afterPart? name text with
    | none => best
    | some rest =>
      match best with
      | some (found, _, _) => if found.length < name.length then some (name, chars, rest) else best
      | none => some (name, chars, rest)) none

/-- Whether the character is a Latin letter or a decimal digit. -/
def isAsciiAlphanumeric (c : Char) : Bool := c.isAlphanum

/-- The characters that the numbers from 128 to 159 stand for; zero where there is none. -/
def secondControlBlock : List Nat := [
  0x20ac, 0, 0x201a, 0x192, 0x201e, 0x2026, 0x2020, 0x2021, 0x2c6, 0x2030, 0x160, 0x2039, 0x152, 0,
  0x17d, 0, 0, 0x2018, 0x2019, 0x201c, 0x201d, 0x2022, 0x2013, 0x2014, 0x2dc, 0x2122, 0x161, 0x203a,
  0x153, 0, 0x17e, 0x178]

def numberedChar (n : Nat) : Char :=
  if n = 0 ∨ 0x10ffff < n ∨ (0xd800 ≤ n ∧ n ≤ 0xdfff) then replacement
  else if 0x80 ≤ n ∧ n ≤ 0x9f then
    match secondControlBlock[n - 0x80]? with
    | some 0 | none => Char.ofNat n
    | some code => Char.ofNat code
  else Char.ofNat n

/-- What an ampersand stands for: the characters, whether a semicolon was missing behind a number,
and what follows. -/
structure ReferenceResult where
  chars : List Char
  unfinished : Bool
  rest : List Char

/-- The ampersand itself. -/
def ReferenceResult.literal (text : List Char) : ReferenceResult := ⟨['&'], false, text⟩

/-- A reference by number, from its first digit on; `text` follows the ampersand. -/
def readNumbered (base : Nat) (text digits : List Char) : ReferenceResult :=
  let number := digits.takeWhile fun c => (digitValue? base c).isSome
  if number.isEmpty then .literal text
  else
    let c := numberedChar (numberOf base number)
    match digits.drop number.length with
    | ';' :: rest => ⟨[c], false, rest⟩
    | rest => ⟨[c], true, rest⟩

/-- The reference at an ampersand; `text` follows it. -/
def readReference (inAttribute : Bool) (text : List Char) : ReferenceResult :=
  match text with
  | '#' :: 'x' :: digits | '#' :: 'X' :: digits => readNumbered 16 text digits
  | '#' :: digits => readNumbered 10 text digits
  | c :: _ =>
    if isAsciiAlphanumeric c then
      match longestEntity text with
      | none => .literal text
      | some (name, chars, rest) =>
        let unclosed := name.getLast? != some ';'
        let blocked := match rest with
          | d :: _ => d == '=' || isAsciiAlphanumeric d
          | [] => false
        if inAttribute && unclosed && blocked then .literal text else ⟨chars, false, rest⟩
    else .literal text
  | [] => .literal text

end PageExtract.Markup
