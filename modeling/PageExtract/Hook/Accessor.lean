import PageExtract.Hook.Basic
import PageExtract.Text.Blank

/-!
# Accessors

An accessor is a sanitizer written as its name: `text`, `html`, `inner_html` and `attr:NAME` say what
to take of an element, `parent.` and `children.N.` before them from where. What is not there gives
null.
-/

namespace PageExtract

inductive Accessor where
  | text
  | outerMarkup
  | innerMarkup
  | attribute (name : List Char)
  | parent (inner : Accessor)
  | child (index : Nat) (inner : Accessor)
deriving DecidableEq, Repr, Inhabited

namespace Accessor

def partsOf : List Char → List (List Char)
  | [] => [[]]
  | '.' :: rest => [] :: partsOf rest
  | c :: rest =>
    match partsOf rest with
    | part :: parts => (c :: part) :: parts
    | [] => [[c]]

def digitsValue (digits : List Char) : Nat :=
  digits.foldl (fun n c => n * 10 + (c.toNat - '0'.toNat)) 0

def indexBound : Nat := Nat.pow 2 64

/-- The index that a part of a name stands for: digits, with or without a plus sign before them. -/
def indexOf? (part : List Char) : Option Nat :=
  let digits := match part with
    | '+' :: rest => rest
    | part => part
  if !digits.isEmpty && digits.all Char.isDigit && digitsValue digits < indexBound then
    some (digitsValue digits)
  else none

def attributeMark : List Char := ['a', 't', 't', 'r', ':']

/-- An attribute accessor; its name goes to the end and may hold points. -/
def attributeOf? (text : List Char) : Option Accessor :=
  if attributeMark.isPrefixOf text && attributeMark.length < text.length then
    some (.attribute (text.drop attributeMark.length))
  else none

/-- An accessor without a step before it. -/
def plainOf? (text : List Char) : Option Accessor :=
  if text = "text".toList then some .text
  else if text = "html".toList then some .outerMarkup
  else if text = "inner_html".toList then some .innerMarkup
  else attributeOf? text

def ofParts? : List (List Char) → Option Accessor
  | [] => none
  | [part] => plainOf? part
  | part :: next :: rest =>
    if part = "parent".toList then (ofParts? (next :: rest)).map .parent
    else if part = "children".toList then
      match indexOf? next with
      | some index => (ofParts? rest).map (.child index)
      | none => none
    else attributeOf? (['.'].intercalate (part :: next :: rest))

def parse (name : String) : Option Accessor := ofParts? (partsOf name.toList)

/-- The name of an accessor, indices in plain digits. -/
def nameChars : Accessor → List Char
  | .text => "text".toList
  | .outerMarkup => "html".toList
  | .innerMarkup => "inner_html".toList
  | .attribute name => attributeMark ++ name
  | .parent inner => "parent.".toList ++ inner.nameChars
  | .child index inner => "children.".toList ++ Nat.toDigits 10 index ++ '.' :: inner.nameChars

def value : Accessor → PageElement → Json
  | .text, e => .string (trim e.text)
  | .outerMarkup, e => .string e.outerMarkup
  | .innerMarkup, e => .string e.innerMarkup
  | .attribute name, e =>
    match e.attribute? (String.ofList name) with
    | some value => .string value
    | none => .null
  | .parent inner, e =>
    match e.parent? with
    | some above => inner.value above
    | none => .null
  | .child index inner, e =>
    match e.children[index]? with
    | some below => inner.value below
    | none => .null

/-- The sanitizer that an accessor stands for; it never fails. -/
def sanitizer (accessor : Accessor) : Sanitizer := ⟨none, fun element _ => .ok (accessor.value element)⟩

end Accessor

end PageExtract
