import PageExtract.Markup.Token

/-!
# Reading tags

A tag is read from its name to its closing bracket. An end of the page inside a tag drops the tag.
Of attributes with one name the first counts.
-/

namespace PageExtract.Markup

/-- A character of a name: Latin letters become lower case. -/
def nameChar (c : Char) : Char := visible c.toLower

/-- Adds an attribute unless its name is there. -/
def addAttribute (name value : List Char) (found : List (String × String)) : List (String × String) :=
  let name := String.ofList name
  if found.any (·.1 == name) then found else found ++ [(name, String.ofList value)]

/-- A quoted value up to its quote, and what follows the quote. -/
def readQuotedValue (quote : Char) : (fuel : Nat) → (found : List Char) → List Char → Option (List Char × List Char)
  | 0, _, _ => none
  | _, _, [] => none
  | fuel + 1, found, c :: rest =>
    if c = quote then some (found.reverse, rest)
    else if c = '&' then
      let reference := readReference true rest
      readQuotedValue quote fuel (reference.chars.reverse ++ found) reference.rest
    else readQuotedValue quote fuel (visible c :: found) rest

/-- An unquoted value up to a blank or the closing bracket, which stay. -/
def readBareValue : (fuel : Nat) → (found : List Char) → List Char → Option (List Char × List Char)
  | 0, _, _ => none
  | _, _, [] => none
  | fuel + 1, found, c :: rest =>
    if isSpace c || c == '>' then some (found.reverse, c :: rest)
    else if c = '&' then
      let reference := readReference true rest
      readBareValue fuel (reference.chars.reverse ++ found) reference.rest
    else readBareValue fuel (visible c :: found) rest

def readValue (text : List Char) : Option (List Char × List Char) :=
  let text := text.dropWhile isSpace
  match text with
  | '"' :: rest => readQuotedValue '"' (rest.length + 1) [] rest
  | '\'' :: rest => readQuotedValue '\'' (rest.length + 1) [] rest
  | '>' :: _ => some ([], text)
  | _ => readBareValue (text.length + 1) [] text

def endsAttributeName (c : Char) : Bool := isSpace c || c == '/' || c == '>' || c == '='

/-- An attribute from the first character of its name on, which may be an equals sign. -/
def readAttribute (first : Char) (rest : List Char) : Option (List Char × List Char × List Char) :=
  let tail := rest.takeWhile fun c => !endsAttributeName c
  let name := nameChar first :: tail.map nameChar
  let after := rest.drop tail.length
  match after.dropWhile isSpace with
  | '=' :: rest => do
    let (value, rest) ← readValue rest
    return (name, value, rest)
  | rest => some (name, [], rest)

/-- The attributes, whether the tag closes itself, and what follows the tag. -/
def readAttributes : (fuel : Nat) → (found : List (String × String)) → List Char →
    Option (List (String × String) × Bool × List Char)
  | 0, _, _ => none
  | fuel + 1, found, text =>
    match text with
    | [] => none
    | '>' :: rest => some (found, false, rest)
    | '/' :: '>' :: rest => some (found, true, rest)
    | '/' :: rest => readAttributes fuel found rest
    | c :: rest =>
      if isSpace c then readAttributes fuel found rest
      else
        match readAttribute c rest with
        | none => none
        | some (name, value, rest) => readAttributes fuel (addAttribute name value found) rest

def endsTagName (c : Char) : Bool := isSpace c || c == '/' || c == '>'

/-- A tag from the first letter of its name on, and what follows it. -/
def readTag (text : List Char) : Option (Tag × List Char) :=
  let name := text.takeWhile fun c => !endsTagName c
  match readAttributes (text.length + 1) [] (text.drop name.length) with
  | none => none
  | some (attributes, selfClosing, rest) =>
    some (⟨String.ofList (name.map nameChar), attributes, selfClosing⟩, rest)

end PageExtract.Markup
