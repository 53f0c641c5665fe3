import PageExtract.Markup.Token

/-!
# Reading comments and document types

A comment ends at its closing dashes or with the page. Any other construct that begins like a
declaration, a processing instruction or a misspelt end tag is a comment up to the next closing
bracket. A document type that is cut short or misspelt is marked as broken.
-/

namespace PageExtract.Markup

/-- The text of a comment, its opening read, and what follows it. -/
def readCommentText : (found : List Char) → List Char → List Char × List Char
  | found, [] => (found.reverse, [])
  | found, '-' :: [] => (found.reverse, [])
  | found, '-' :: '-' :: [] => (found.reverse, [])
  | found, '-' :: '-' :: '!' :: [] => (found.reverse, [])
  | found, '-' :: '-' :: '>' :: rest => (found.reverse, rest)
  | found, '-' :: '-' :: '!' :: '>' :: rest => (found.reverse, rest)
  | found, c :: rest => readCommentText (visible c :: found) rest

/-- A comment, its opening read. A closing bracket at once or behind one dash ends it. -/
def readComment (text : List Char) : Token × List Char :=
  match text with
  | '>' :: rest => (.comment "", rest)
  | '-' :: '>' :: rest => (.comment "", rest)
  | _ =>
    let (found, rest) := readCommentText [] text
    (.comment (String.ofList found), rest)

/-- The text up to the next closing bracket as a comment. -/
def readBogusComment (text : List Char) : Token × List Char :=
  let found := text.takeWhile (· != '>')
  (.comment (String.ofList (found.map visible)), (text.drop found.length).drop 1)

def skipDoctype (d : Doctype) (text : List Char) : Doctype × List Char :=
  (d, (text.dropWhile (· != '>')).drop 1)

def Doctype.asBroken (d : Doctype) : Doctype := { d with broken := true }

/-- A quoted identifier: the text, whether its quote was found, and what follows. A closing bracket
ends it and the document type. -/
def readIdentifier (quote : Char) (text : List Char) : String × Bool × List Char :=
  let found := text.takeWhile fun c => c != quote && c != '>'
  let value := String.ofList (found.map visible)
  match text.drop found.length with
  | c :: rest => if c = quote then (value, true, rest) else (value, false, c :: rest)
  | [] => (value, false, [])

def startsQuote? : List Char → Option (Char × List Char)
  | '"' :: rest => some ('"', rest)
  | '\'' :: rest => some ('\'', rest)
  | _ => none

def readAfterSystem (d : Doctype) (text : List Char) : Doctype × List Char :=
  match text.dropWhile isSpace with
  | [] => (d.asBroken, [])
  | '>' :: rest => (d, rest)
  | rest => skipDoctype d rest

/-- The system identifier, its quote read. -/
def readSystem (d : Doctype) (quote : Char) (text : List Char) : Doctype × List Char :=
  let (value, closed, rest) := readIdentifier quote text
  let d := { d with systemId := some value }
  if closed then readAfterSystem d rest else skipDoctype d.asBroken rest

def readAfterPublic (d : Doctype) (text : List Char) : Doctype × List Char :=
  let text := text.dropWhile isSpace
  match startsQuote? text with
  | some (quote, rest) => readSystem d quote rest
  | none =>
    match text with
    | '>' :: rest => (d, rest)
    | _ => skipDoctype d.asBroken text

/-- The public identifier, its quote read. -/
def readPublic (d : Doctype) (quote : Char) (text : List Char) : Doctype × List Char :=
  let (value, closed, rest) := readIdentifier quote text
  let d := { d with publicId := some value }
  if closed then readAfterPublic d rest else skipDoctype d.asBroken rest

/-- The text behind a word, upper and lower case not told apart. -/
def afterWord? (word : String) (text : List Char) : Option (List Char) :=
  let head := text.take word.length
  if (String.ofList head).map Char.toLower = word then some (text.drop word.length) else none

def readAfterDoctypeName (d : Doctype) (text : List Char) : Doctype × List Char :=
  let text := text.dropWhile isSpace
  match text with
  | [] => (d.asBroken, [])
  | '>' :: rest => (d, rest)
  | _ =>
    match afterWord? "public" text, afterWord? "system" text with
    | some rest, _ =>
      match startsQuote? (rest.dropWhile isSpace) with
      | some (quote, rest) => readPublic d quote rest
      | none => skipDoctype d.asBroken (rest.dropWhile isSpace)
    | none, some rest =>
      match startsQuote? (rest.dropWhile isSpace) with
      | some (quote, rest) => readSystem d quote rest
      | none => skipDoctype d.asBroken (rest.dropWhile isSpace)
    | none, none => skipDoctype d.asBroken text

/-- A document type, its keyword read. -/
def readDoctype (text : List Char) : Token × List Char :=
  let text := text.dropWhile isSpace
  let name := text.takeWhile fun c => !isSpace c && c != '>'
  let after := text.drop name.length
  let (d, rest) :=
    if name.isEmpty then (({} : Doctype).asBroken, after.drop 1)
    else
      readAfterDoctypeName { name := some (String.ofList (name.map fun c => visible c.toLower)) } after
  (.doctype d, rest)

end PageExtract.Markup
