import PageExtract.Markup.Reference

/-!
# Tokens of markup

A page is a sequence of characters, tags, comments and document types. A null character is a token of
its own, and so is the notice of a malformed construct that leaves nothing else behind: both end the
place right behind a start tag where a line break does not count.
-/

namespace PageExtract.Markup

/-- A tag: its name in lower case and its attributes in the order written, each name once. -/
structure Tag where
  name : String
  attributes : List (String × String)
  selfClosing : Bool
deriving DecidableEq, Repr, Inhabited

structure Doctype where
  name : Option String := none
  publicId : Option String := none
  systemId : Option String := none
  broken : Bool := false
deriving DecidableEq, Repr, Inhabited

inductive Token where
  | character (c : Char)
  | null
  | startTag (tag : Tag)
  | endTag (tag : Tag)
  | comment (text : String)
  | doctype (d : Doctype)
  | malformed
  | endOfFile
deriving DecidableEq, Repr, Inhabited

/-- The blanks of markup. -/
def isSpace (c : Char) : Bool :=
  c == ' ' || c == '\t' || c == '\n' || c == '\x0c' || c == '\r'

def isLetter (c : Char) : Bool := c.isAlpha

/-- A character with the null character replaced. -/
def visible (c : Char) : Char := if c = '\x00' then replacement else c

/-- Line breaks of all three kinds become a line feed. -/
def normalizeLines : List Char → List Char
  | '\r' :: '\n' :: rest => '\n' :: normalizeLines rest
  | '\r' :: rest => '\n' :: normalizeLines rest
  | c :: rest => c :: normalizeLines rest
  | [] => []

def pageChars (source : String) : List Char := normalizeLines source.toList

end PageExtract.Markup
