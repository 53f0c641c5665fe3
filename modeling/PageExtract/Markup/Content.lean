import PageExtract.Markup.Tag
import PageExtract.Markup.Declaration

/-!
# Reading a page token by token

How the next characters are read depends on the element they stand in: as markup, as text up to the
closing tag of that element, or as text to the end of the page. Inside a script, a comment with an
opening script tag in it hides the closing tag.

`scan` reads one construct. It always takes at least one character unless none is left.
-/

namespace PageExtract.Markup

/-- How far a script has gone into a comment: not, in a comment, or in a comment behind an opening
script tag; in a comment with the number of dashes just read, at most two. -/
inductive ScriptPart where
  | code
  | comment (dashes : Nat)
  | hidden (dashes : Nat)
deriving DecidableEq, Repr, Inhabited

/-- How the next characters are read. At the start of a page, and again behind a script, a byte order
mark that comes first does not count. -/
inductive Content where
  | start
  | markup
  | text (closing : String)
  | raw (closing : String)
  | script (closing : String) (part : ScriptPart)
  | plain
  | section
deriving DecidableEq, Repr, Inhabited

/-- The tokens of a construct, what follows it and how that is read. -/
structure Scanned where
  tokens : List Token
  rest : List Char
  content : Content

def ReferenceResult.tokens (reference : ReferenceResult) : List Token :=
  (if reference.unfinished then [.malformed] else []) ++ reference.chars.map .character

/-- A tag, or the end of a page that stops inside it. -/
def scanTag (kind : Tag → Token) (text : List Char) : List Token × List Char :=
  match readTag text with
  | some (tag, rest) => ([kind tag], rest)
  | none => ([.endOfFile], [])

/-- What follows the two characters that open an end tag. -/
def scanEndTag (text : List Char) : List Token × List Char :=
  match text with
  | [] => ([.character '<', .character '/'], [])
  | '>' :: rest => ([.malformed], rest)
  | c :: _ =>
    if isLetter c then scanTag .endTag text
    else
      let (token, rest) := readBogusComment text
      ([token], rest)

def sectionOpening : List Char := ['[', 'C', 'D', 'A', 'T', 'A', '[']

/-- What follows an exclamation mark behind an opening bracket. -/
def scanDeclaration (sections : Bool) (text : List Char) : Scanned :=
  match text with
  | '-' :: '-' :: rest =>
    let (token, rest) := readComment rest
    ⟨[token], rest, .markup⟩
  | _ =>
    match afterWord? "doctype" text with
    | some rest =>
      let (token, rest) := readDoctype rest
      ⟨[token], rest, .markup⟩
    | none =>
      match if sections then afterPart? sectionOpening text else none with
      | some rest => ⟨[], rest, .section⟩
      | none =>
        let (token, rest) := readBogusComment text
        ⟨[token], rest, .markup⟩

/-- What follows an opening bracket in markup. -/
def scanAngle (sections : Bool) (text : List Char) : Scanned :=
  match text with
  | '!' :: rest => scanDeclaration sections rest
  | '/' :: rest =>
    let (tokens, rest) := scanEndTag rest
    ⟨tokens, rest, .markup⟩
  | '?' :: _ =>
    let (token, rest) := readBogusComment text
    ⟨[token], rest, .markup⟩
  | c :: _ =>
    if isLetter c then
      let (tokens, rest) := scanTag .startTag text
      ⟨tokens, rest, .markup⟩
    else ⟨[.malformed, .character '<'], text, .markup⟩
  | [] => ⟨[.character '<'], [], .markup⟩

/-- Whether the text, which follows the opening of an end tag, names the element to be closed. -/
def closes (closing : String) (text : List Char) : Bool :=
  let name := text.takeWhile isLetter
  (String.ofList name).map Char.toLower == closing &&
    match text.drop name.length with
    | c :: _ => endsTagName c
    | [] => false

/-- The closing tag at an opening bracket, if it is there. -/
def closingTag? (closing : String) (text : List Char) : Option Scanned :=
  match text with
  | '<' :: '/' :: rest =>
    if closes closing rest then
      let (tokens, rest) := scanTag .endTag rest
      some ⟨tokens, rest, .markup⟩
    else none
  | _ => none

/-- The part of a script that a run of letters behind an opening bracket leads to, when something
that ends a name follows: it changes if the letters spell the name of the element. -/
def afterLetters (letters : List Char) (spelt other : ScriptPart) : ScriptPart :=
  if (String.ofList letters).map Char.toLower = "script" then spelt else other

/-- The part that a character leads to: dashes count up to two, and a closing bracket behind two
ends the comment. -/
def nextPart (inside : Nat → ScriptPart) (dashes : Nat) (c : Char) : ScriptPart :=
  if c = '-' then inside (min 2 (dashes + 1))
  else if c = '>' ∧ dashes = 2 then .code
  else inside 0

/-- Letters as characters of the page, with the character behind them if it ends a name. -/
def scanLetters (opening : List Char) (text : List Char) (spelt other : ScriptPart) :
    List Token × List Char × ScriptPart :=
  let letters := text.takeWhile isLetter
  let shown := (opening ++ letters).map Token.character
  match text.drop letters.length with
  | c :: rest =>
    if endsTagName c then (shown ++ [.character c], rest, afterLetters letters spelt other)
    else (shown, c :: rest, other)
  | [] => (shown, [], other)

/-- A step inside a script that does not close it. -/
def scanScript (part : ScriptPart) (c : Char) (rest : List Char) : List Token × List Char × ScriptPart :=
  match part with
  | .code =>
    match c, rest with
    | '<', '!' :: '-' :: '-' :: rest =>
      (['<', '!', '-', '-'].map .character, rest, .comment 2)
    | _, _ => ([.character (visible c)], rest, .code)
  | .comment dashes =>
    match c, rest with
    | '<', d :: _ =>
      if isLetter d then scanLetters ['<'] rest (.hidden 0) (.comment 0)
      else ([.character '<'], rest, .comment 0)
    | _, _ => ([.character (visible c)], rest, nextPart .comment dashes c)
  | .hidden dashes =>
    match c, rest with
    | '<', '/' :: rest => scanLetters ['<', '/'] rest (.comment 0) (.hidden 0)
    | _, _ => ([.character (visible c)], rest, nextPart .hidden dashes c)

def scanMarkup (sections : Bool) (c : Char) (rest : List Char) : Scanned :=
  if c = '<' then scanAngle sections rest
  else if c = '&' then
    let reference := readReference false rest
    ⟨reference.tokens, reference.rest, .markup⟩
  else if c = '\x00' then ⟨[.null], rest, .markup⟩
  else ⟨[.character c], rest, .markup⟩

def scan (sections : Bool) (content : Content) (text : List Char) : Scanned :=
  match text with
  | [] => ⟨[.endOfFile], [], content⟩
  | c :: rest =>
    match content with
    | .start => if c = '\ufeff' then ⟨[], rest, .markup⟩ else scanMarkup sections c rest
    | .markup => scanMarkup sections c rest
    | .text closing =>
      match closingTag? closing text with
      | some scanned => scanned
      | none =>
        if c = '&' then
          let reference := readReference false rest
          ⟨reference.tokens, reference.rest, content⟩
        else ⟨[.character (visible c)], rest, content⟩
    | .raw closing =>
      match closingTag? closing text with
      | some scanned => scanned
      | none => ⟨[.character (visible c)], rest, content⟩
    | .script closing part =>
      let hidden := match part with
        | .hidden _ => true
        | _ => false
      match if hidden then none else closingTag? closing text with
      | some scanned => scanned
      | none =>
        let (tokens, rest, part) := scanScript part c rest
        ⟨tokens, rest, .script closing part⟩
    | .plain => ⟨[.character (visible c)], rest, .plain⟩
    | .section =>
      match text with
      | ']' :: ']' :: '>' :: rest => ⟨[], rest, .markup⟩
      | _ => ⟨[if c = '\x00' then .null else .character c], rest, .section⟩

end PageExtract.Markup
