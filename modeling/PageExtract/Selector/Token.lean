import PageExtract.Number.Arithmetic
import PageExtract.Number.Decimal
import PageExtract.Markup.Reference

/-!
# Tokens of selectors

The text of a selector is split into the tokens of style sheets. Comments are dropped. A backslash
hides the meaning of the next character or gives a code point, and the null character is replaced.
Whatever is still open at the end of the text is closed there.
-/

namespace PageExtract.Selector

open Markup (replacement numberOf digitValue?)

/-- A number: whether it was written with a sign, its value in the 32-bit format, and its value as a
32-bit integer if it was written without point and exponent. -/
structure Numeral where
  signed : Bool
  value : BinaryNumber
  int : Option Int
deriving DecidableEq, Repr, Inhabited

inductive Token where
  | ident (name : String)
  | atKeyword (name : String)
  | hash (name : String)
  | idHash (name : String)
  | string (text : String)
  | url (text : String)
  | delim (c : Char)
  | number (n : Numeral)
  | percentage (n : Numeral)
  | dimension (n : Numeral) (unit : String)
  | space (text : String)
  | colon
  | semicolon
  | comma
  | includes
  | dashMatch
  | startsWith
  | endsWith
  | substring
  | commentOpen
  | commentClose
  | function (name : String)
  | parenthesis
  | square
  | curly
  | badUrl (text : String)
  | badString (text : String)
  | closeParenthesis
  | closeSquare
  | closeCurly
deriving DecidableEq, Repr, Inhabited

def isSpace (c : Char) : Bool := c == ' ' || c == '\t' || c == '\n' || c == '\r' || c == '\x0c'

def isNewline (c : Char) : Bool := c == '\n' || c == '\r' || c == '\x0c'

def startsNewline : List Char → Bool
  | c :: _ => isNewline c
  | [] => false

def startsDigit : List Char → Bool
  | c :: _ => c.isDigit
  | [] => false

/-- A character a name may begin with, apart from the dash and the backslash. -/
def isNameStart (c : Char) : Bool := c.isAlpha || c == '_' || c == '\x00' || 0x80 ≤ c.toNat

def isNameChar (c : Char) : Bool := isNameStart c || c.isDigit || c == '-'

/-- Whether the text begins with a name. Behind a dash a backslash counts whatever follows it. -/
def startsName : List Char → Bool
  | '-' :: '\\' :: _ => true
  | '-' :: c :: _ => isNameStart c || c == '-'
  | '\\' :: rest => !startsNewline rest
  | c :: _ => isNameStart c && c != '-'
  | [] => false

/-- Steps over one line break, the two characters of one counted together. -/
def dropNewline : List Char → List Char
  | '\r' :: '\n' :: rest => rest
  | _ :: rest => rest
  | [] => []

/-- The character that follows a backslash, and the text behind it. Up to six hexadecimal digits give
a code point, and one blank behind them does not count. -/
def readEscape (text : List Char) : Char × List Char :=
  match text with
  | [] => (replacement, [])
  | c :: rest =>
    if (digitValue? 16 c).isSome then
      let digits := (text.take 6).takeWhile fun d => (digitValue? 16 d).isSome
      let code := numberOf 16 digits
      let after := text.drop digits.length
      let after := match after with
        | d :: _ => if isSpace d then dropNewline after else after
        | [] => []
      let valid := code ≠ 0 ∧ code ≤ 0x10ffff ∧ ¬ (0xd800 ≤ code ∧ code ≤ 0xdfff)
      (if valid then Char.ofNat code else replacement, after)
    else if c = '\x00' then (replacement, rest)
    else (c, rest)

def readName : (fuel : Nat) → (found : List Char) → List Char → String × List Char
  | 0, found, text => (String.ofList found.reverse, text)
  | fuel + 1, found, text =>
    match text with
    | '\\' :: rest =>
      if startsNewline rest then (String.ofList found.reverse, text)
      else
        let (c, rest) := readEscape rest
        readName fuel (c :: found) rest
    | c :: rest =>
      if isNameChar c then readName fuel ((if c = '\x00' then replacement else c) :: found) rest
      else (String.ofList found.reverse, text)
    | [] => (String.ofList found.reverse, [])

/-- The name that a text begins with, and the text behind it. -/
def nameOf (text : List Char) : String × List Char := readName (text.length + 1) [] text

/-- A quoted string up to its quote, and the text behind it. A line break ends it as a bad one. -/
def readQuoted (quote : Char) : (fuel : Nat) → (found : List Char) → List Char → Token × List Char
  | 0, found, text => (.string (String.ofList found.reverse), text)
  | fuel + 1, found, text =>
    match text with
    | [] => (.string (String.ofList found.reverse), [])
    | '\\' :: [] => (.string (String.ofList found.reverse), [])
    | '\\' :: rest =>
      if startsNewline rest then readQuoted quote fuel found (dropNewline rest)
      else
        let (c, rest) := readEscape rest
        readQuoted quote fuel (c :: found) rest
    | c :: rest =>
      if c = quote then (.string (String.ofList found.reverse), rest)
      else if isNewline c then (.badString (String.ofList found.reverse), text)
      else readQuoted quote fuel ((if c = '\x00' then replacement else c) :: found) rest

/-- The text behind a comment, its opening read. -/
def dropComment : List Char → List Char
  | '*' :: '/' :: rest => rest
  | _ :: rest => dropComment rest
  | [] => []

/-- The greatest exponent that is told apart; beyond it every power of ten is out of range or zero. -/
def greatestExponent : Nat := 400

/-- The bounds of 32-bit integers. -/
def clampInt (n : Int) : Int := max (-2147483648) (min 2147483647 n)

def digitNumber (digit : Char) : BinaryNumber := binary64.ofNat (digit.toNat - '0'.toNat)

/-- The digits before the point as a number, rounded at each digit. -/
def wholeValue (digits : List Char) : BinaryNumber :=
  digits.foldl (fun value digit =>
    binary64.sum (binary64.product value (binary64.ofNat 10)) (digitNumber digit)) (binary64.ofNat 0)

/-- The digits behind the point as a number, rounded at each digit; the weight of a digit is the
rounded tenth of the one before. -/
def fractionValue (digits : List Char) : BinaryNumber :=
  let tenth := binary64.nearest false 1 10
  (digits.foldl (fun (value, weight) digit =>
    (binary64.sum value (binary64.product (digitNumber digit) weight), binary64.product weight tenth))
    (binary64.ofNat 0, tenth)).1

/-- A number in the 64-bit format, what it is as an integer, and the text behind it. The text begins
with a sign, a digit or a point. -/
def readNumeral (text : List Char) : Numeral × List Char :=
  let (signed, negative, text) := match text with
    | '-' :: rest => (true, true, rest)
    | '+' :: rest => (true, false, rest)
    | _ => (false, false, text)
  let whole := text.takeWhile Char.isDigit
  let text := text.drop whole.length
  let (fraction, text) := match text with
    | '.' :: rest =>
      let digits := rest.takeWhile Char.isDigit
      if digits.isEmpty then ([], text) else (digits, rest.drop digits.length)
    | _ => ([], text)
  let exponentOf (down : Bool) (rest : List Char) : Option (Int × List Char) :=
    let digits := rest.takeWhile Char.isDigit
    if digits.isEmpty then none
    else
      let size : Int := numberOf 10 digits
      some (if down then -size else size, rest.drop digits.length)
  let exponent := match text with
    | 'e' :: '-' :: rest | 'E' :: '-' :: rest => exponentOf true rest
    | 'e' :: '+' :: rest | 'E' :: '+' :: rest => exponentOf false rest
    | 'e' :: rest | 'E' :: rest => exponentOf false rest
    | _ => none
  let integer : Int := if negative then -(numberOf 10 whole : Int) else numberOf 10 whole
  let unsigned := binary64.sum (wholeValue whole) (fractionValue fraction)
  let plain := if negative then unsigned.negate else unsigned
  ({ signed
     value := match exponent with
      | some (exponent, _) => binary64.product plain (binary64.tenTo greatestExponent exponent)
      | none => plain
     int := if fraction.isEmpty && exponent.isNone then some (clampInt integer) else none },
    (exponent.map (·.2)).getD text)

/-- A number with its unit or percent sign, and the text behind it. -/
def readNumber (text : List Char) : Token × List Char :=
  let (n, rest) := readNumeral text
  let short : Numeral := { n with value := binary32.convert n.value }
  match rest with
  | '%' :: rest => (.percentage { n with value := binary32.convert (binary64.quotient n.value 100) }, rest)
  | _ =>
    if startsName rest then
      let (unit, rest) := nameOf rest
      (.dimension short unit, rest)
    else (.number short, rest)

/-- The text of an address that is no good up to its closing bracket, and the text behind it. -/
def readBadUrl : (fuel : Nat) → (found : List Char) → List Char → Token × List Char
  | 0, found, text => (.badUrl (String.ofList found.reverse), text)
  | fuel + 1, found, text =>
    match text with
    | [] => (.badUrl (String.ofList found.reverse), [])
    | ')' :: rest => (.badUrl (String.ofList found.reverse), rest)
    | '\\' :: ')' :: rest => readBadUrl fuel (')' :: '\\' :: found) rest
    | '\\' :: '\\' :: rest => readBadUrl fuel ('\\' :: '\\' :: found) rest
    | c :: rest => readBadUrl fuel (c :: found) rest

/-- A character that may not stand in an address without quotes. -/
def isForbiddenInUrl (c : Char) : Bool :=
  let n := c.toNat
  (1 ≤ n && n ≤ 8) || n == 0x0b || (0x0e ≤ n && n ≤ 0x1f) || n == 0x7f || c == '"' || c == '\'' || c == '('

/-- An address without quotes; `start` is its text from the first character on. What makes it no good
has been passed when the closing bracket is looked for. -/
def readBareUrl (start : List Char) : (fuel : Nat) → (found : List Char) → List Char → Token × List Char
  | 0, found, text => (.url (String.ofList found.reverse), text)
  | fuel + 1, found, text =>
    let bad (rest : List Char) : Token × List Char :=
      readBadUrl (rest.length + 1) (start.take (start.length - rest.length)).reverse rest
    match text with
    | [] => (.url (String.ofList found.reverse), [])
    | ')' :: rest => (.url (String.ofList found.reverse), rest)
    | '\\' :: rest =>
      if startsNewline rest then bad rest
      else
        let (c, rest) := readEscape rest
        readBareUrl start fuel (c :: found) rest
    | c :: rest =>
      if isSpace c then
        match rest.dropWhile isSpace with
        | [] => (.url (String.ofList found.reverse), [])
        | ')' :: rest => (.url (String.ofList found.reverse), rest)
        | _ :: rest => bad rest
      else if isForbiddenInUrl c then bad rest
      else readBareUrl start fuel ((if c = '\x00' then replacement else c) :: found) rest

/-- What follows the opening bracket of an address, unless it is quoted. -/
def readUrl? (text : List Char) : Option (Token × List Char) :=
  let text := text.dropWhile isSpace
  match text with
  | '"' :: _ | '\'' :: _ => none
  | [] => some (.url "", [])
  | ')' :: rest => some (.url "", rest)
  | _ => some (readBareUrl text (text.length + 1) [] text)

/-- A name, or a function if an opening bracket follows. -/
def readIdentLike (text : List Char) : Token × List Char :=
  let (name, rest) := nameOf text
  match rest with
  | '(' :: rest =>
    if name.map Char.toLower = "url" then (readUrl? rest).getD (.function name, rest)
    else (.function name, rest)
  | _ => (.ident name, rest)

/-- The token that a character stands for by itself. -/
def punctuation? : Char → Option Token
  | '(' => some .parenthesis
  | ')' => some .closeParenthesis
  | '[' => some .square
  | ']' => some .closeSquare
  | '\x7b' => some .curly
  | '\x7d' => some .closeCurly
  | ',' => some .comma
  | ':' => some .colon
  | ';' => some .semicolon
  | _ => none

/-- The token that a character stands for in front of an equals sign. -/
def comparison? : Char → Option Token
  | '$' => some .endsWith
  | '*' => some .substring
  | '^' => some .startsWith
  | '|' => some .dashMatch
  | '~' => some .includes
  | _ => none

/-- The next token and the text behind it, for a text that begins with `c` and goes on with `rest`.
A comment gives no token. -/
def readToken (c : Char) (rest : List Char) : Option Token × List Char :=
  let text := c :: rest
  let one (result : Token × List Char) : Option Token × List Char := (some result.1, result.2)
  let alone : Option Token × List Char := (some (.delim c), rest)
  let startsNumber := startsDigit rest || (match rest with
    | '.' :: more => startsDigit more
    | _ => false)
  match punctuation? c with
  | some token => (some token, rest)
  | none =>
    if isSpace c then
      let blanks := text.takeWhile isSpace
      (some (.space (String.ofList blanks)), text.drop blanks.length)
    else if c = '"' || c = '\'' then one (readQuoted c (text.length + 1) [] rest)
    else if c = '#' then
      if startsName rest then
        let (name, rest) := nameOf rest
        (some (.idHash name), rest)
      else
        match rest with
        | d :: _ =>
          if d.isDigit || d = '-' then
            let (name, rest) := nameOf rest
            (some (.hash name), rest)
          else alone
        | [] => alone
    else if c.isDigit then one (readNumber text)
    else if c = '+' then if startsNumber then one (readNumber text) else alone
    else if c = '.' then if startsDigit rest then one (readNumber text) else alone
    else if c = '-' then
      if startsNumber then one (readNumber text)
      else
        match rest with
        | '-' :: '>' :: rest => (some .commentClose, rest)
        | _ => if startsName text then one (readIdentLike text) else alone
    else if c = '/' then
      match rest with
      | '*' :: rest => (none, dropComment rest)
      | _ => alone
    else if c = '<' then
      match rest with
      | '!' :: '-' :: '-' :: rest => (some .commentOpen, rest)
      | _ => alone
    else if c = '@' then
      if startsName rest then
        let (name, rest) := nameOf rest
        (some (.atKeyword name), rest)
      else alone
    else if startsName text then one (readIdentLike text)
    else
      match comparison? c, rest with
      | some token, '=' :: rest => (some token, rest)
      | _, _ => alone

/-- The tokens of a text. Each takes a character. -/
def tokensOf : (fuel : Nat) → List Char → List Token
  | 0, _ => []
  | _, [] => []
  | fuel + 1, c :: rest =>
    match readToken c rest with
    | (some token, rest) => token :: tokensOf fuel rest
    | (none, rest) => tokensOf fuel rest

def tokenize (source : String) : List Token :=
  let text := source.toList
  tokensOf (text.length + 1) text

end PageExtract.Selector
