/-!
# What is wrong with a JSON text

A fault says what was met, a `ReadError` also how far reading had come. The place is kept as a
number of bytes and turned into a line and a column only for the message.
-/

namespace PageExtract.Json

inductive Fault where
  | endInValue
  | endInString
  | endInList
  | endInObject
  | expectedValue
  | expectedIdent
  | expectedColon
  | expectedCommaOrBracket
  | expectedCommaOrBrace
  | keyMustBeString
  | trailingComma
  | trailingCharacters
  | invalidNumber
  | numberOutOfRange
  | invalidEscape
  | controlCharacter
  | loneSurrogate
  | unfinishedSurrogatePair
  | nestedTooDeep
  | missingField (name : String)
  | duplicateField (name : String)
  | unknownVariant (name : String) (known : List String)
  | invalidType (found expected : String)
  | invalidLength (length : Nat) (expected : String)
deriving DecidableEq, Repr

/-- Names in backquotes with "or" before the last of two. -/
def Fault.alternatives (names : List String) : String :=
  " or ".intercalate (names.map fun name => "`" ++ name ++ "`")

/-- The wording of a fault, without its place. -/
def Fault.text : Fault → String
  | .endInValue => "EOF while parsing a value"
  | .endInString => "EOF while parsing a string"
  | .endInList => "EOF while parsing a list"
  | .endInObject => "EOF while parsing an object"
  | .expectedValue => "expected value"
  | .expectedIdent => "expected ident"
  | .expectedColon => "expected `:`"
  | .expectedCommaOrBracket => "expected `,` or `]`"
  | .expectedCommaOrBrace => "expected `,` or `\x7d`"
  | .keyMustBeString => "key must be a string"
  | .trailingComma => "trailing comma"
  | .trailingCharacters => "trailing characters"
  | .invalidNumber => "invalid number"
  | .numberOutOfRange => "number out of range"
  | .invalidEscape => "invalid escape"
  | .controlCharacter => "control character (\\u0000-\\u001F) found while parsing a string"
  | .loneSurrogate => "lone leading surrogate in hex escape"
  | .unfinishedSurrogatePair => "unexpected end of hex escape"
  | .nestedTooDeep => "recursion limit exceeded"
  | .missingField name => "missing field `" ++ name ++ "`"
  | .duplicateField name => "duplicate field `" ++ name ++ "`"
  | .unknownVariant name known => "unknown variant `" ++ name ++ "`, expected " ++ alternatives known
  | .invalidType found expected => "invalid type: " ++ found ++ ", expected " ++ expected
  | .invalidLength length expected => "invalid length " ++ toString length ++ ", expected " ++ expected

/-- A fault and the number of bytes that had been read when it was noticed. -/
structure ReadError where
  fault : Fault
  offset : Nat
deriving DecidableEq, Repr

/-- The number of the line and of the byte in it, after the given number of bytes. A byte inside a
character counts for the column. -/
def position : List Char → (offset line column : Nat) → Nat × Nat
  | [], _, line, column => (line, column)
  | c :: rest, offset, line, column =>
    let size := c.utf8Size
    if offset < size then (line, column + offset)
    else if c = '\n' then position rest (offset - size) (line + 1) 0
    else position rest (offset - size) line (column + size)

def ReadError.message (e : ReadError) (source : String) : String :=
  let (line, column) := position source.toList e.offset 1 0
  e.fault.text ++ " at line " ++ toString line ++ " column " ++ toString column

end PageExtract.Json
