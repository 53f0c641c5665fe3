import PageExtract.Selector.Token
import PageExtract.Text.Quoted

/-!
# What is wrong with a selector

The causes, and the wording of each. Some messages show a token as it is written, others as a tree of
its parts.
-/

namespace PageExtract.Selector

inductive Fault where
  | unexpectedEnd
  | unexpectedToken (token : Token)
  | expectedPseudoName (token : Token)
  | emptySelector
  | danglingCombinator
  | invalidState
  | unsupportedPseudo (name : String)
  | classNeedsIdent (token : Token)
  | badAttributeValue (token : Token)
  | noAttributeName (token : Token)
  | unexpectedInAttribute (token : Token)
  | unknownNamespace (name : String)
  | unexpectedBehindNamespace (token : Token)
  | expectedBar (token : Token)
  | invalidAttributeName (token : Token)
deriving DecidableEq, Repr

/-- The digits of a value in the 32-bit format, positional, without a point if there is nothing behind
it. -/
def valueText (value : BinaryNumber) : String :=
  match value with
  | .undefined => "NaN"
  | .infinite negative => if negative then "-inf" else "inf"
  | .finite x =>
    let sign := if x.negative then "-" else ""
    if x.isZero then sign ++ "0"
    else
      let (before, after) := (binary32.shortest x).positional
      sign ++ String.ofList before ++ (if after = ['0'] then "" else "." ++ String.ofList after)

/-- The digits of a value in the 32-bit format with at least one behind the point, with an exponent
from `10^16` on and below `10^-4`. -/
def valueDump (value : BinaryNumber) : String :=
  match value with
  | .undefined => "NaN"
  | .infinite negative => if negative then "-inf" else "inf"
  | .finite x =>
    let sign := if x.negative then "-" else ""
    if x.isZero then sign ++ "0.0"
    else
      let d := binary32.shortest x
      if -4 ≤ d.exponent ∧ d.exponent < 16 then
        let (before, after) := d.positional
        sign ++ String.ofList before ++ "." ++ String.ofList after
      else
        let tail := d.digits.drop 1
        sign ++ String.ofList (d.digits.take 1)
          ++ (if tail.isEmpty then "" else "." ++ String.ofList tail) ++ "e" ++ toString d.exponent

/-- A number as it is shown: one written with a sign gets a sign in front. -/
def Numeral.shown (n : Numeral) : String :=
  let text := valueText n.value
  if n.signed then (if n.value.isPositive then "+" else "-") ++ text else text

def Token.shown : Token → String
  | .ident name => name
  | .atKeyword name => "@" ++ name
  | .hash name => "#" ++ name
  | .idHash name => "#" ++ name
  | .string text => "\"" ++ text ++ "\""
  | .url text => text
  | .delim c => c.toString
  | .number n => n.shown
  | .percentage n => n.shown ++ "%"
  | .dimension n unit => n.shown ++ unit
  | .space _ => " "
  | .colon => ":"
  | .semicolon => ";"
  | .comma => ","
  | .includes => "~="
  | .dashMatch => "|="
  | .startsWith => "^="
  | .endsWith => "$="
  | .substring => "*="
  | .commentOpen => "<!--"
  | .commentClose => "-->"
  | .function name => name ++ "()"
  | .parenthesis => "<("
  | .square => "<["
  | .curly => "<\x7b"
  | .badUrl text => "<Bad URL " ++ quoted text ++ ">"
  | .badString text => "<Bad String " ++ quoted text ++ ">"
  | .closeParenthesis => "<)"
  | .closeSquare => "<]"
  | .closeCurly => "<\x7d"

/-- A name with its parts in parentheses, one a line. -/
def dumpParts (indent name : String) (parts : List String) : String :=
  name ++ "(\n" ++ String.join (parts.map fun part => indent ++ "    " ++ part ++ ",\n") ++ indent ++ ")"

/-- A name with named parts in braces, one a line. -/
def dumpFields (indent name : String) (fields : List (String × String)) : String :=
  name ++ " \x7b\n"
    ++ String.join (fields.map fun (label, value) => indent ++ "    " ++ label ++ ": " ++ value ++ ",\n")
    ++ indent ++ "\x7d"

def Numeral.dumpFields (indent valueLabel : String) (n : Numeral) : List (String × String) :=
  [("has_sign", if n.signed then "true" else "false"), (valueLabel, valueDump n.value),
    ("int_value", match n.int with
      | some i => dumpParts (indent ++ "    ") "Some" [toString i]
      | none => "None")]

/-- A token as a tree of its parts, its further lines indented. -/
def Token.dump (indent : String) : Token → String
  | .ident name => dumpParts indent "Ident" [quoted name]
  | .atKeyword name => dumpParts indent "AtKeyword" [quoted name]
  | .hash name => dumpParts indent "Hash" [quoted name]
  | .idHash name => dumpParts indent "IDHash" [quoted name]
  | .string text => dumpParts indent "QuotedString" [quoted text]
  | .url text => dumpParts indent "UnquotedUrl" [quoted text]
  | .delim c => dumpParts indent "Delim" [quotedSingle c]
  | .number n => Selector.dumpFields indent "Number" (n.dumpFields indent "value")
  | .percentage n => Selector.dumpFields indent "Percentage" (n.dumpFields indent "unit_value")
  | .dimension n unit =>
    Selector.dumpFields indent "Dimension" (n.dumpFields indent "value" ++ [("unit", quoted unit)])
  | .space text => dumpParts indent "WhiteSpace" [quoted text]
  | .colon => "Colon"
  | .semicolon => "Semicolon"
  | .comma => "Comma"
  | .includes => "IncludeMatch"
  | .dashMatch => "DashMatch"
  | .startsWith => "PrefixMatch"
  | .endsWith => "SuffixMatch"
  | .substring => "SubstringMatch"
  | .commentOpen => "CDO"
  | .commentClose => "CDC"
  | .function name => dumpParts indent "Function" [quoted name]
  | .parenthesis => "ParenthesisBlock"
  | .square => "SquareBracketBlock"
  | .curly => "CurlyBracketBlock"
  | .badUrl text => dumpParts indent "BadUrl" [quoted text]
  | .badString text => dumpParts indent "BadString" [quoted text]
  | .closeParenthesis => "CloseParenthesis"
  | .closeSquare => "CloseSquareBracket"
  | .closeCurly => "CloseCurlyBracket"

/-- The wording of a fault that has no sentence of its own. -/
def internal (dump : String) : String :=
  "Unexpected error occurred. Please report this to the developer\n" ++ dump

/-- A fault about a token as a tree of its parts. -/
def internalToken (name : String) (token : Token) : String :=
  internal (dumpParts "" name [token.dump "    "])

def Fault.message : Fault → String
  | .unexpectedEnd => "Unexpected EOL"
  | .unexpectedToken token => "Token " ++ quoted token.shown ++ " was not expected"
  | .expectedPseudoName token =>
    "Expected identity for pseudoelement, got " ++ quoted token.shown ++ " instead"
  | .emptySelector => internal "EmptySelector"
  | .danglingCombinator => internal "DanglingCombinator"
  | .invalidState => internal "InvalidState"
  | .unsupportedPseudo name => internal (dumpParts "" "UnsupportedPseudoClassOrElement" [quoted name])
  | .classNeedsIdent token => internalToken "ClassNeedsIdent" token
  | .badAttributeValue token => internalToken "BadValueInAttr" token
  | .noAttributeName token => internalToken "NoQualifiedNameInAttributeSelector" token
  | .unexpectedInAttribute token => internalToken "UnexpectedTokenInAttributeSelector" token
  | .unknownNamespace name => internal (dumpParts "" "ExpectedNamespace" [quoted name])
  | .unexpectedBehindNamespace token => internalToken "ExplicitNamespaceUnexpectedToken" token
  | .expectedBar token => internalToken "ExpectedBarInAttr" token
  | .invalidAttributeName token => internalToken "InvalidQualNameInAttr" token

end PageExtract.Selector
