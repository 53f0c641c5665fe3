import PageExtract.Text.Printable

/-!
# Quoted text in messages

A text in double quotes as messages show it: the quote, the backslash and the usual control
characters with their short escapes, and every other character that is not shown on its own as its
code point in braces.
-/

namespace PageExtract

def quotedChar (c : Char) : String :=
  match c with
  | '"' => "\\\""
  | '\\' => "\\\\"
  | '\n' => "\\n"
  | '\r' => "\\r"
  | '\t' => "\\t"
  | '\x00' => "\\0"
  | c =>
    if isShown c then c.toString
    else "\\u\x7b" ++ String.ofList (Nat.toDigits 16 c.toNat) ++ "\x7d"

def quoted (text : String) : String :=
  "\"" ++ String.join (text.toList.map quotedChar) ++ "\""

def quotedSingle (c : Char) : String :=
  "'" ++ (if c = '\'' then "\\'" else if c = '"' then "\"" else quotedChar c) ++ "'"

end PageExtract
