/-!
# Blank characters

The characters with the property White_Space, and what is left of a text without those at its ends
or between its words.
-/

namespace PageExtract

def isBlank (c : Char) : Bool :=
  let n := c.toNat
  (9 ≤ n && n ≤ 13) || n == 32 || n == 0x85 || n == 0xa0 || n == 0x1680 || (0x2000 ≤ n && n ≤ 0x200a)
    || n == 0x2028 || n == 0x2029 || n == 0x202f || n == 0x205f || n == 0x3000

def trimBlanks (chars : List Char) : List Char :=
  ((chars.dropWhile isBlank).reverse.dropWhile isBlank).reverse

def trim (text : String) : String := String.ofList (trimBlanks text.toList)

/-- The stretches of characters that are not blank. -/
def wordsOf : (chars word : List Char) → List (List Char)
  | [], word => if word.isEmpty then [] else [word.reverse]
  | c :: rest, word =>
    if isBlank c then
      if word.isEmpty then wordsOf rest [] else word.reverse :: wordsOf rest []
    else wordsOf rest (c :: word)

def words (text : String) : List String := (wordsOf text.toList []).map String.ofList

end PageExtract
