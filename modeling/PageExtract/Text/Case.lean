import PageExtract.Text.CaseTable

/-!
# Texts in lower and upper case

Every character is mapped by the tables. The one mapping that depends on its neighbours is that of
the capital sigma, whose lower case at the end of a word has a form of its own.
-/

namespace PageExtract

/-- The shifted code point, if it lies in the row. -/
def CaseRow.shift? (row : CaseRow) (code : Nat) : Option Nat :=
  let (first, last, step, shift) := row
  if first ≤ code ∧ code ≤ last ∧ (code - first) % step = 0 then some (code + shift).toNat else none

/-- A character mapped by the sequences first and the rows otherwise. -/
def mapCase (rows : List CaseRow) (sequences : List (Nat × List Nat)) (c : Char) : List Char :=
  match sequences.find? (·.1 == c.toNat) with
  | some (_, codes) => codes.map Char.ofNat
  | none => [((rows.findSome? (·.shift? c.toNat)).map Char.ofNat).getD c]

/-- Whether the nearest character that counts for case is a cased letter. -/
def beginsCased (chars : List Char) : Bool :=
  match chars.dropWhile fun c => inBounds c.toNat caseIgnorableBounds with
  | c :: _ => inBounds c.toNat casedBounds
  | [] => false

/-- Lower case, with the characters before the place in reverse. A capital sigma is final when a
cased letter stands before it and none behind. -/
def lowerChars : (before chars : List Char) → List Char
  | _, [] => []
  | before, c :: rest =>
    (if c = 'Σ' then [if beginsCased before && !beginsCased rest then 'ς' else 'σ']
      else mapCase lowerRows lowerSequences c) ++ lowerChars (c :: before) rest

def lowerCase (text : String) : String := String.ofList (lowerChars [] text.toList)

def upperCase (text : String) : String :=
  String.ofList (text.toList.flatMap (mapCase upperRows upperSequences))

/-- A letter of the Latin alphabet in lower case, everything else as it is. -/
def asciiLower (text : String) : String := text.map Char.toLower

def sameIgnoringAsciiCase (a b : String) : Bool := asciiLower a == asciiLower b

end PageExtract
