import PageExtract.Json.Fault

/-!
# A place in a JSON text

A cursor is what is still to be read, with the number of bytes read before it. A fault is placed
either where the cursor stands or one byte on, behind the character that was looked at; never
behind the end of the text.
-/

namespace PageExtract.Json

/-- The unread characters and the number of bytes before them. -/
structure Cursor where
  rest : List Char
  offset : Nat
deriving Repr

namespace Cursor

def start (source : String) : Cursor := ⟨source.toList, 0⟩

def next (c : Cursor) : Cursor :=
  match c.rest with
  | [] => c
  | x :: rest => ⟨rest, c.offset + x.utf8Size⟩

def toEnd (c : Cursor) : Cursor :=
  ⟨[], c.rest.foldl (fun offset x => offset + x.utf8Size) c.offset⟩

/-- A fault noticed where the cursor stands. -/
def fail {α : Type} (c : Cursor) (fault : Fault) : Except ReadError α :=
  .error ⟨fault, c.offset⟩

/-- A fault noticed after the next byte, if there is one. -/
def failNext {α : Type} (c : Cursor) (fault : Fault) : Except ReadError α :=
  .error ⟨fault, if c.rest.isEmpty then c.offset else c.offset + 1⟩

/-- The four characters that may stand between the parts of a text. -/
def isBlank (x : Char) : Bool := x == ' ' || x == '\n' || x == '\t' || x == '\r'

def skipWhile (ok : Char → Bool) : List Char → Nat → Cursor
  | [], offset => ⟨[], offset⟩
  | x :: rest, offset => if ok x then skipWhile ok rest (offset + x.utf8Size) else ⟨x :: rest, offset⟩

def skipBlanks (c : Cursor) : Cursor := skipWhile isBlank c.rest c.offset

def skipDigits (c : Cursor) : Cursor := skipWhile Char.isDigit c.rest c.offset

/-- Reads the remaining characters of a word whose first has been recognised. -/
def readWord (c : Cursor) : List Char → Except ReadError Cursor
  | [] => .ok c
  | expected :: word =>
    match c.rest with
    | [] => c.fail .endInValue
    | x :: _ => if x = expected then c.next.readWord word else c.failNext .expectedIdent

end Cursor

end PageExtract.Json
