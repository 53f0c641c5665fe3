import PageExtract.Json.Reader
import PageExtract.Json.Printer
import PageExtract.Text.Quoted

/-!
# Reading records and choices from JSON

A record is written as an object or as a list of its fields in order. Fields may be missing unless
they are required, members that are no fields are passed over, and a field may be given only once. A
choice is written as the name of an alternative, or as an object with that name as its only key and
null as its value.

A fault of the record as a whole is placed where its end was looked for, that is, behind the closing
bracket if it stands there.
-/

namespace PageExtract.Json

/-- The kind of value that stands at the cursor, in the words of a type fault. Words, numbers and
strings are read; of lists and objects only the bracket is looked at. -/
def readFoundKind (c : Cursor) : Except ReadError (String × Cursor) :=
  match c.rest with
  | 'n' :: _ => do
    let c ← c.next.readWord ['u', 'l', 'l']
    return ("null", c)
  | 't' :: _ => do
    let c ← c.next.readWord ['r', 'u', 'e']
    return ("boolean `true`", c)
  | 'f' :: _ => do
    let c ← c.next.readWord ['a', 'l', 's', 'e']
    return ("boolean `false`", c)
  | '"' :: _ => do
    let (value, c) ← readString c.next
    return ("string " ++ quoted value, c)
  | '[' :: _ => .ok ("sequence", c)
  | '\x7b' :: _ => .ok ("map", c)
  | x :: _ =>
    if x = '-' ∨ x.isDigit then do
      let (value, c) ← readNumber (x = '-') (if x = '-' then c.next else c)
      match value with
      | .int n => return ("integer `" ++ toString n ++ "`", c)
      | .float y => return ("floating point `" ++ y.jsonText ++ "`", c)
    else c.failNext .expectedValue
  | [] => c.failNext .expectedValue

def failType {α : Type} (expected : String) (c : Cursor) : Except ReadError α := do
  let (found, c) ← readFoundKind c
  c.fail (.invalidType found expected)

/-- A field: its name, whether it has to be given, and how reading its value changes the record. -/
structure Field (σ : Type) where
  name : String
  required : Bool
  read : (depth : Nat) → Cursor → Except ReadError ((σ → σ) × Cursor)

/-- A kind of record: its name, the record of which no field is given, and the fields in order. -/
structure RecordFormat (σ : Type) where
  name : String
  empty : σ
  fields : List (Field σ)

/-- Why the inside of a record could not be read: a fault with its place, or one of the record as a
whole, with the cursor from which its end is looked for. -/
inductive InsideError where
  | placed (error : ReadError)
  | whole (fault : Fault) (c : Cursor)

namespace RecordFormat

variable {σ : Type}

/-- Carries a placed fault into the inside of a record. -/
def inside {α : Type} : Except ReadError α → Except InsideError α
  | .ok a => .ok a
  | .error e => .error (.placed e)

/-- Reads members up to the closing brace; `seen` holds the names of the fields given so far. -/
def readByName (fmt : RecordFormat σ) (depth : Nat) :
    (fuel : Nat) → (first : Bool) → (seen : List String) → σ → Cursor → Except InsideError (σ × Cursor)
  | 0, _, _, _, c => .error (.whole .endInObject c)
  | fuel + 1, first, seen, state, c => do
    let (key, c) ← inside (nextKey first c)
    match key with
    | none =>
      match fmt.fields.find? fun field => field.required && !seen.contains field.name with
      | some field => .error (.whole (.missingField field.name) c)
      | none => return (state, c)
    | some key =>
      match fmt.fields.find? (·.name == key) with
      | some field =>
        if seen.contains key then .error (.whole (.duplicateField key) c)
        else
          let c ← inside (readColon c)
          let (change, c) ← inside (field.read depth c)
          readByName fmt depth fuel false (key :: seen) (change state) c
      | none =>
        let c ← inside (readColon c)
        let c ← inside (skipValue (c.rest.length + 1) c)
        readByName fmt depth fuel false seen state c

/-- Reads the fields in order, as far as they are given. -/
def readInOrder (fmt : RecordFormat σ) (depth : Nat) :
    (index : Nat) → List (Field σ) → σ → Cursor → Except InsideError (σ × Cursor)
  | _, [], state, c => .ok (state, c)
  | index, field :: fields, state, c => do
    let (more, c) ← inside (nextItem (index == 0) c)
    if more then
      let (change, c) ← inside (field.read depth c)
      readInOrder fmt depth (index + 1) fields (change state) c
    else if field.required then
      .error (.whole (.invalidLength index
        (fmt.name ++ " with " ++ toString fmt.fields.length ++ " elements")) c)
    else readInOrder fmt depth (index + 1) fields state c

/-- Looks for the end of a record written as a list. On a fault the cursor is where looking ended. -/
def closeList (c : Cursor) : Except (ReadError × Cursor) Cursor :=
  let c := c.skipBlanks
  let failure (c : Cursor) (fault : Fault) : Except (ReadError × Cursor) Cursor :=
    .error (⟨fault, if c.rest.isEmpty then c.offset else c.offset + 1⟩, c)
  match c.rest with
  | [] => failure c .endInList
  | ']' :: _ => .ok c.next
  | ',' :: _ =>
    let c := c.next.skipBlanks
    match c.rest with
    | ']' :: _ => failure c .trailingComma
    | _ => failure c .trailingCharacters
  | _ => failure c .trailingCharacters

/-- Looks for the end of a record written as an object. -/
def closeObject (c : Cursor) : Except (ReadError × Cursor) Cursor :=
  let c := c.skipBlanks
  let failure (c : Cursor) (fault : Fault) : Except (ReadError × Cursor) Cursor :=
    .error (⟨fault, if c.rest.isEmpty then c.offset else c.offset + 1⟩, c)
  match c.rest with
  | [] => failure c .endInObject
  | '\x7d' :: _ => .ok c.next
  | ',' :: _ => failure c .trailingComma
  | _ => failure c .trailingCharacters

/-- The record, once its end has been found; a fault of the whole is placed where looking for the
end stopped. -/
def finish (close : Cursor → Except (ReadError × Cursor) Cursor) :
    Except InsideError (σ × Cursor) → Except ReadError (σ × Cursor)
  | .ok (state, c) =>
    match close c with
    | .ok c => .ok (state, c)
    | .error (e, _) => .error e
  | .error (.placed e) => .error e
  | .error (.whole fault c) =>
    match close c with
    | .ok c => c.fail fault
    | .error (_, c) => c.fail fault

/-- Reads a record whose values may be nested less deep than `depth`. -/
def read (fmt : RecordFormat σ) (depth : Nat) (c : Cursor) : Except ReadError (σ × Cursor) :=
  let c := c.skipBlanks
  match c.rest with
  | [] => c.failNext .endInValue
  | '[' :: _ =>
    if depth ≤ 1 then c.failNext .nestedTooDeep
    else finish closeList (fmt.readInOrder (depth - 1) 0 fmt.fields fmt.empty c.next)
  | '\x7b' :: _ =>
    if depth ≤ 1 then c.failNext .nestedTooDeep
    else finish closeObject (fmt.readByName (depth - 1) (c.rest.length + 1) true [] fmt.empty c.next)
  | _ => failType fmt.name c

def parse (fmt : RecordFormat σ) (source : String) : Except ReadError σ := do
  let (state, c) ← fmt.read greatestDepth (Cursor.start source)
  readEnd c
  return state

end RecordFormat

/-- The alternative of that name, or the fault of an unknown one. -/
def choose {α : Type} (alternatives : List (String × α)) (name : String) (c : Cursor) :
    Except ReadError (α × Cursor) :=
  match Keyed.get? alternatives name with
  | some value => .ok (value, c)
  | none => c.fail (.unknownVariant name (Keyed.keys alternatives))

/-- The name of an alternative, in quotes; `c` is where it has to begin. -/
def readAlternativeName {α : Type} (alternatives : List (String × α)) (c : Cursor) :
    Except ReadError (α × Cursor) := do
  let c := c.skipBlanks
  match c.rest with
  | [] => c.failNext .endInObject
  | '"' :: _ =>
    let (name, c) ← readString c.next
    choose alternatives name c
  | '\x7d' :: _ => c.failNext .expectedValue
  | _ => c.failNext .keyMustBeString

/-- The null behind the name of an alternative. -/
def readUnit (c : Cursor) : Except ReadError Cursor :=
  let c := c.skipBlanks
  match c.rest with
  | [] => c.failNext .endInValue
  | 'n' :: _ => c.next.readWord ['u', 'l', 'l']
  | _ => failType "unit" c

/-- Reads one of several named alternatives. -/
def readChoice {α : Type} (alternatives : List (String × α)) (depth : Nat) (c : Cursor) :
    Except ReadError (α × Cursor) := do
  let c := c.skipBlanks
  match c.rest with
  | [] => c.failNext .endInValue
  | '"' :: _ => readAlternativeName alternatives c
  | '\x7b' :: _ =>
    if depth ≤ 1 then c.failNext .nestedTooDeep
    else
      let (value, c) ← readAlternativeName alternatives c.next
      let c ← readColon c
      let c ← readUnit c
      let c := c.skipBlanks
      match c.rest with
      | [] => c.fail .endInObject
      | '\x7d' :: _ => return (value, c.next)
      | _ => c.fail .expectedValue
  | _ => c.failNext .expectedValue

def parseChoice {α : Type} (alternatives : List (String × α)) (source : String) : Except ReadError α := do
  let (value, c) ← readChoice alternatives greatestDepth (Cursor.start source)
  readEnd c
  return value

end PageExtract.Json
