import PageExtract.Keyed
import PageExtract.Number.Binary

/-!
# JSON values

Objects keep their members in order. A number is an integer or a finite 64-bit float, and the two
are never equal; of floats, the two zeros are.
-/

namespace PageExtract

/-- A JSON number: an integer, or a finite value of the 64-bit format. -/
inductive Json.Number where
  | int (value : Int)
  | float (value : Dyadic)
deriving DecidableEq, Repr, Inhabited

inductive Json where
  | null
  | bool (value : Bool)
  | number (value : Json.Number)
  | string (value : String)
  | array (items : List Json)
  | object (members : List (String × Json))
deriving Repr, Inhabited

namespace Json

/-- Whether the number is zero, of either kind. -/
def Number.isZero : Number → Bool
  | .int value => value == 0
  | .float value => value.isZero

def Number.sameValue : Number → Number → Bool
  | .int a, .int b => a == b
  | .float a, .float b => a.sameValue b
  | _, _ => false

mutual

/-- Equality of values. The order of members does not count. -/
def sameValue : Json → Json → Bool
  | .null, .null => true
  | .bool a, .bool b => a == b
  | .number a, .number b => a.sameValue b
  | .string a, .string b => a == b
  | .array a, .array b => sameItems a b
  | .object a, .object b => a.length == b.length && sameMembers a b
  | _, _ => false

def sameItems : List Json → List Json → Bool
  | [], [] => true
  | x :: xs, y :: ys => sameValue x y && sameItems xs ys
  | _, _ => false

/-- Whether each member of the first list has its equal under the same key of the second. -/
def sameMembers : List (String × Json) → List (String × Json) → Bool
  | [], _ => true
  | (key, x) :: xs, ys =>
    (match Keyed.get? ys key with
      | some y => sameValue x y
      | none => false) && sameMembers xs ys

end

/-- The member of that name, if the value is an object that has one. -/
def member? : Json → String → Option Json
  | .object members, key => Keyed.get? members key
  | _, _ => none

def string? : Json → Option String
  | .string value => some value
  | _ => none

def bool? : Json → Option Bool
  | .bool value => some value
  | _ => none

end Json

end PageExtract
