/-!
# Classes of characters given by their boundaries

A class of code points is kept as the ascending list of the places where membership changes: the
first code point in the class, the first behind that stretch, and so on.
-/

namespace PageExtract

/-- Whether the code point lies in the class with these boundaries: it does when an odd number of
them is at or below it. -/
def inBounds (code : Nat) : List Nat → Bool
  | [] => false
  | bound :: rest => if code < bound then false else !inBounds code rest

end PageExtract
