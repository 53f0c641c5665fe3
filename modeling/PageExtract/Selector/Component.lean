import PageExtract.Selector.Token

/-!
# Tokens grouped by brackets

A component is a token, or an opening bracket or function with the components up to its closing
bracket. A block that is not closed goes on to the end; a closing bracket of another kind is a token
like any other inside it.
-/

namespace PageExtract.Selector

/-- A token, or a block with what is in it. -/
inductive Component where
  | token (token : Token)
  | block (opening : Token) (inside : List Component)
deriving Repr, Inhabited

def Token.closing? : Token → Option Token
  | .function _ => some .closeParenthesis
  | .parenthesis => some .closeParenthesis
  | .square => some .closeSquare
  | .curly => some .closeCurly
  | _ => none

/-- The token itself, or the one that opens the block. -/
def Component.head : Component → Token
  | .token t => t
  | .block opening _ => opening

/-- Whether the token itself is a fault: a string or an address cut short, or a closing bracket that
closes nothing. -/
def Token.isFault : Token → Bool
  | .badUrl _ | .badString _ | .closeParenthesis | .closeSquare | .closeCurly => true
  | _ => false

/-- Components up to the given closing bracket or the end, and the tokens behind it. -/
def group : (fuel : Nat) → (closing : Option Token) → List Token → List Component × List Token
  | 0, _, tokens => ([], tokens)
  | _, _, [] => ([], [])
  | fuel + 1, closing, token :: rest =>
    if closing = some token then ([], rest)
    else
      match token.closing? with
      | some inner =>
        let (inside, rest) := group fuel (some inner) rest
        let (components, rest) := group fuel closing rest
        (.block token inside :: components, rest)
      | none =>
        let (components, rest) := group fuel closing rest
        (.token token :: components, rest)

def componentsOf (tokens : List Token) : List Component := (group (tokens.length + 1) none tokens).1

mutual

def Component.fault? : Component → Option Token
  | .token t => if t.isFault then some t else none
  | .block _ inside => faultIn? inside

/-- The first token that is a fault, at any depth. -/
def faultIn? : List Component → Option Token
  | [] => none
  | component :: rest => component.fault?.or (faultIn? rest)

end

/-- The parts between the commas, the first and the others. -/
def splitAtCommas : List Component → List Component × List (List Component)
  | [] => ([], [])
  | component :: rest =>
    let (first, others) := splitAtCommas rest
    match component with
    | .token .comma => ([], first :: others)
    | _ => (component :: first, others)

end PageExtract.Selector
