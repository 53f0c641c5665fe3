import PageExtract.Selector.Basic
import PageExtract.Selector.Token
import PageExtract.Markup.Tree
import PageExtract.Text.Case

/-!
# Which elements a selector matches

A selector is matched against the whole tree, along the links of its nodes. Only elements count as
parents and siblings, so the contents of a template have no parent here and are not below it for
relative selectors.
-/

namespace PageExtract.Selector

open Markup

def beginsWith : (text part : List Char) → Bool
  | _, [] => true
  | [], _ :: _ => false
  | c :: text, d :: part => c == d && beginsWith text part

def occursIn (part : List Char) : (text : List Char) → Bool
  | [] => part.isEmpty
  | c :: text => beginsWith (c :: text) part || occursIn part text

def blankSeparated : (text word : List Char) → List (List Char)
  | [], word => [word.reverse]
  | c :: text, word =>
    if isSpace c then word.reverse :: blankSeparated text [] else blankSeparated text (c :: word)

/-- Compares an attribute value with the wanted one, both given in the case that counts. -/
def Comparison.holds (comparison : Comparison) (value wanted : List Char) : Bool :=
  match comparison with
  | .equals => value == wanted
  | .hasWord => !wanted.isEmpty && (blankSeparated value []).contains wanted
  | .hasDashPart => value == wanted || beginsWith value (wanted ++ ['-'])
  | .startsWith => !wanted.isEmpty && beginsWith value wanted
  | .endsWith => !wanted.isEmpty && beginsWith value.reverse wanted.reverse
  | .contains => !wanted.isEmpty && occursIn wanted value

def ValueTest.holds (test : ValueTest) (e : Element) (value : String) : Bool :=
  let caseless : Bool := match test.caseRule with
    | .exact => false
    | .ignored => true
    | .ignoredInHtml => e.space == .html
  let chars (text : String) : List Char :=
    if caseless then text.toList.map Char.toLower else text.toList
  test.comparison.holds (chars value) (chars test.value)

def AttributeTest.holds (test : AttributeTest) (e : Element) : Bool :=
  let name := if e.space == .html then test.lowerName else test.name
  e.attributes.any fun a =>
    (test.anySpace || a.name.space == .none) && a.name.name == name &&
      match test.value with
      | none => true
      | some value => value.holds e a.value

def classesOf (e : Element) : List String :=
  (e.attributes.filter (·.name.name == "class")).flatMap fun a =>
    ((blankSeparated a.value.toList []).filter (!·.isEmpty)).map String.ofList

def parentElement? (t : Tree) (id : NodeId) : Option NodeId := (t.parent? id).filter t.isElement

/-- The elements above a node, the nearest first. -/
def ancestorElements (t : Tree) (id : NodeId) : List NodeId := Tree.along (parentElement? t) t.size id

/-- The elements before a node, the nearest first. -/
def previousSiblings (t : Tree) (id : NodeId) : List NodeId := (t.nodesBefore id).filter t.isElement

/-- The elements behind a node, the nearest first. -/
def nextSiblings (t : Tree) (id : NodeId) : List NodeId := (t.nodesBehind id).filter t.isElement

/-- The first element right below a node and the elements behind it. -/
def childElements (t : Tree) (id : NodeId) : List NodeId :=
  match (t.elementChildren id).head? with
  | some first => first :: nextSiblings t first
  | none => []

/-- The elements below a node, reached by way of elements only, at most `fuel` levels down, and behind
them the given ones. -/
def elementsOnto (t : Tree) : (fuel : Nat) → NodeId → (rest : List NodeId) → List NodeId
  | 0, _, rest => rest
  | fuel + 1, id, rest =>
    (childElements t id).foldr (fun child rest => child :: elementsOnto t fuel child rest) rest

def elementsBelow (t : Tree) (id : NodeId) : List NodeId := elementsOnto t t.size id []

/-- Whether a combinator leads to elements above. -/
def Combinator.isVertical : Combinator → Bool
  | .descendant | .child => true
  | .nextSibling | .laterSibling => false

/-- The elements that an alternative of a relative selector may be about. They stand as its first
combinator says, below that if another one leads down, and beside it if another one leads aside. -/
def Complex.related (t : Tree) (id : NodeId) : Complex → List NodeId
  | .nothing => []
  | .mk _ before =>
    let others := before.dropLast.map Prod.fst
    let deeper := others.any (·.isVertical)
    let siblings := nextSiblings t id
    let lower (siblings : List NodeId) := if deeper then siblings.flatMap (elementsBelow t) else siblings
    match before.getLast?.map Prod.fst with
    | some .child => if deeper then elementsBelow t id else childElements t id
    | some .nextSibling => lower (if others.any (!·.isVertical) then siblings else siblings.take 1)
    | some .laterSibling => lower siblings
    | some .descendant | none => elementsBelow t id

/-- The elements that stand to a node as a combinator says. -/
def Combinator.candidates (combinator : Combinator) (t : Tree) (id : NodeId) : List NodeId :=
  match combinator with
  | .descendant => ancestorElements t id
  | .child => (parentElement? t id).toList
  | .nextSibling => (previousSiblings t id).take 1
  | .laterSibling => previousSiblings t id

def sameType (t : Tree) (a b : NodeId) : Bool :=
  match t.element? a, t.element? b with
  | some x, some y => x.space == y.space && x.name == y.name
  | _, _ => false

/-- The number of an element among the siblings that are counted, from one on. -/
def Counting.number (counting : Counting) (t : Tree) (id : NodeId) : Nat :=
  let others := if counting.fromEnd then nextSiblings t id else previousSiblings t id
  1 + (if counting.ofType then others.filter (sameType t id) else others).length

/-- Whether a number is `step * n + offset` for some `n` from zero on. A distance from the offset that
is no 32-bit integer is out of reach. -/
def isNumbered (step offset : Int) (number : Nat) : Bool :=
  let rest := (number : Int) - offset
  rest = clampInt rest
    && if step = 0 then rest = 0 else 0 ≤ rest.tdiv step && step * rest.tdiv step = rest

/-- Whether an element is the root of a whole page. -/
def isRoot (t : Tree) (id : NodeId) : Bool :=
  match t.parent? id with
  | some parent => t.kind? parent = some .document
  | none => false

def isEmpty (t : Tree) (id : NodeId) : Bool :=
  !(t.children id).any fun child => t.isElement child || (t.text? child).isSome

/-- What came of seeking the compounds before an element. -/
inductive Verdict where
  | found
  /-- Not from this element. -/
  | notHere
  /-- Neither from this element nor from one beside it. -/
  | notBeside
  /-- From no element at all. -/
  | nowhere
deriving DecidableEq, Repr, Inhabited

/-- The verdict when a combinator leads to no further element. -/
def Combinator.exhausted (combinator : Combinator) : Verdict :=
  if combinator.isVertical then .nowhere else .notBeside

/-- Seeks among the elements to which a combinator leads. The search ends early where the elements that
are left could do no better if all siblings had one parent. -/
def Combinator.seek (combinator : Combinator) (verdict : NodeId → Verdict) : List NodeId → Verdict
  | [] => combinator.exhausted
  | other :: rest =>
    match verdict other, combinator with
    | .found, _ => .found
    | .nowhere, _ => .nowhere
    | result, .nextSibling => result
    | _, .child => .notBeside
    | .notBeside, .laterSibling => .notBeside
    | _, _ => combinator.seek verdict rest

/-- What the tests of a selector refer to: the tree, and the element of which the selector is asked,
if there is one. -/
structure Frame where
  tree : Tree
  scope : Option NodeId

mutual

/-- Whether an element passes a test; `anchor` is where a relative selector goes out from. -/
def Simple.holds (f : Frame) (anchor : Option NodeId) : Simple → NodeId → Bool
  | .named name lowerName, id =>
    match f.tree.element? id with
    | some e => e.name == if e.space == .html then lowerName else name
    | none => false
  | .any, _ => true
  | .noSpace, id => (f.tree.element? id).map (·.space) == some .none
  | .id value, id => ((f.tree.element? id).bind (·.localAttribute? "id")) == some value
  | .className value, id => ((f.tree.element? id).map fun e => (classesOf e).contains value).getD false
  | .attribute test, id => ((f.tree.element? id).map test.holds).getD false
  | .nth counting step offset, id => isNumbered step offset (counting.number f.tree id)
  | .only ofType, id =>
    Counting.number ⟨ofType, false⟩ f.tree id == 1 && Counting.number ⟨ofType, true⟩ f.tree id == 1
  | .root, id => isRoot f.tree id
  | .empty, id => isEmpty f.tree id
  | .scope, id =>
    match f.scope with
    | some scope => id == scope
    | none => isRoot f.tree id
  | .host, _ => false
  | .anchor, id => anchor == some id
  | .anyOf alternatives, id => anyHolds f anchor alternatives id
  | .noneOf alternatives, id => !anyHolds f anchor alternatives id
  | .has alternatives, id => anyRelated f alternatives id

def allHold (f : Frame) (anchor : Option NodeId) : List Simple → NodeId → Bool
  | [], _ => true
  | simple :: rest, id => simple.holds f anchor id && allHold f anchor rest id

def Complex.holds (f : Frame) (anchor : Option NodeId) : Complex → NodeId → Bool
  | .mk subject before, id => allHold f anchor subject id && verdict f anchor before id == .found
  | .nothing, _ => false

/-- What comes of seeking the compounds before an element from right to left. -/
def verdict (f : Frame) (anchor : Option NodeId) : List (Combinator × List Simple) → NodeId → Verdict
  | [], _ => .found
  | (combinator, compound) :: rest, id =>
    combinator.seek
      (fun other => if allHold f anchor compound other then verdict f anchor rest other else .notHere)
      (combinator.candidates f.tree id)

def anyHolds (f : Frame) (anchor : Option NodeId) : List Complex → NodeId → Bool
  | [], _ => false
  | alternative :: rest, id => alternative.holds f anchor id || anyHolds f anchor rest id

/-- Whether an alternative that goes out from an element is matched. -/
def anyRelated (f : Frame) : List Complex → NodeId → Bool
  | [], _ => false
  | alternative :: rest, id =>
    (alternative.related f.tree id).any (alternative.holds f (some id)) || anyRelated f rest id

end

def isMatch (f : Frame) (alternatives : List Complex) (id : NodeId) : Bool :=
  anyHolds f none alternatives id

end PageExtract.Selector
