/-!
# Selectors

A selector is a list of alternatives. Each alternative is a compound, the tests of the element that is
sought, and the compounds before it with the combinators between them, read from right to left.
-/

namespace PageExtract.Selector

/-- How an attribute value is compared with the wanted one. -/
inductive Comparison where
  | equals
  | hasWord
  | hasDashPart
  | startsWith
  | endsWith
  | contains
deriving DecidableEq, Repr, Inhabited

/-- Whether upper and lower case of Latin letters are told apart in a value: yes, no, or only outside
of HTML elements. -/
inductive CaseRule where
  | exact
  | ignored
  | ignoredInHtml
deriving DecidableEq, Repr, Inhabited

structure ValueTest where
  comparison : Comparison
  value : String
  caseRule : CaseRule
deriving DecidableEq, Repr, Inhabited

/-- A test of an attribute: its name as written and in lower case, whether it may be in a namespace,
and what is asked of its value, if anything. -/
structure AttributeTest where
  anySpace : Bool
  name : String
  lowerName : String
  value : Option ValueTest
deriving DecidableEq, Repr, Inhabited

/-- Which siblings are counted: all or those of the same name, from the first or from the last. -/
structure Counting where
  ofType : Bool
  fromEnd : Bool
deriving DecidableEq, Repr, Inhabited

/-- How two compounds are related. -/
inductive Combinator where
  | descendant
  | child
  | nextSibling
  | laterSibling
deriving DecidableEq, Repr, Inhabited

mutual

/-- A test of one element. -/
inductive Simple where
  /-- A name as written and in lower case. -/
  | named (name lowerName : String)
  | any
  | noSpace
  | id (value : String)
  | className (value : String)
  | attribute (test : AttributeTest)
  /-- The element is one of those numbered `step * n + offset`. -/
  | nth (counting : Counting) (step offset : Int)
  | only (ofType : Bool)
  | root
  | empty
  | scope
  /-- The element is host to a shadow tree. No page holds one. -/
  | host
  /-- The element from which a relative selector goes out. -/
  | anchor
  | anyOf (alternatives : List Complex)
  | noneOf (alternatives : List Complex)
  | has (alternatives : List Complex)

/-- One alternative: the tests of the element, and what stands before it from right to left. An
alternative that could not be read matches nothing. -/
inductive Complex where
  | mk (subject : List Simple) (before : List (Combinator × List Simple))
  | nothing

end

instance : Inhabited Simple := ⟨.any⟩

instance : Inhabited Complex := ⟨.nothing⟩

end PageExtract.Selector
