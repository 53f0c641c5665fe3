import PageExtract.Options
import PageExtract.Markup.Page
import PageExtract.Markup.Serialize
import PageExtract.Selector.Parser
import PageExtract.Selector.Matching

/-!
# Documents and rules

A document is the tree of a page. A rule is a selector with the text it was read from. Evaluating a
schema asks two things of a document: which elements a rule selects in a context, and what text stands
in a context.

The whole document gives its elements in the order of their creation, an element those below it in tree
order and never itself.
-/

namespace PageExtract

open Markup (NodeId Tree)

/-- A selector and the text it was read from. -/
structure Rule where
  source : String
  alternatives : List Selector.Complex
deriving Inhabited

def Rule.parse (source : String) : Except Selector.Fault Rule :=
  (Selector.parse source).map fun alternatives => ⟨source, alternatives⟩

structure Document where
  tree : Tree
deriving Inhabited

/-- An element of a page: the tree and the place in it. -/
structure PageElement where
  tree : Tree
  id : NodeId
deriving Inhabited, DecidableEq

namespace PageElement

def name (e : PageElement) : String := ((e.tree.element? e.id).map (·.name)).getD ""

def text (e : PageElement) : String := e.tree.textBelow e.id

/-- The value of an attribute in no namespace. -/
def attribute? (e : PageElement) (name : String) : Option String :=
  (e.tree.element? e.id).bind (·.attribute? name)

def parent? (e : PageElement) : Option PageElement :=
  ((e.tree.parent? e.id).filter e.tree.isElement).map fun id => ⟨e.tree, id⟩

def children (e : PageElement) : List PageElement :=
  (e.tree.elementChildren e.id).map fun id => ⟨e.tree, id⟩

def outerMarkup (e : PageElement) : String := e.tree.outerMarkup e.id

def innerMarkup (e : PageElement) : String := e.tree.innerMarkup e.id

end PageElement

/-- Where a rule is evaluated: in the whole document, or below an element of it. -/
inductive Context where
  | document
  | element (id : NodeId)
deriving DecidableEq, Repr, Inhabited

namespace Document

def parse (source : String) (options : DocumentOptions) : Document :=
  match options.mode with
  | .document => ⟨Markup.parseDocument source⟩
  | .fragment => ⟨Markup.parseFragment source⟩

/-- The root element, or the root of the tree if it has none. -/
def rootElement (d : Document) : NodeId :=
  ((d.tree.elementChildren Tree.root).head?).getD Tree.root

/-- The elements among which a rule selects in a context. -/
def candidates (d : Document) : Context → List NodeId
  | .document => (List.range d.tree.size).filter fun id => d.tree.isElement id && (d.tree.parent? id).isSome
  | .element id => (d.tree.descendants id).filter d.tree.isElement

/-- What the selector of a rule refers to in a context. -/
def frame (d : Document) : Context → Selector.Frame
  | .document => ⟨d.tree, none⟩
  | .element id => ⟨d.tree, some id⟩

def select (d : Document) (context : Context) (rule : Rule) : List NodeId :=
  (d.candidates context).filter (Selector.isMatch (d.frame context) rule.alternatives)

def elementAt (d : Document) : Context → PageElement
  | .document => ⟨d.tree, d.rootElement⟩
  | .element id => ⟨d.tree, id⟩

def text (d : Document) (context : Context) : String := (d.elementAt context).text

def describe (d : Document) : String :=
  "Document \x7b root: " ++ quoted (d.elementAt .document).name ++ " \x7d"

end Document

end PageExtract
