import PageExtract.Markup.Tree
import PageExtract.Markup.Content

/-!
# Building the tree of a page

The builder holds the tree so far, the elements that are open, the formatting elements that are to be
opened again, and the insertion mode, which says how the next token is treated. Open elements and
formatting entries are kept with the latest first, so the current node is the head of the list and
the root element its last entry.
-/

namespace PageExtract.Markup

/-- The part of the page in which the builder is. -/
inductive InsertionMode where
  | initial
  | beforeHtml
  | beforeHead
  | inHead
  | afterHead
  | inBody
  | text
  | inTable
  | inTableText
  | inCaption
  | inColumnGroup
  | inTableBody
  | inRow
  | inCell
  | inSelect
  | inSelectInTable
  | inTemplate
  | afterBody
  | inFrameset
  | afterFrameset
  | afterAfterBody
  | afterAfterFrameset
deriving DecidableEq, Repr, Inhabited

/-- An entry of the list of formatting elements: an element with the tag that opened it, or a marker
that the elements before it are not opened again here. -/
inductive FormattingEntry where
  | marker
  | element (id : NodeId) (tag : Tag)
deriving DecidableEq, Repr, Inhabited

def FormattingEntry.id? : FormattingEntry → Option NodeId
  | .marker => none
  | .element id _ => some id

/-- The state of building. -/
structure Builder where
  tree : Tree
  mode : InsertionMode
  /-- The mode to go back to behind text. -/
  returnMode : InsertionMode := .initial
  /-- The modes of the open templates, the innermost first. -/
  templateModes : List InsertionMode := []
  /-- Characters in a table that have no place yet, in order. -/
  pendingText : List Char := []
  /-- Whether the page is read leniently: then a table does not end a paragraph. -/
  lenient : Bool := false
  /-- The open elements, the current node first. -/
  opened : List NodeId := []
  /-- The formatting entries, the latest first. -/
  formatting : List FormattingEntry := []
  head : Option NodeId := none
  form : Option NodeId := none
  /-- Whether a frameset may still take the place of the body. -/
  framesetAllowed : Bool := true
  /-- Whether a line feed that comes next is dropped. -/
  skipLineFeed : Bool := false
  /-- Whether nodes that would fall into a table are placed before it. -/
  fostering : Bool := false
  /-- The element in whose place a piece of a page is read. -/
  context : Option NodeId := none
deriving Repr, Inhabited

/-- What is to happen after a token has been treated. -/
inductive Outcome where
  | done
  | again
  | read (content : Content)
deriving DecidableEq, Repr

namespace Builder

/-- The token has been used up. -/
def done (b : Builder) : Builder × Outcome := (b, .done)

def again (b : Builder) (mode : InsertionMode) : Builder × Outcome := ({ b with mode }, .again)

/-! ### Open elements -/

def current? (b : Builder) : Option NodeId := b.opened.head?

/-- The current node, or the element in whose place a piece of a page is read if only the root element
is open. -/
def adjustedCurrentId? (b : Builder) : Option NodeId :=
  if b.opened.length = 1 then b.context.or b.current? else b.current?

/-- The root element, or the root of the tree as long as there is none. -/
def rootElement (b : Builder) : NodeId := b.opened.getLast?.getD Tree.root

def currentIs (b : Builder) (name : String) : Bool :=
  (b.current?.map (b.tree.isHtml · name)).getD false

def currentIn (b : Builder) (names : List String) : Bool :=
  (b.current?.map (b.tree.isHtmlIn · names)).getD false

def isOpen (b : Builder) (name : String) : Bool := b.opened.any (b.tree.isHtml · name)

def push (b : Builder) (id : NodeId) : Builder := { b with opened := id :: b.opened }

def pop (b : Builder) : Builder := { b with opened := b.opened.tail }

/-- Closes the current node if it is the HTML element of that name. -/
def popIf (b : Builder) (name : String) : Builder := if b.currentIs name then b.pop else b

def removeOpen (b : Builder) (id : NodeId) : Builder := { b with opened := b.opened.erase id }

/-- Closes elements up to and with the first that passes the test. -/
def closeThrough (b : Builder) (test : NodeId → Bool) : Builder :=
  { b with opened := (b.opened.dropWhile fun id => !test id).drop 1 }

def closeThroughNamed (b : Builder) (name : String) : Builder :=
  b.closeThrough (b.tree.isHtml · name)

/-- Closes elements down to one of these HTML elements, which stays open. -/
def closeDownTo (b : Builder) (names : List String) : Builder :=
  { b with opened := b.opened.dropWhile fun id => !b.tree.isHtmlIn id names }

/-- Elements whose end tags may be left out. -/
def impliedEnds : List String := ["dd", "dt", "li", "option", "optgroup", "p", "rb", "rp", "rt", "rtc"]

/-- Elements that the end of a template closes without their end tags. -/
def impliedEndsOfTemplate : List String :=
  impliedEnds ++ ["caption", "colgroup", "tbody", "td", "tfoot", "th", "thead", "tr"]

/-- Closes the current node as long as it is one of these HTML elements. -/
def closeImplied (b : Builder) (names : List String) : Builder :=
  { b with opened := b.opened.dropWhile (b.tree.isHtmlIn · names) }

/-- Closes what needs no end tag, apart from one kind of element. -/
def closeImpliedExcept (b : Builder) (name : String) : Builder :=
  b.closeImplied (impliedEnds.filter (· != name))

/-! ### Scopes -/

def isMathText (e : Element) : Bool :=
  e.space == .mathMl && ["mi", "mo", "mn", "ms", "mtext"].contains e.name

/-- Whether an element in SVG holds HTML. -/
def isSvgHtml (e : Element) : Bool :=
  e.space == .svg && ["foreignObject", "desc", "title"].contains e.name

/-- Elements beyond which open elements are out of reach. -/
def limitsScope (e : Element) : Bool :=
  e.isHtmlIn ["applet", "caption", "html", "table", "td", "th", "marquee", "object", "template"]
    || isMathText e || isSvgHtml e

def limitsListScope (e : Element) : Bool := limitsScope e || e.isHtmlIn ["ol", "ul"]

/-- The limits for paragraphs. -/
def limitsButtonScope (e : Element) : Bool := limitsScope e || e.isHtml "button"

def limitsTableScope (e : Element) : Bool := e.isHtmlIn ["html", "table", "template"]

/-- The limits inside a list of options. -/
def limitsSelectScope (e : Element) : Bool := !e.isHtmlIn ["optgroup", "option"]

/-- Whether one of these elements passes the test before one limits the scope. -/
def reaches (tree : Tree) (limit : Element → Bool) (test : NodeId → Bool) : List NodeId → Bool
  | [] => false
  | id :: rest =>
    if test id then true
    else if ((tree.element? id).map limit).getD false then false
    else reaches tree limit test rest

def inScope (b : Builder) (limit : Element → Bool) (test : NodeId → Bool) : Bool :=
  reaches b.tree limit test b.opened

/-- Whether an HTML element of that name is open within the limit. -/
def inScopeNamed (b : Builder) (limit : Element → Bool) (name : String) : Bool :=
  b.inScope limit (b.tree.isHtml · name)

/-! ### Placing nodes -/

/-- Where a node goes: behind the last child, or before a table. A table that has been taken out of
the tree passes the node on to the element that was opened before it. -/
inductive Place where
  | lastChild (parent : NodeId)
  | beforeTable (table previous : NodeId)

/-- The fragment below a template. -/
def templateContents (b : Builder) (id : NodeId) : NodeId := (b.tree.firstChild? id).getD id

/-- The place of a node that may not fall into the table that is open. -/
def fosterPlace (b : Builder) : List NodeId → Place
  | [] => .lastChild b.rootElement
  | id :: rest =>
    if b.tree.isHtml id "template" then .lastChild (b.templateContents id)
    else if b.tree.isHtml id "table" then .beforeTable id (rest.head?.getD id)
    else b.fosterPlace rest

/-- The place of a node that belongs into the given element. -/
def placeIn (b : Builder) (target : NodeId) : Place :=
  if b.fostering && b.tree.isHtmlIn target ["table", "tbody", "tfoot", "thead", "tr"] then
    b.fosterPlace b.opened
  else if b.tree.isHtml target "template" then .lastChild (b.templateContents target)
  else .lastChild target

/-- The place of a node that comes next. -/
def place (b : Builder) : Place := b.placeIn (b.current?.getD Tree.root)

def putNode (b : Builder) (place : Place) (id : NodeId) : Builder :=
  { b with tree := match place with
    | .lastChild parent => b.tree.append parent id
    | .beforeTable table previous =>
      if (b.tree.parent? table).isSome then b.tree.insertBefore table id else b.tree.append previous id }

def putText (b : Builder) (content : String) : Builder :=
  { b with tree := match b.place with
    | .lastChild parent => b.tree.appendText parent content
    | .beforeTable table previous =>
      if (b.tree.parent? table).isSome then b.tree.insertTextBefore table content
      else b.tree.appendText previous content }

def putChar (b : Builder) (c : Char) : Builder := b.putText c.toString

/-- Places a comment behind the last child of a node. -/
def putCommentIn (b : Builder) (parent : NodeId) (text : String) : Builder :=
  let (id, tree) := b.tree.create (.comment text)
  { b with tree := tree.append parent id }

def putComment (b : Builder) (text : String) : Builder :=
  let (id, tree) := b.tree.create (.comment text)
  let b := { b with tree }
  b.putNode b.place id

def attributesOf (tag : Tag) : List Attribute := tag.attributes.map fun (name, value) => ⟨.plain name, value⟩

/-- Creates an element that has no place yet. -/
def createElement (b : Builder) (space : Namespace) (name : String) (attributes : List Attribute) :
    NodeId × Builder :=
  let (id, tree) := b.tree.createElement ⟨space, name, Attribute.sorted attributes⟩
  (id, { b with tree })

def putElement (b : Builder) (space : Namespace) (name : String) (attributes : List Attribute) :
    NodeId × Builder :=
  let (id, b) := b.createElement space name attributes
  (id, b.putNode b.place id)

def openElement (b : Builder) (tag : Tag) : NodeId × Builder :=
  let (id, b) := b.putElement .html tag.name (attributesOf tag)
  (id, b.push id)

def addElement (b : Builder) (tag : Tag) : Builder := (b.openElement tag).2

/-- Creates and places the HTML element of a tag, which has no contents. -/
def addVoid (b : Builder) (tag : Tag) : Builder := (b.putElement .html tag.name (attributesOf tag)).2

/-- Creates, places and opens an HTML element that has no tag. -/
def addImplied (b : Builder) (name : String) : Builder := b.addElement ⟨name, [], false⟩

def addRoot (b : Builder) (attributes : List Attribute) : Builder :=
  let (id, b) := b.createElement .html "html" attributes
  { b with tree := b.tree.append Tree.root id, opened := id :: b.opened }

/-- Opens an element that holds text, and reads on as that text. -/
def addText (b : Builder) (tag : Tag) (content : Content) : Builder × Outcome :=
  let b := b.addElement tag
  ({ b with returnMode := b.mode, mode := .text }, .read content)

/-! ### Paragraphs and templates -/

def closeParagraph (b : Builder) : Builder := (b.closeImpliedExcept "p").closeThroughNamed "p"

/-- Closes the paragraph in reach, if there is one. -/
def endParagraph (b : Builder) : Builder :=
  if b.inScopeNamed limitsButtonScope "p" then b.closeParagraph else b

def modeFor (b : Builder) : List NodeId → InsertionMode
  | [] => .inBody
  | id :: rest =>
    let last := rest.isEmpty
    let node := if last then b.context.getD id else id
    match b.tree.element? node with
    | none => b.modeFor rest
    | some e =>
      if e.space ≠ .html then b.modeFor rest
      else
        match e.name with
        | "select" =>
          match rest.find? fun id => b.tree.isHtmlIn id ["template", "table"] with
          | some id => if b.tree.isHtml id "table" then .inSelectInTable else .inSelect
          | none => .inSelect
        | "td" | "th" => if last then .inBody else .inCell
        | "tr" => .inRow
        | "tbody" | "thead" | "tfoot" => .inTableBody
        | "caption" => .inCaption
        | "colgroup" => .inColumnGroup
        | "table" => .inTable
        | "template" => b.templateModes.head?.getD .inBody
        | "head" => if last then .inBody else .inHead
        | "body" => .inBody
        | "frameset" => .inFrameset
        | "html" => if b.head.isSome then .afterHead else .beforeHead
        | _ => b.modeFor rest

def resetMode (b : Builder) : Builder := { b with mode := b.modeFor b.opened }

/-- Drops formatting entries up to and with the latest marker. -/
def clearFormatting (b : Builder) : Builder :=
  { b with formatting := (b.formatting.dropWhile (· != .marker)).drop 1 }

def addMarker (b : Builder) : Builder := { b with formatting := .marker :: b.formatting }

/-- Adds attributes of a second tag of the root element. -/
def mergeRoot (b : Builder) (tag : Tag) : Builder :=
  if b.isOpen "template" then b
  else { b with tree := b.tree.addMissingAttributes b.rootElement (attributesOf tag) }

end Builder

end PageExtract.Markup
