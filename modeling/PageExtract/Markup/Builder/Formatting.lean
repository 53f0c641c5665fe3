import PageExtract.Markup.Builder.State

/-!
# Formatting elements

Formatting elements that were closed by the end of a block are opened again in the next one. A
formatting end tag that crosses blocks moves them: the parts of the formatting inside and outside the
block are split.
-/

namespace PageExtract.Markup.Builder

/-- Elements that end tags of other elements do not close. -/
def specialNames : List String := [
  "address", "applet", "area", "article", "aside", "base", "basefont", "bgsound", "blockquote", "body",
  "br", "button", "caption", "center", "col", "colgroup", "dd", "details", "dir", "div", "dl", "dt",
  "embed", "fieldset", "figcaption", "figure", "footer", "form", "frame", "frameset", "h1", "h2", "h3",
  "h4", "h5", "h6", "head", "header", "hgroup", "hr", "html", "iframe", "img", "input", "isindex", "li",
  "link", "listing", "main", "marquee", "menu", "meta", "nav", "noembed", "noframes", "noscript",
  "object", "ol", "p", "param", "plaintext", "pre", "script", "section", "select", "source", "style",
  "summary", "table", "tbody", "td", "template", "textarea", "tfoot", "th", "thead", "title", "tr",
  "track", "ul", "wbr", "xmp"]

/-- The entries since the latest marker. -/
def recentFormatting (b : Builder) : List FormattingEntry := b.formatting.takeWhile (· != .marker)

def formattingTag? (b : Builder) (id : NodeId) : Option Tag :=
  b.formatting.findSome? fun
    | .element other tag => if other = id then some tag else none
    | .marker => none

def dropFormatting (b : Builder) (id : NodeId) : Builder :=
  { b with formatting := b.formatting.filter fun entry => entry.id? != some id }

/-- Puts another entry in the place of that of an element. -/
def replaceFormatting (b : Builder) (id : NodeId) (entry : FormattingEntry) : Builder :=
  { b with formatting := b.formatting.map fun old => if old.id? = some id then entry else old }

/-- The entries with a later one right behind that of an element. -/
def insertFormatting (entry : FormattingEntry) (id : NodeId) : List FormattingEntry → List FormattingEntry
  | [] => []
  | old :: rest =>
    if old.id? = some id then entry :: old :: rest
    else old :: insertFormatting entry id rest

/-- Whether an entry needs no opening: it is a marker or its element is open. -/
def isSettled (b : Builder) (entry : FormattingEntry) : Bool :=
  match entry with
  | .marker => true
  | .element id _ => b.opened.contains id

/-- Opens new elements for the given entries, the earliest first. -/
def reopen (b : Builder) : List FormattingEntry → Builder
  | [] => b
  | .marker :: rest => b.reopen rest
  | .element id tag :: rest =>
    let (new, b) := b.openElement tag
    (b.replaceFormatting id (.element new tag)).reopen rest

/-- Opens the latest formatting elements again that are not open. -/
def reopenFormatting (b : Builder) : Builder :=
  b.reopen (b.formatting.takeWhile fun entry => !b.isSettled entry).reverse

/-- Whether two tags have the same name and the same attributes in whatever order. -/
def sameTag (a b : Tag) : Bool :=
  a.name == b.name && Attribute.sorted (attributesOf a) == Attribute.sorted (attributesOf b)

/-- Opens a formatting element. Of four equal ones in a row the earliest entry is dropped. -/
def addFormatting (b : Builder) (tag : Tag) : Builder :=
  let same := b.recentFormatting.filter fun
    | .element _ other => sameTag tag other
    | .marker => false
  let b :=
    if 3 ≤ same.length then
      match same.getLast?.bind FormattingEntry.id? with
      | some id => b.dropFormatting id
      | none => b
    else b
  let (id, b) := b.openElement tag
  { b with formatting := .element id tag :: b.formatting }

/-- The end tag of an element without a rule of its own. Special elements are not crossed. -/
def closeOther (b : Builder) (name : String) : Builder :=
  let stop := b.opened.find? fun id => b.tree.isHtml id name || b.tree.isHtmlIn id specialNames
  match stop with
  | some id =>
    if b.tree.isHtml id name then
      { b with opened := (b.opened.dropWhile (· != id)).drop 1 }
    else b
  | none => b

/-- Walks from a block down to the formatting element. Elements that are no formatting, and those
more than three steps away, are taken out of the open ones; the others are replaced by copies, each of
which takes the part before it. Gives the outermost part, and the copy behind which the new entry
goes, if any was made. -/
def splitBetween (block : NodeId) : (count : Nat) → List NodeId → (last : NodeId) → (mark : Option NodeId) →
    Builder → Builder × NodeId × Option NodeId
  | _, [], last, mark, b => (b, last, mark)
  | count, node :: rest, last, mark, b =>
    match if count < 3 then b.formattingTag? node else none with
    | none =>
      let b := if count < 3 then b else b.dropFormatting node
      splitBetween block (count + 1) rest last mark (b.removeOpen node)
    | some tag =>
      let (copy, b) := b.createElement .html tag.name (attributesOf tag)
      let b := { b with opened := b.opened.map fun id => if id = node then copy else id }
      let b := b.replaceFormatting node (.element copy tag)
      let mark := if last = block then some copy else mark
      let b := { b with tree := b.tree.append copy last }
      splitBetween block (count + 1) rest copy mark b

/-- The list with a new entry before the given one. -/
def insertAbove (new entry : NodeId) : List NodeId → List NodeId
  | [] => []
  | id :: rest => if id = entry then new :: id :: rest else id :: insertAbove new entry rest

/-- Moves a block out of a formatting element that encloses it: the element is split, its outer part
stays and a copy takes the contents of the block. -/
def splitFormatting (b : Builder) (element : NodeId) (tag : Tag) (block : NodeId) : Builder :=
  let above := b.opened.takeWhile (· != element)
  let ancestor := ((b.opened.drop (above.length + 1)).head?).getD b.rootElement
  let between := (above.dropWhile (· != block)).drop 1
  let (b, last, mark) := splitBetween block 0 between block none b
  let b := { b with tree := b.tree.detach last }
  let b := b.putNode (b.placeIn ancestor) last
  let (copy, b) := b.createElement .html tag.name (attributesOf tag)
  let b := { b with tree := (b.tree.moveChildren block copy).append block copy }
  let b :=
    match mark with
    | none => b.replaceFormatting element (.element copy tag)
    | some mark =>
      { b with formatting := insertFormatting (.element copy tag) mark b.formatting }.dropFormatting element
  { b with opened := insertAbove copy block (b.opened.erase element) }

/-- The rounds of closing a formatting element: each splits it at the outermost block inside it, and
the last closes it. -/
def closeFormattingRounds (name : String) : (rounds : Nat) → Builder → Builder
  | 0, b => b
  | rounds + 1, b =>
    let entry := b.recentFormatting.findSome? fun
      | .element id tag => if tag.name = name then some (id, tag) else none
      | .marker => none
    match entry with
    | none => b.closeOther name
    | some (id, tag) =>
      if !b.opened.contains id then b.dropFormatting id
      else if !b.inScope limitsScope (· == id) then b
      else
        let above := b.opened.takeWhile (· != id)
        match (above.filter (b.tree.isHtmlIn · specialNames)).getLast? with
        | none => { b with opened := b.opened.drop (above.length + 1) }.dropFormatting id
        | some block => closeFormattingRounds name rounds (b.splitFormatting id tag block)

def closeFormatting (b : Builder) (name : String) : Builder :=
  match b.current? with
  | some id =>
    if b.tree.isHtml id name && (b.formattingTag? id).isNone then b.pop
    else closeFormattingRounds name 8 b
  | none => closeFormattingRounds name 8 b

/-- Closes a link that is still among the formatting elements when another begins. -/
def closeOpenLink (b : Builder) : Builder :=
  match (b.recentFormatting.filterMap FormattingEntry.id?).find? (b.tree.isHtml · "a") with
  | none => b
  | some id => ((b.closeFormatting "a").dropFormatting id).removeOpen id

end PageExtract.Markup.Builder
