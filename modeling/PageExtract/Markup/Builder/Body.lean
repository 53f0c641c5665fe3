import PageExtract.Markup.Builder.Formatting
import PageExtract.Markup.Builder.Head
import PageExtract.Markup.Builder.ForeignNames

/-!
# The body of a page

Most elements are opened where they stand. Blocks end the paragraph in reach, list items end the item
before them, and formatting elements go on in the next block.
-/

namespace PageExtract.Markup.Builder

/-- Blocks that end a paragraph and nothing else. -/
def blockNames : List String := [
  "address", "article", "aside", "blockquote", "center", "details", "dialog", "dir", "div", "dl",
  "fieldset", "figcaption", "figure", "footer", "header", "hgroup", "main", "menu", "nav", "ol", "p",
  "search", "section", "summary", "ul"]

/-- Elements whose end tags close them if they are in reach. -/
def closedByName : List String := [
  "address", "article", "aside", "blockquote", "button", "center", "details", "dialog", "dir", "div",
  "dl", "fieldset", "figcaption", "figure", "footer", "header", "hgroup", "listing", "main", "menu",
  "nav", "ol", "pre", "search", "section", "summary", "ul"]

def headingNames : List String := ["h1", "h2", "h3", "h4", "h5", "h6"]

/-- Formatting elements without a rule of their own. -/
def formattingNames : List String :=
  ["b", "big", "code", "em", "font", "i", "s", "small", "strike", "strong", "tt", "u"]

/-- A frameset can no longer take the place of the body. -/
def keepBody (b : Builder) : Builder := { b with framesetAllowed := false }

def body? (b : Builder) : Option NodeId :=
  (b.opened.reverse[1]?).filter (b.tree.isHtml · "body")

def isHidden (tag : Tag) : Bool :=
  match tag.attributes.find? (·.1 == "type") with
  | some (_, value) => value.map Char.toLower == "hidden"
  | none => false

def addForeign (b : Builder) (space : Namespace) (tag : Tag) : Builder :=
  let attributes := tag.attributes.map fun (name, value) => foreignAttribute space name value
  let (id, b) := b.putElement space (foreignElementName space tag.name) attributes
  if tag.selfClosing then b else b.push id

/-- Closes the list item that one with this tag follows. -/
def closeItemBefore (b : Builder) (tag : Tag) : Builder :=
  let wanted := if tag.name = "li" then ["li"] else ["dd", "dt"]
  let stop := specialNames.filter fun name => !(["address", "div", "p"].contains name)
  let found := b.opened.find? fun id => b.tree.isHtmlIn id wanted || b.tree.isHtmlIn id stop
  match found.filter (b.tree.isHtmlIn · wanted), found.bind b.tree.element? with
  | some _, some e => (b.closeImpliedExcept e.name).closeThroughNamed e.name
  | _, _ => b

/-- A second start tag of the body adds its attributes. -/
def mergeBody (b : Builder) (tag : Tag) : Builder :=
  match b.body? with
  | some body =>
    if b.isOpen "template" then b
    else { b.keepBody with tree := b.tree.addMissingAttributes body (attributesOf tag) }
  | none => b

/-- A frameset takes the place of the body, as long as there is nothing in it. -/
def replaceBody (b : Builder) (tag : Tag) : Builder :=
  match b.framesetAllowed, b.body? with
  | true, some body =>
    let b := { b with tree := b.tree.detach body, opened := [b.rootElement] }
    { b.addElement tag with mode := .inFrameset }
  | _, _ => b

/-- An image, a line break or another element without contents that stands in a line. -/
def addInlineVoid (b : Builder) (tag : Tag) : Builder :=
  let b := b.reopenFormatting.addVoid tag
  if tag.name = "input" && isHidden tag then b else b.keepBody

def addInline (b : Builder) (tag : Tag) : Builder := b.reopenFormatting.addElement tag

/-- A list of options; the mode behind it depends on whether it stands in a table. -/
def addSelect (b : Builder) (tag : Tag) : Builder :=
  let b := (b.addInline tag).keepBody
  let inTable := [InsertionMode.inTable, .inCaption, .inTableBody, .inRow, .inCell].contains b.mode
  { b with mode := if inTable then .inSelectInTable else .inSelect }

/-- A form, unless one is open. -/
def addForm (b : Builder) (tag : Tag) : Builder :=
  let inTemplate := b.isOpen "template"
  if b.form.isSome && !inTemplate then b
  else
    let (id, b) := b.endParagraph.openElement tag
    if inTemplate then b else { b with form := some id }

def startInBody (b : Builder) (tag : Tag) : Builder × Outcome :=
  let name := tag.name
  if headNames.contains name then b.startInHead tag
  else if blockNames.contains name then (b.endParagraph.addElement tag).done
  else if headingNames.contains name then
    let b := b.endParagraph
    ((if b.currentIn headingNames then b.pop else b).addElement tag).done
  else if formattingNames.contains name then (b.reopenFormatting.addFormatting tag).done
  else
    match name with
    | "html" => (b.mergeRoot tag).done
    | "body" => (b.mergeBody tag).done
    | "frameset" => (b.replaceBody tag).done
    | "pre" | "listing" => { (b.endParagraph.addElement tag).keepBody with skipLineFeed := true }.done
    | "form" => (b.addForm tag).done
    | "li" | "dd" | "dt" => ((b.keepBody.closeItemBefore tag).endParagraph.addElement tag).done
    | "plaintext" => (b.endParagraph.addElement tag, .read .plain)
    | "button" =>
      let b :=
        if b.inScopeNamed limitsScope "button" then
          (b.closeImplied impliedEnds).closeThroughNamed "button"
        else b
      (b.addInline tag).keepBody.done
    | "a" => (b.closeOpenLink.reopenFormatting.addFormatting tag).done
    | "nobr" =>
      let b := b.reopenFormatting
      let b :=
        if b.inScopeNamed limitsScope "nobr" then (b.closeFormatting "nobr").reopenFormatting else b
      (b.addFormatting tag).done
    | "applet" | "marquee" | "object" => (b.addInline tag).addMarker.keepBody.done
    | "table" =>
      let b := if b.lenient then b else b.endParagraph
      { (b.addElement tag).keepBody with mode := .inTable }.done
    | "area" | "br" | "embed" | "img" | "keygen" | "wbr" | "input" => (b.addInlineVoid tag).done
    | "image" => (b.addInlineVoid { tag with name := "img" }).done
    | "param" | "source" | "track" => (b.addVoid tag).done
    | "hr" => (b.endParagraph.addVoid tag).keepBody.done
    | "textarea" => { b.keepBody with skipLineFeed := true }.addText tag (.text name)
    | "xmp" => b.endParagraph.reopenFormatting.keepBody.addText tag (.raw name)
    | "iframe" => b.keepBody.addText tag (.raw name)
    | "noembed" | "noscript" => b.addText tag (.raw name)
    | "select" => (b.addSelect tag).done
    | "optgroup" | "option" => ((b.popIf "option").addInline tag).done
    | "rb" | "rtc" =>
      ((if b.inScopeNamed limitsScope "ruby" then b.closeImplied impliedEnds else b).addElement tag).done
    | "rp" | "rt" =>
      ((if b.inScopeNamed limitsScope "ruby" then b.closeImpliedExcept "rtc" else b).addElement tag).done
    | "math" => (b.addForeign .mathMl tag).done
    | "svg" => (b.addForeign .svg tag).done
    | "caption" | "col" | "colgroup" | "frame" | "head" | "tbody" | "td" | "tfoot" | "th" | "thead"
    | "tr" => b.done
    | _ => (b.addInline tag).done

def closeForm (b : Builder) : Builder :=
  if b.isOpen "template" then
    if b.inScopeNamed limitsScope "form" then (b.closeImplied impliedEnds).closeThroughNamed "form"
    else b
  else
    match b.form with
    | none => b
    | some form =>
      let b := { b with form := none }
      if b.inScope limitsScope (· == form) then (b.closeImplied impliedEnds).removeOpen form else b

def endInBody (b : Builder) (tag : Tag) : Builder × Outcome :=
  let name := tag.name
  if closedByName.contains name then
    if b.inScopeNamed limitsScope name then
      ((b.closeImplied impliedEnds).closeThroughNamed name).done
    else b.done
  else if headingNames.contains name then
    if b.inScope limitsScope (b.tree.isHtmlIn · headingNames) then
      ((b.closeImplied impliedEnds).closeThrough (b.tree.isHtmlIn · headingNames)).done
    else b.done
  else if formattingNames.contains name then (b.closeFormatting name).done
  else
    match name with
    | "template" => b.closeTemplate.done
    | "body" =>
      if b.inScopeNamed limitsScope "body" then { b with mode := .afterBody }.done else b.done
    | "html" => if b.inScopeNamed limitsScope "body" then b.again .afterBody else b.done
    | "form" => b.closeForm.done
    | "p" =>
      let b := if b.inScopeNamed limitsButtonScope "p" then b else b.addImplied "p"
      b.closeParagraph.done
    | "li" | "dd" | "dt" =>
      if b.inScopeNamed (if name = "li" then limitsListScope else limitsScope) name then
        ((b.closeImpliedExcept name).closeThroughNamed name).done
      else b.done
    | "a" | "nobr" => (b.closeFormatting name).done
    | "applet" | "marquee" | "object" =>
      if b.inScopeNamed limitsScope name then
        ((b.closeImplied impliedEnds).closeThroughNamed name).clearFormatting.done
      else b.done
    | "br" => (b.addInlineVoid ⟨"br", [], false⟩).done
    | _ => (b.closeOther name).done

def endInTemplate (b : Builder) : Builder × Outcome :=
  if b.isOpen "template" then
    let b := (b.closeThroughNamed "template").clearFormatting
    let b := { b with templateModes := b.templateModes.drop 1 }.resetMode
    b.again b.mode
  else b.done

def putBodyChar (b : Builder) (c : Char) : Builder :=
  let b := b.reopenFormatting
  (if isSpace c then b else b.keepBody).putChar c

def inBody (b : Builder) (token : Token) : Builder × Outcome :=
  match token with
  | .character c => (b.putBodyChar c).done
  | .comment text => (b.putComment text).done
  | .startTag tag => b.startInBody tag
  | .endTag tag => b.endInBody tag
  | .endOfFile => if b.templateModes.isEmpty then b.done else b.endInTemplate
  | _ => b.done

end PageExtract.Markup.Builder
