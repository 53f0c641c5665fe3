import PageExtract.Markup.Builder.Table

/-!
# The modes of a page, and tokens in SVG and MathML

Lists of options, templates, framesets and the end of a page have modes of their own. Inside SVG and
MathML elements are opened in their namespace until a tag or an integration point leads back to HTML.
-/

namespace PageExtract.Markup.Builder

/-- Text of an element that holds nothing else. -/
def inText (b : Builder) (token : Token) : Builder × Outcome :=
  match token with
  | .character c => (b.putChar c).done
  | .endOfFile => b.pop.again b.returnMode
  | .endTag tag =>
    ({ b.pop with mode := b.returnMode }, if tag.name = "script" then .read .start else .done)
  | _ => b.done

def inSelect (b : Builder) (token : Token) : Builder × Outcome :=
  let reached := b.inScopeNamed limitsSelectScope "select"
  let closed := b.closeThroughNamed "select"
  match token with
  | .character c => (b.putChar c).done
  | .comment text => (b.putComment text).done
  | .startTag tag =>
    match tag.name with
    | "html" => (b.mergeRoot tag).done
    | "option" => ((b.popIf "option").addElement tag).done
    | "optgroup" => (((b.popIf "option").popIf "optgroup").addElement tag).done
    | "hr" => (((b.popIf "option").popIf "optgroup").addVoid tag).done
    | "select" => if reached then closed.resetMode.done else b.done
    | "input" | "keygen" | "textarea" =>
      if reached then closed.again (closed.modeFor closed.opened) else b.done
    | "script" | "template" => b.startInHead tag
    | _ => b.done
  | .endTag tag =>
    match tag.name with
    | "optgroup" =>
      let second := (b.opened[1]?.map (b.tree.isHtml · "optgroup")).getD false
      let b := if b.currentIs "option" && second then b.pop else b
      (b.popIf "optgroup").done
    | "option" => (b.popIf "option").done
    | "select" => if reached then closed.resetMode.done else b.done
    | "template" => b.closeTemplate.done
    | _ => b.done
  | .endOfFile => b.inBody token
  | _ => b.done

/-- A token in a list of options that stands in a table. -/
def inSelectInTable (b : Builder) (token : Token) : Builder × Outcome :=
  let names := ["caption", "table", "tbody", "tfoot", "thead", "tr", "td", "th"]
  let closed := b.closeThroughNamed "select"
  match token with
  | .startTag tag =>
    if names.contains tag.name then closed.again (closed.modeFor closed.opened) else b.inSelect token
  | .endTag tag =>
    if names.contains tag.name then
      if b.inScopeNamed limitsTableScope tag.name then closed.again (closed.modeFor closed.opened)
      else b.done
    else b.inSelect token
  | _ => b.inSelect token

/-- Goes on in a template in another mode. -/
def switchTemplate (b : Builder) (mode : InsertionMode) : Builder × Outcome :=
  { b with templateModes := mode :: b.templateModes.drop 1 }.again mode

def inTemplate (b : Builder) (token : Token) : Builder × Outcome :=
  match token with
  | .character _ | .comment _ => b.inBody token
  | .startTag tag =>
    if headNames.contains tag.name then b.startInHead tag
    else
      match tag.name with
      | "caption" | "colgroup" | "tbody" | "tfoot" | "thead" => b.switchTemplate .inTable
      | "col" => b.switchTemplate .inColumnGroup
      | "tr" => b.switchTemplate .inTableBody
      | "td" | "th" => b.switchTemplate .inRow
      | _ => b.switchTemplate .inBody
  | .endTag tag => if tag.name = "template" then b.closeTemplate.done else b.done
  | .endOfFile => b.endInTemplate
  | _ => b.done

def afterBody (b : Builder) (token : Token) : Builder × Outcome :=
  match token with
  | .character c => if isSpace c then b.inBody token else b.again .inBody
  | .comment text => (b.putCommentIn b.rootElement text).done
  | .startTag tag => if tag.name = "html" then (b.mergeRoot tag).done else b.again .inBody
  | .endTag tag =>
    if tag.name = "html" then
      if b.context.isSome then b.done else { b with mode := .afterAfterBody }.done
    else b.again .inBody
  | .endOfFile => b.done
  | _ => b.again .inBody

def inFrameset (b : Builder) (token : Token) : Builder × Outcome :=
  match token with
  | .character c => if isSpace c then (b.putChar c).done else b.done
  | .comment text => (b.putComment text).done
  | .startTag tag =>
    match tag.name with
    | "html" => (b.mergeRoot tag).done
    | "frameset" => (b.addElement tag).done
    | "frame" => (b.addVoid tag).done
    | "noframes" => b.startInHead tag
    | _ => b.done
  | .endTag tag =>
    if tag.name = "frameset" && b.opened.length ≠ 1 then
      let b := b.pop
      if b.context.isNone && !b.currentIs "frameset" then { b with mode := .afterFrameset }.done
      else b.done
    else b.done
  | _ => b.done

def afterFrameset (b : Builder) (token : Token) : Builder × Outcome :=
  match token with
  | .character c => if isSpace c then (b.putChar c).done else b.done
  | .comment text => (b.putComment text).done
  | .startTag tag =>
    match tag.name with
    | "html" => (b.mergeRoot tag).done
    | "noframes" => b.startInHead tag
    | _ => b.done
  | .endTag tag => if tag.name = "html" then { b with mode := .afterAfterFrameset }.done else b.done
  | _ => b.done

def afterAfterBody (b : Builder) (token : Token) : Builder × Outcome :=
  match token with
  | .character c => if isSpace c then b.inBody token else b.again .inBody
  | .comment text => (b.putCommentIn Tree.root text).done
  | .startTag tag => if tag.name = "html" then (b.mergeRoot tag).done else b.again .inBody
  | .endOfFile => b.done
  | _ => b.again .inBody

/-- A token behind the end of the root element of a page with frames. -/
def afterAfterFrameset (b : Builder) (token : Token) : Builder × Outcome :=
  match token with
  | .character c => if isSpace c then b.inBody token else b.done
  | .comment text => (b.putCommentIn Tree.root text).done
  | .startTag tag =>
    match tag.name with
    | "html" => (b.mergeRoot tag).done
    | "noframes" => b.startInHead tag
    | _ => b.done
  | _ => b.done

def treat (b : Builder) (token : Token) : Builder × Outcome :=
  match b.mode with
  | .initial => b.initial token
  | .beforeHtml => b.beforeHtml token
  | .beforeHead => b.beforeHead token
  | .inHead => b.inHead token
  | .afterHead => b.afterHead token
  | .inBody => b.inBody token
  | .text => b.inText token
  | .inTable => b.inTable token
  | .inTableText => b.inTableText token
  | .inCaption => b.inCaption token
  | .inColumnGroup => b.inColumnGroup token
  | .inTableBody => b.inTableBody token
  | .inRow => b.inRow token
  | .inCell => b.inCell token
  | .inSelect => b.inSelect token
  | .inSelectInTable => b.inSelectInTable token
  | .inTemplate => b.inTemplate token
  | .afterBody => b.afterBody token
  | .inFrameset => b.inFrameset token
  | .afterFrameset => b.afterFrameset token
  | .afterAfterBody => b.afterAfterBody token
  | .afterAfterFrameset => b.afterAfterFrameset token

/-! ### SVG and MathML -/

/-- The element that says whether the rules for SVG and MathML apply. -/
def adjustedCurrent? (b : Builder) : Option Element := b.adjustedCurrentId?.bind b.tree.element?

def isForeign (b : Builder) : Bool := (b.adjustedCurrent?.map (·.space != .html)).getD false

/-- Whether the rules for SVG and MathML apply to the token. Integration points hold HTML. -/
def isForeignToken (b : Builder) (token : Token) : Bool :=
  match b.adjustedCurrent? with
  | none => false
  | some e =>
    if e.space == .html then false
    else
      match token with
      | .endOfFile => false
      | .character _ | .null => !isMathText e && !isSvgHtml e
      | .startTag tag =>
        if isMathText e && !(["mglyph", "malignmark"].contains tag.name) then false
        else if isSvgHtml e then false
        else !(e.space == .mathMl && e.name == "annotation-xml" && tag.name == "svg")
      | _ => true

/-- Tags that lead back to HTML. -/
def breakoutNames : List String := [
  "b", "big", "blockquote", "body", "br", "center", "code", "dd", "div", "dl", "dt", "em", "embed",
  "h1", "h2", "h3", "h4", "h5", "h6", "head", "hr", "i", "img", "li", "listing", "menu", "meta", "nobr",
  "ol", "p", "pre", "ruby", "s", "small", "span", "strong", "strike", "sub", "sup", "table", "tt", "u",
  "ul", "var"]

/-- Closes elements down to HTML or an integration point, and treats the token there. -/
def breakOut (b : Builder) (token : Token) : Builder × Outcome :=
  let holdsHtml (id : NodeId) : Bool :=
    match b.tree.element? id with
    | some e => e.space == .html || isMathText e || isSvgHtml e
    | none => true
  { b with opened := b.opened.dropWhile fun id => !holdsHtml id }.treat token

/-- An end tag closes the nearest element of its name, upper and lower case not told apart. From the
first HTML element on the rules of HTML apply, and the root element is not closed. -/
def endInForeign (b : Builder) (tag : Tag) : (first : Bool) → List NodeId → Builder × Outcome
  | _, [] => b.done
  | _, [_] => b.done
  | first, id :: rest =>
    match b.tree.element? id with
    | none => b.done
    | some e =>
      if !first && e.space == .html then b.treat (.endTag tag)
      else if e.name.map Char.toLower = tag.name then { b with opened := rest }.done
      else b.endInForeign tag false rest

def inForeign (b : Builder) (token : Token) : Builder × Outcome :=
  match token with
  | .null => (b.putChar replacement).done
  | .character c => ((if isSpace c then b else b.keepBody).putChar c).done
  | .comment text => (b.putComment text).done
  | .startTag tag =>
    let leaves := breakoutNames.contains tag.name || (tag.name = "font" &&
      tag.attributes.any fun (name, _) => ["color", "face", "size"].contains name)
    if leaves then b.breakOut token
    else
      match b.adjustedCurrent? with
      | some e => (b.addForeign e.space tag).done
      | none => b.done
  | .endTag tag =>
    if ["br", "p"].contains tag.name then b.breakOut token else b.endInForeign tag true b.opened
  | _ => b.done

end PageExtract.Markup.Builder
