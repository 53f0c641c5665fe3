import PageExtract.Markup.Builder.State

/-!
# Before the body of a page

The root element, the head and what may stand in it. Elements of the head that are found elsewhere
are treated by the same rules.
-/

namespace PageExtract.Markup.Builder

/-- Elements of the head that may also be found in the body. -/
def headNames : List String :=
  ["base", "basefont", "bgsound", "link", "meta", "noframes", "script", "style", "template", "title"]

def closeTemplate (b : Builder) : Builder :=
  if b.isOpen "template" then
    let b := (b.closeImplied impliedEndsOfTemplate).closeThroughNamed "template"
    let b := b.clearFormatting
    { b with templateModes := b.templateModes.drop 1 }.resetMode
  else b

/-- Whether the start tag of a template declares a shadow tree of the current node. The root element
has none. -/
def declaresShadow (b : Builder) (tag : Tag) : Bool :=
  let isMode (name value : String) : Bool := name == "shadowrootmode" && ["open", "close"].contains value
  tag.attributes.any (fun (name, value) => isMode name value) && b.current? != some b.rootElement

/-- The start tag of a template. One that declares a shadow tree is not opened, but the mode changes
as if it were. -/
def startTemplate (b : Builder) (tag : Tag) : Builder :=
  let b := b.addMarker
  let b := { b with
    framesetAllowed := false, mode := .inTemplate, templateModes := .inTemplate :: b.templateModes }
  if b.declaresShadow tag then b else b.addElement tag

def startInHead (b : Builder) (tag : Tag) : Builder × Outcome :=
  match tag.name with
  | "title" => b.addText tag (.text tag.name)
  | "noframes" | "style" | "noscript" => b.addText tag (.raw tag.name)
  | "script" => b.addText tag (.script tag.name .code)
  | "template" => (b.startTemplate tag).done
  | _ => (b.addVoid tag).done

def initial (b : Builder) (token : Token) : Builder × Outcome :=
  match token with
  | .comment text => (b.putCommentIn Tree.root text).done
  | .character c =>
    if isSpace c then b.done else { b with lenient := true }.again .beforeHtml
  | _ => { b with lenient := true }.again .beforeHtml

def beforeHtml (b : Builder) (token : Token) : Builder × Outcome :=
  match token with
  | .comment text => (b.putCommentIn Tree.root text).done
  | .startTag tag =>
    if tag.name = "html" then { b.addRoot (attributesOf tag) with mode := .beforeHead }.done
    else (b.addRoot []).again .beforeHead
  | .endTag tag =>
    if ["head", "body", "html", "br"].contains tag.name then (b.addRoot []).again .beforeHead
    else b.done
  | .character c => if isSpace c then b.done else (b.addRoot []).again .beforeHead
  | _ => (b.addRoot []).again .beforeHead

/-- Opens a head that has no tag, and treats the token in it. -/
def impliedHead (b : Builder) : Builder × Outcome :=
  let (id, b) := b.openElement ⟨"head", [], false⟩
  { b with head := some id }.again .inHead

def beforeHead (b : Builder) (token : Token) : Builder × Outcome :=
  match token with
  | .comment text => (b.putComment text).done
  | .startTag tag =>
    match tag.name with
    | "html" => (b.mergeRoot tag).done
    | "head" =>
      let (id, b) := b.openElement tag
      { b with head := some id, mode := .inHead }.done
    | _ => b.impliedHead
  | .endTag tag => if ["head", "body", "html", "br"].contains tag.name then b.impliedHead else b.done
  | .character c => if isSpace c then b.done else b.impliedHead
  | _ => b.impliedHead

def inHead (b : Builder) (token : Token) : Builder × Outcome :=
  match token with
  | .comment text => (b.putComment text).done
  | .startTag tag =>
    if tag.name = "html" then (b.mergeRoot tag).done
    else if tag.name = "head" then b.done
    else if tag.name = "noscript" || headNames.contains tag.name then b.startInHead tag
    else b.pop.again .afterHead
  | .endTag tag =>
    match tag.name with
    | "head" => { b.pop with mode := .afterHead }.done
    | "body" | "html" | "br" => b.pop.again .afterHead
    | "template" => b.closeTemplate.done
    | _ => b.done
  | .character c => if isSpace c then (b.putChar c).done else b.pop.again .afterHead
  | _ => b.pop.again .afterHead

/-- Opens a body that has no tag, and treats the token in it. -/
def impliedBody (b : Builder) : Builder × Outcome := (b.addImplied "body").again .inBody

/-- An element of the head behind the head still goes into it. -/
def startBehindHead (b : Builder) (tag : Tag) : Builder × Outcome :=
  match b.head with
  | none => b.startInHead tag
  | some head =>
    let (b, outcome) := (b.push head).startInHead tag
    (b.removeOpen head, outcome)

def afterHead (b : Builder) (token : Token) : Builder × Outcome :=
  match token with
  | .comment text => (b.putComment text).done
  | .startTag tag =>
    match tag.name with
    | "html" => (b.mergeRoot tag).done
    | "body" => { b.addElement tag with framesetAllowed := false, mode := .inBody }.done
    | "frameset" => { b.addElement tag with mode := .inFrameset }.done
    | "head" => b.done
    | _ => if headNames.contains tag.name then b.startBehindHead tag else b.impliedBody
  | .endTag tag =>
    match tag.name with
    | "template" => b.closeTemplate.done
    | "body" | "html" | "br" => b.impliedBody
    | _ => b.done
  | .character c => if isSpace c then (b.putChar c).done else b.impliedBody
  | _ => b.impliedBody

end PageExtract.Markup.Builder
