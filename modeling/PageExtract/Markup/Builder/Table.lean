import PageExtract.Markup.Builder.Body

/-!
# Tables

Rows, cells and groups of a table are opened and closed by each other. What does not belong into a
table is placed before it.
-/

namespace PageExtract.Markup.Builder

/-- Treats a token by the rules of the body, placing nodes before the table. -/
def fosterInBody (b : Builder) (token : Token) : Builder × Outcome :=
  let (b, outcome) := { b with fostering := true }.inBody token
  ({ b with fostering := false }, outcome)

def tablePartNames : List String :=
  ["caption", "col", "colgroup", "tbody", "td", "tfoot", "th", "thead", "tr"]

/-- Text in a table. It waits until it is known whether it is blank. -/
def textInTable (b : Builder) (token : Token) : Builder × Outcome :=
  if b.currentIn ["table", "tbody", "tfoot", "thead", "tr"] then
    { b with returnMode := b.mode }.again .inTableText
  else b.fosterInBody token

def closeTable (b : Builder) : Builder := (b.closeThroughNamed "table").resetMode

def startInTable (b : Builder) (tag : Tag) : Builder × Outcome :=
  let bare := b.closeDownTo ["html", "table", "template"]
  match tag.name with
  | "caption" => { bare.addMarker.addElement tag with mode := .inCaption }.done
  | "colgroup" => { bare.addElement tag with mode := .inColumnGroup }.done
  | "col" => (bare.addImplied "colgroup").again .inColumnGroup
  | "tbody" | "tfoot" | "thead" => { bare.addElement tag with mode := .inTableBody }.done
  | "td" | "th" | "tr" => (bare.addImplied "tbody").again .inTableBody
  | "table" =>
    if b.inScopeNamed limitsTableScope "table" then
      let b := b.closeThroughNamed "table"
      b.again (b.modeFor b.opened)
    else b.done
  | "style" | "script" | "template" => b.startInHead tag
  | "input" => if isHidden tag then (b.addVoid tag).done else b.fosterInBody (.startTag tag)
  | "form" =>
    if b.isOpen "template" || b.form.isSome then b.done
    else
      let (id, b) := b.putElement .html tag.name (attributesOf tag)
      { b with form := some id }.done
  | _ => b.fosterInBody (.startTag tag)

def inTable (b : Builder) (token : Token) : Builder × Outcome :=
  match token with
  | .null | .character _ => b.textInTable token
  | .comment text => (b.putComment text).done
  | .startTag tag => b.startInTable tag
  | .endTag tag =>
    if tag.name = "table" then
      if b.inScopeNamed limitsTableScope "table" then b.closeTable.done else b.done
    else if tag.name = "template" then b.closeTemplate.done
    else if ("body" :: "html" :: tablePartNames).contains tag.name then b.done
    else b.fosterInBody token
  | .endOfFile => b.inBody token
  | _ => b.fosterInBody token

/-- A token behind text in a table. Text that is not blank is placed before the table. -/
def inTableText (b : Builder) (token : Token) : Builder × Outcome :=
  match token with
  | .null => b.done
  | .character c => { b with pendingText := b.pendingText ++ [c] }.done
  | _ =>
    let pending := b.pendingText
    let b := { b with pendingText := [] }
    let b :=
      if pending.all isSpace then pending.foldl putChar b
      else pending.foldl (fun b c => (b.fosterInBody (.character c)).1) b
    b.again b.returnMode

def inCaption (b : Builder) (token : Token) : Builder × Outcome :=
  let close (b : Builder) : Builder :=
    ((b.closeImplied impliedEnds).closeThroughNamed "caption").clearFormatting
  let reached := b.inScopeNamed limitsTableScope "caption"
  match token with
  | .startTag tag =>
    if tablePartNames.contains tag.name then
      if reached then (close b).again .inTable else b.done
    else b.inBody token
  | .endTag tag =>
    if tag.name = "caption" then
      if reached then { close b with mode := .inTable }.done else b.done
    else if tag.name = "table" then
      if reached then (close b).again .inTable else b.done
    else if ("body" :: "html" :: tablePartNames).contains tag.name then b.done
    else b.inBody token
  | _ => b.inBody token

def inColumnGroup (b : Builder) (token : Token) : Builder × Outcome :=
  let leave := if b.currentIs "colgroup" then b.pop.again .inTable else b.done
  match token with
  | .character c => if isSpace c then (b.putChar c).done else leave
  | .comment text => (b.putComment text).done
  | .startTag tag =>
    match tag.name with
    | "html" => (b.mergeRoot tag).done
    | "col" => (b.addVoid tag).done
    | "template" => b.startInHead tag
    | _ => leave
  | .endTag tag =>
    match tag.name with
    | "colgroup" => if b.currentIs "colgroup" then { b.pop with mode := .inTable }.done else b.done
    | "col" => b.done
    | "template" => b.closeTemplate.done
    | _ => leave
  | .endOfFile => b.inBody token
  | _ => leave

def rowGroupNames : List String := ["tbody", "tfoot", "thead"]

def inTableBody (b : Builder) (token : Token) : Builder × Outcome :=
  let bare := b.closeDownTo ["tbody", "tfoot", "thead", "template", "html"]
  let leave : Builder × Outcome :=
    if b.inScope limitsTableScope (b.tree.isHtmlIn · ["table", "tbody", "tfoot"]) then
      bare.pop.again .inTable
    else b.done
  match token with
  | .startTag tag =>
    if tag.name = "tr" then { bare.addElement tag with mode := .inRow }.done
    else if ["td", "th"].contains tag.name then (bare.addImplied "tr").again .inRow
    else if tablePartNames.contains tag.name then leave
    else b.inTable token
  | .endTag tag =>
    if rowGroupNames.contains tag.name then
      if b.inScopeNamed limitsTableScope tag.name then { bare.pop with mode := .inTable }.done
      else b.done
    else if tag.name = "table" then leave
    else if ("body" :: "html" :: tablePartNames).contains tag.name then b.done
    else b.inTable token
  | _ => b.inTable token

def inRow (b : Builder) (token : Token) : Builder × Outcome :=
  let bare := b.closeDownTo ["tr", "template", "html"]
  let reached := b.inScopeNamed limitsTableScope "tr"
  let leave : Builder × Outcome := if reached then bare.pop.again .inTableBody else b.done
  match token with
  | .startTag tag =>
    if ["td", "th"].contains tag.name then { (bare.addElement tag).addMarker with mode := .inCell }.done
    else if tablePartNames.contains tag.name then leave
    else b.inTable token
  | .endTag tag =>
    if tag.name = "tr" then
      if reached then { bare.pop with mode := .inTableBody }.done else b.done
    else if tag.name = "table" then leave
    else if rowGroupNames.contains tag.name then
      if b.inScopeNamed limitsTableScope tag.name then leave else b.done
    else if ("body" :: "html" :: tablePartNames).contains tag.name then b.done
    else b.inTable token
  | _ => b.inTable token

def closeCell (b : Builder) : Builder :=
  ((b.closeImplied impliedEnds).closeThrough (b.tree.isHtmlIn · ["td", "th"])).clearFormatting

def inCell (b : Builder) (token : Token) : Builder × Outcome :=
  match token with
  | .startTag tag =>
    if tablePartNames.contains tag.name then
      if b.inScope limitsTableScope (b.tree.isHtmlIn · ["td", "th"]) then b.closeCell.again .inRow
      else b.done
    else b.inBody token
  | .endTag tag =>
    if ["td", "th"].contains tag.name then
      if b.inScopeNamed limitsTableScope tag.name then
        let b := (b.closeImplied impliedEnds).closeThroughNamed tag.name
        { b.clearFormatting with mode := .inRow }.done
      else b.done
    else if ["body", "caption", "col", "colgroup", "html"].contains tag.name then b.done
    else if ["table", "tbody", "tfoot", "thead", "tr"].contains tag.name then
      if b.inScopeNamed limitsTableScope tag.name then b.closeCell.again .inRow else b.done
    else b.inBody token
  | _ => b.inBody token

end PageExtract.Markup.Builder
