import PageExtract.Markup.Tree

/-!
# The text of markup

The way through a tree is written step by step: a start tag with its attributes in their order where an
element is entered, an end tag where it is left. Elements that never have contents have no end tag; the
text of scripts, styles and their like is written as it is.
-/

namespace PageExtract.Markup

def escapeText (c : Char) : String :=
  match c with
  | '&' => "&amp;"
  | '<' => "&lt;"
  | '>' => "&gt;"
  | '\u00a0' => "&nbsp;"
  | c => c.toString

def escapeValue (c : Char) : String :=
  match c with
  | '&' => "&amp;"
  | '"' => "&quot;"
  | '\u00a0' => "&nbsp;"
  | c => c.toString

/-- Elements without contents and end tag. -/
def voidNames : List String := [
  "area", "base", "basefont", "bgsound", "br", "col", "embed", "frame", "hr", "img", "input", "keygen",
  "link", "meta", "param", "source", "track", "wbr"]

/-- Elements whose text is written as it is. -/
def rawTextNames : List String :=
  ["style", "script", "xmp", "iframe", "noembed", "noframes", "plaintext"]

/-- The label of a namespace in front of the name of an attribute. -/
def attributeLabel (name : AttributeName) : String :=
  match name.space with
  | .none => ""
  | .xml => "xml:"
  | .xLink => "xlink:"
  | .xmlNames => if name.name = "xmlns" then "" else "xmlns:"
  | _ => "unknown_namespace:"

/-- An attribute with the blank before it. -/
def Attribute.text (a : Attribute) : String :=
  " " ++ attributeLabel a.name ++ a.name.name ++ "=\"" ++ String.join (a.value.toList.map escapeValue) ++ "\""

def Element.startTag (e : Element) : String :=
  "<" ++ e.name ++ String.join (e.attributes.map Attribute.text) ++ ">"

/-- What is known of an element while what is below it is written. -/
structure Enclosing where
  /-- Whether text is written as it is. -/
  raw : Bool := false
  /-- Whether the element has no contents: neither tags below it nor its end tag are written. -/
  void : Bool := false

/-- The markup written so far, and the elements that have not been left, the innermost first. -/
structure Writer where
  text : String := ""
  enclosing : List Enclosing := []

namespace Writer

def innermost (w : Writer) : Enclosing := w.enclosing.head?.getD {}

def put (w : Writer) (markup : String) : Writer := { w with text := w.text ++ markup }

def enter (w : Writer) (e : Element) : Writer :=
  let inner : Enclosing := ⟨e.isHtmlIn rawTextNames, w.innermost.void || e.isHtmlIn voidNames⟩
  let w := if w.innermost.void then w else w.put e.startTag
  { w with enclosing := inner :: w.enclosing }

def leave (w : Writer) (e : Element) : Writer :=
  let written := if w.innermost.void then w else w.put ("</" ++ e.name ++ ">")
  { written with enclosing := w.enclosing.drop 1 }

end Writer

namespace Tree

def write (t : Tree) (w : Writer) : Visit → Writer
  | .enter id =>
    match t.kind? id with
    | some (.text content) =>
      w.put (if w.innermost.raw then content else String.join (content.toList.map escapeText))
    | some (.comment text) => w.put ("<!--" ++ text ++ "-->")
    | some (.doctype name) => w.put ("<!DOCTYPE " ++ name ++ ">")
    | some (.element e) => w.enter e
    | some .fragment | some .document | none => w
  | .leave id =>
    match t.element? id with
    | some e => w.leave e
    | none => w

def markup (t : Tree) (visits : List Visit) : String := (visits.foldl t.write {}).text

def outerMarkup (t : Tree) (id : NodeId) : String := t.markup (t.walk id)

def innerMarkup (t : Tree) (id : NodeId) : String :=
  t.markup ((t.walk id).filter fun visit => visit != .enter id && visit != .leave id)

end Tree

end PageExtract.Markup
