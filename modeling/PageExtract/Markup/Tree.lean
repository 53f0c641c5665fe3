import PageExtract.Markup.Name

/-!
# The tree of a page

Nodes are kept in the order of their creation and refer to each other by their place in it, so a node
that is moved keeps its identity. The first node is the root. A node is linked to its parent, to the
nodes beside it and to its first and last child. Every operation that places a node first takes it from
its former place.

The links of a node are changed one by one, and nothing else ties them together: `moveChildren` tells
only the first and the last child of their new parent, those between keep the former one. So `walk`,
which goes through a tree from link to link, says what lies below a node and where elements end.
-/

namespace PageExtract.Markup

/-- What a node is. The contents of a template hang below a fragment of their own. -/
inductive NodeKind where
  | document
  | fragment
  | doctype (name : String)
  | comment (text : String)
  | text (content : String)
  | element (element : Element)
deriving DecidableEq, Repr, Inhabited

/-- The place of a node in the order of creation. -/
abbrev NodeId := Nat

structure Node where
  kind : NodeKind
  parent : Option NodeId := none
  previous : Option NodeId := none
  next : Option NodeId := none
  /-- The first and the last child. -/
  ends : Option (NodeId × NodeId) := none
deriving DecidableEq, Repr, Inhabited

/-- The nodes in the order of their creation. -/
structure Tree where
  nodes : Array Node
deriving DecidableEq, Repr, Inhabited

/-- A step on the way through a tree: a node is entered before all below it and left behind that. -/
inductive Visit where
  | enter (id : NodeId)
  | leave (id : NodeId)
deriving DecidableEq, Repr, Inhabited

def Visit.entered? : Visit → Option NodeId
  | .enter id => some id
  | .leave _ => none

namespace Tree

def ofRoot (kind : NodeKind) : Tree := ⟨#[{ kind }]⟩

def root : NodeId := 0

def size (t : Tree) : Nat := t.nodes.size

def kind? (t : Tree) (id : NodeId) : Option NodeKind := t.nodes[id]?.map (·.kind)

def parent? (t : Tree) (id : NodeId) : Option NodeId := t.nodes[id]?.bind (·.parent)

def previous? (t : Tree) (id : NodeId) : Option NodeId := t.nodes[id]?.bind (·.previous)

def next? (t : Tree) (id : NodeId) : Option NodeId := t.nodes[id]?.bind (·.next)

def ends? (t : Tree) (id : NodeId) : Option (NodeId × NodeId) := t.nodes[id]?.bind (·.ends)

def firstChild? (t : Tree) (id : NodeId) : Option NodeId := (t.ends? id).map (·.1)

def lastChild? (t : Tree) (id : NodeId) : Option NodeId := (t.ends? id).map (·.2)

/-- The nodes on a way from link to link, at most `fuel` of them. -/
def along (link : NodeId → Option NodeId) : (fuel : Nat) → NodeId → List NodeId
  | 0, _ => []
  | fuel + 1, id =>
    match link id with
    | some other => other :: along link fuel other
    | none => []

/-- The nodes before a node, the nearest first. -/
def nodesBefore (t : Tree) (id : NodeId) : List NodeId := along t.previous? t.size id

/-- The nodes behind a node, the nearest first. -/
def nodesBehind (t : Tree) (id : NodeId) : List NodeId := along t.next? t.size id

/-- A list up to and with the first entry that equals the given one. -/
def upTo (last : NodeId) : List NodeId → List NodeId
  | [] => []
  | id :: rest => if id = last then [id] else id :: upTo last rest

def children (t : Tree) (id : NodeId) : List NodeId :=
  match t.ends? id with
  | some (first, last) => upTo last (first :: t.nodesBehind first)
  | none => []

def element? (t : Tree) (id : NodeId) : Option Element :=
  match t.kind? id with
  | some (.element e) => some e
  | _ => none

def isElement (t : Tree) (id : NodeId) : Bool := (t.element? id).isSome

def text? (t : Tree) (id : NodeId) : Option String :=
  match t.kind? id with
  | some (.text content) => some content
  | _ => none

def isHtml (t : Tree) (id : NodeId) (name : String) : Bool :=
  ((t.element? id).map (·.isHtml name)).getD false

def isHtmlIn (t : Tree) (id : NodeId) (names : List String) : Bool :=
  ((t.element? id).map (·.isHtmlIn names)).getD false

def elementChildren (t : Tree) (id : NodeId) : List NodeId := (t.children id).filter t.isElement

/-! ### The way through a tree -/

/-- The step behind another on the way through what lies below `top`. -/
def stepAfter? (t : Tree) (top : NodeId) : Visit → Option Visit
  | .enter id =>
    match t.firstChild? id with
    | some child => some (.enter child)
    | none => some (.leave id)
  | .leave id =>
    if id = top then none
    else
      match t.next? id with
      | some next => some (.enter next)
      | none => (t.parent? id).map .leave

/-- The steps from a given one on, at most `fuel` of them. -/
def walkFrom (t : Tree) (top : NodeId) : (fuel : Nat) → Visit → List Visit
  | 0, _ => []
  | fuel + 1, visit =>
    visit ::
      match t.stepAfter? top visit with
      | some next => walkFrom t top fuel next
      | none => []

/-- The way through a node and all below it. A way that ends takes no step twice, so it has at most two
for each node. -/
def walk (t : Tree) (id : NodeId) : List Visit := t.walkFrom id (2 * t.size) (.enter id)

/-- The nodes below a node in tree order. -/
def descendants (t : Tree) (id : NodeId) : List NodeId := ((t.walk id).filterMap Visit.entered?).drop 1

/-- The text of all text nodes below a node in tree order. -/
def textBelow (t : Tree) (id : NodeId) : String :=
  String.join ((t.descendants id).filterMap t.text?)

/-! ### Changes -/

def update (t : Tree) (id : NodeId) (change : Node → Node) : Tree :=
  if h : id < t.nodes.size then ⟨t.nodes.set id (change t.nodes[id])⟩ else t

/-- Changes a node, if there is one. -/
def update? (t : Tree) (id : Option NodeId) (change : Node → Node) : Tree :=
  match id with
  | some id => t.update id change
  | none => t

/-- Creates a node that has no place yet. -/
def create (t : Tree) (kind : NodeKind) : NodeId × Tree := (t.nodes.size, ⟨t.nodes.push { kind }⟩)

/-- The first and the last child without one that leaves. -/
def endsWithout (id : NodeId) (node : Node) : NodeId × NodeId → Option (NodeId × NodeId)
  | (first, last) =>
    if first = last then none
    else if first = id then node.next.map fun next => (next, last)
    else if last = id then node.previous.map fun previous => (first, previous)
    else some (first, last)

/-- Takes a node from its place, with all below it. -/
def detach (t : Tree) (id : NodeId) : Tree :=
  match t.nodes[id]? with
  | none => t
  | some node =>
    match node.parent with
    | none => t
    | some parent =>
      let t := t.update id fun n => { n with parent := none, previous := none, next := none }
      let t := t.update? node.previous fun n => { n with next := node.next }
      let t := t.update? node.next fun n => { n with previous := node.previous }
      t.update parent fun n => { n with ends := n.ends.bind (endsWithout id node) }

/-- Places a node as the last child, unless it is that. -/
def append (t : Tree) (parent id : NodeId) : Tree :=
  let last := t.lastChild? parent
  if last = some id then t
  else
    let t := (t.detach id).update id fun n => { n with parent := some parent, previous := last }
    let t := t.update? last fun n => { n with next := some id }
    t.update parent fun n => { n with ends := some ((n.ends.map (·.1)).getD id, id) }

/-- Places a node before a sibling. If the sibling has no place, neither has the node then. -/
def insertBefore (t : Tree) (sibling id : NodeId) : Tree :=
  let t := t.detach id
  match t.parent? sibling with
  | none => t
  | some parent =>
    let previous := t.previous? sibling
    let t := t.update id fun n => { n with parent := some parent, previous, next := some sibling }
    let t := t.update? previous fun n => { n with next := some id }
    let t := t.update sibling fun n => { n with previous := some id }
    t.update parent fun n =>
      { n with ends := n.ends.map fun (first, last) => (if first = sibling then id else first, last) }

def extendText (t : Tree) (id : NodeId) (content : String) : Tree :=
  t.update id fun n =>
    match n.kind with
    | .text before => { n with kind := .text (before ++ content) }
    | _ => n

/-- Adds text behind the last child, to that child if it is text. -/
def appendText (t : Tree) (parent : NodeId) (content : String) : Tree :=
  match (t.lastChild? parent).filter fun id => (t.text? id).isSome with
  | some last => t.extendText last content
  | none =>
    let (id, t) := t.create (.text content)
    t.append parent id

/-- Adds text before a sibling, to the node before it if that is text. -/
def insertTextBefore (t : Tree) (sibling : NodeId) (content : String) : Tree :=
  match t.parent? sibling with
  | none => t
  | some _ =>
    match (t.previous? sibling).filter fun id => (t.text? id).isSome with
    | some before => t.extendText before content
    | none =>
      let (id, t) := t.create (.text content)
      t.insertBefore sibling id

/-- Moves all children of a node behind those of another. Only the first and the last of them are linked
to their new parent. -/
def moveChildren (t : Tree) (source target : NodeId) : Tree :=
  match t.ends? source with
  | none => t
  | some (first, last) =>
    let t := t.update source fun n => { n with ends := none }
    let t := t.update first fun n => { n with parent := some target }
    let t := t.update last fun n => { n with parent := some target }
    match t.ends? target with
    | none => t.update target fun n => { n with ends := some (first, last) }
    | some (before, behind) =>
      let t := t.update behind fun n => { n with next := some first }
      let t := t.update first fun n => { n with previous := some behind }
      t.update target fun n => { n with ends := some (before, last) }

/-- Adds the attributes whose names the element does not have. -/
def addMissingAttributes (t : Tree) (id : NodeId) (attributes : List Attribute) : Tree :=
  t.update id fun n =>
    match n.kind with
    | .element e =>
      { n with kind := .element { e with
          attributes := attributes.foldl (fun found a => a.insert found) e.attributes } }
    | _ => n

/-- Creates an element. The contents of a template get their fragment at once. -/
def createElement (t : Tree) (e : Element) : NodeId × Tree :=
  let (id, t) := t.create (.element e)
  if e.isHtml "template" then
    let (contents, t) := t.create .fragment
    (id, t.append id contents)
  else (id, t)

end Tree

end PageExtract.Markup
