/-!
# Names of elements and attributes

Elements and attributes have a namespace and a local name. The attributes of an element are kept in
the order of their names, each name once.
-/

namespace PageExtract.Markup

/-- The namespaces that occur in a page. Attributes without a namespace are in `none`. -/
inductive Namespace where
  | none
  | html
  | mathMl
  | svg
  | xLink
  | xml
  | xmlNames
deriving DecidableEq, Repr, Inhabited

/-- The address that stands for the namespace. Names are ordered by it. -/
def Namespace.address : Namespace → String
  | .none => ""
  | .html => "http://www.w3.org/1999/xhtml"
  | .mathMl => "http://www.w3.org/1998/Math/MathML"
  | .svg => "http://www.w3.org/2000/svg"
  | .xLink => "http://www.w3.org/1999/xlink"
  | .xml => "http://www.w3.org/XML/1998/namespace"
  | .xmlNames => "http://www.w3.org/2000/xmlns/"

/-- The name of an attribute: the label before the colon in its namespace, if it has one, the
namespace and the local name. -/
structure AttributeName where
  label : Option String
  space : Namespace
  name : String
deriving DecidableEq, Repr, Inhabited

namespace AttributeName

/-- A name in no namespace. -/
def plain (name : String) : AttributeName := ⟨none, .none, name⟩

/-- Names without label first, then by label, namespace and local name. -/
def order (a b : AttributeName) : Ordering :=
  let labels : Ordering := match a.label, b.label with
    | none, none => .eq
    | none, some _ => .lt
    | some _, none => .gt
    | some x, some y => compare x y
  labels.then ((compare a.space.address b.space.address).then (compare a.name b.name))

end AttributeName

structure Attribute where
  name : AttributeName
  value : String
deriving DecidableEq, Repr, Inhabited

namespace Attribute

/-- Inserts an attribute at its place, unless the name is there. -/
def insert (a : Attribute) : List Attribute → List Attribute
  | [] => [a]
  | b :: rest =>
    match a.name.order b.name with
    | .lt => a :: b :: rest
    | .eq => b :: rest
    | .gt => b :: insert a rest

/-- The attributes in order, the first of each name. -/
def sorted (attributes : List Attribute) : List Attribute :=
  attributes.foldl (fun found a => insert a found) []

end Attribute

/-- An element: its name and its attributes in order. -/
structure Element where
  space : Namespace
  name : String
  attributes : List Attribute
deriving DecidableEq, Repr, Inhabited

namespace Element

def isHtml (e : Element) (name : String) : Bool := e.space == .html && e.name == name

def isHtmlIn (e : Element) (names : List String) : Bool := e.space == .html && names.contains e.name

def attribute? (e : Element) (name : String) : Option String :=
  (e.attributes.find? fun a => a.name == .plain name).map (·.value)

/-- The value of the first attribute of that local name, in whatever namespace. -/
def localAttribute? (e : Element) (name : String) : Option String :=
  (e.attributes.find? fun a => a.name.name == name).map (·.value)

end Element

end PageExtract.Markup
