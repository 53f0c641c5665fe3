import PageExtract.Markup.Name

/-!
# Names inside SVG and MathML

Names are read in lower case. Some names of SVG elements and attributes have capitals, and some
attributes are in a namespace.
-/

namespace PageExtract.Markup

/-- The names of SVG elements with capitals. -/
def svgElementNames : List String := [
  "altGlyph", "altGlyphDef", "altGlyphItem", "animateColor", "animateMotion", "animateTransform",
  "clipPath", "feBlend", "feColorMatrix", "feComponentTransfer", "feComposite", "feConvolveMatrix",
  "feDiffuseLighting", "feDisplacementMap", "feDistantLight", "feDropShadow", "feFlood", "feFuncA",
  "feFuncB", "feFuncG", "feFuncR", "feGaussianBlur", "feImage", "feMerge", "feMergeNode", "feMorphology",
  "feOffset", "fePointLight", "feSpecularLighting", "feSpotLight", "feTile", "feTurbulence",
  "foreignObject", "glyphRef", "linearGradient", "radialGradient", "textPath"]

/-- The names of SVG attributes with capitals. -/
def svgAttributeNames : List String := [
  "attributeName", "attributeType", "baseFrequency", "baseProfile", "calcMode", "clipPathUnits",
  "diffuseConstant", "edgeMode", "filterUnits", "glyphRef", "gradientTransform", "gradientUnits",
  "kernelMatrix", "kernelUnitLength", "keyPoints", "keySplines", "keyTimes", "lengthAdjust",
  "limitingConeAngle", "markerHeight", "markerUnits", "markerWidth", "maskContentUnits", "maskUnits",
  "numOctaves", "pathLength", "patternContentUnits", "patternTransform", "patternUnits", "pointsAtX",
  "pointsAtY", "pointsAtZ", "preserveAlpha", "preserveAspectRatio", "primitiveUnits", "refX", "refY",
  "repeatCount", "repeatDur", "requiredExtensions", "requiredFeatures", "specularConstant",
  "specularExponent", "spreadMethod", "startOffset", "stdDeviation", "stitchTiles", "surfaceScale",
  "systemLanguage", "tableValues", "targetX", "targetY", "textLength", "viewBox", "viewTarget",
  "xChannelSelector", "yChannelSelector", "zoomAndPan"]

/-- The name of the list that is the given one in lower case, else the name itself. -/
def withCapitals (names : List String) (name : String) : String :=
  (names.find? fun capital => capital.map Char.toLower == name).getD name

/-- The attributes of SVG and MathML that are in a namespace. -/
def foreignAttributeNames : List (String × AttributeName) := [
  ("xlink:actuate", ⟨some "xlink", .xLink, "actuate"⟩),
  ("xlink:arcrole", ⟨some "xlink", .xLink, "arcrole"⟩),
  ("xlink:href", ⟨some "xlink", .xLink, "href"⟩),
  ("xlink:role", ⟨some "xlink", .xLink, "role"⟩),
  ("xlink:show", ⟨some "xlink", .xLink, "show"⟩),
  ("xlink:title", ⟨some "xlink", .xLink, "title"⟩),
  ("xlink:type", ⟨some "xlink", .xLink, "type"⟩),
  ("xml:lang", ⟨some "xml", .xml, "lang"⟩),
  ("xml:space", ⟨some "xml", .xml, "space"⟩),
  ("xmlns", ⟨none, .xmlNames, "xmlns"⟩),
  ("xmlns:xlink", ⟨some "xmlns", .xmlNames, "xlink"⟩)]

def foreignElementName (space : Namespace) (name : String) : String :=
  if space = .svg then withCapitals svgElementNames name else name

def foreignAttribute (space : Namespace) (name value : String) : Attribute :=
  let name := match space with
    | .svg => withCapitals svgAttributeNames name
    | .mathMl => if name = "definitionurl" then "definitionURL" else name
    | _ => name
  match foreignAttributeNames.find? (·.1 == name) with
  | some (_, found) => ⟨found, value⟩
  | none => ⟨.plain name, value⟩

end PageExtract.Markup
