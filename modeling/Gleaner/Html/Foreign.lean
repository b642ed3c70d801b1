import Gleaner.Html.Builder

/-!
Foreign elements, those of vector graphics and of formulas: their names, and the rules for what
stands in them.
-/
namespace Gleaner.Html

/-- Names of graphics elements that are not in lower case. -/
def svgNames : List String :=
  ["altGlyph", "altGlyphDef", "altGlyphItem", "animateColor", "animateMotion", "animateTransform",
    "clipPath", "feBlend", "feColorMatrix", "feComponentTransfer", "feComposite",
    "feConvolveMatrix", "feDiffuseLighting", "feDisplacementMap", "feDistantLight", "feDropShadow",
    "feFlood", "feFuncA", "feFuncB", "feFuncG", "feFuncR", "feGaussianBlur", "feImage", "feMerge",
    "feMergeNode", "feMorphology", "feOffset", "fePointLight", "feSpecularLighting", "feSpotLight",
    "feTile", "feTurbulence", "foreignObject", "glyphRef", "linearGradient", "radialGradient",
    "textPath"]

/-- Attributes of graphics elements that are not in lower case. -/
def svgAttrs : List String :=
  ["attributeName", "attributeType", "baseFrequency", "baseProfile", "calcMode", "clipPathUnits",
    "diffuseConstant", "edgeMode", "filterUnits", "glyphRef", "gradientTransform", "gradientUnits",
    "kernelMatrix", "kernelUnitLength", "keyPoints", "keySplines", "keyTimes", "lengthAdjust",
    "limitingConeAngle", "markerHeight", "markerUnits", "markerWidth", "maskContentUnits",
    "maskUnits", "numOctaves", "pathLength", "patternContentUnits", "patternTransform",
    "patternUnits", "pointsAtX", "pointsAtY", "pointsAtZ", "preserveAlpha", "preserveAspectRatio",
    "primitiveUnits", "refX", "refY", "repeatCount", "repeatDur", "requiredExtensions",
    "requiredFeatures", "specularConstant", "specularExponent", "spreadMethod", "startOffset",
    "stdDeviation", "stitchTiles", "surfaceScale", "systemLanguage", "tableValues", "targetX",
    "targetY", "textLength", "viewBox", "viewTarget", "xChannelSelector", "yChannelSelector",
    "zoomAndPan"]

/-- The spelling of a name among those that differ from it in case only. -/
def spelled (names : List String) (name : String) : String :=
  (names.find? fun n => String.ofList (n.toList.map Char.toLower) = name).getD name

/-- Attributes with a namespace, by their written name. -/
def qualifiedAttrs : List (String × String) :=
  [("xlink:actuate", "actuate"), ("xlink:arcrole", "arcrole"), ("xlink:href", "href"),
    ("xlink:role", "role"), ("xlink:show", "show"), ("xlink:title", "title"),
    ("xlink:type", "type"), ("xml:lang", "lang"), ("xml:space", "space"), ("xmlns", "xmlns"),
    ("xmlns:xlink", "xlink")]

def foreignAttr (space : Space) (a : String × String) : Attr :=
  match qualifiedAttrs.lookup a.1 with
  | some name => ⟨name, a.2, true⟩
  | none =>
    let name := match space with
      | .svg => spelled svgAttrs a.1
      | .math => spelled ["definitionURL"] a.1
      | .html => a.1
    ⟨name, a.2, false⟩

namespace Builder

/-- Inserts a foreign element. -/
def insertForeign (b : Builder) (space : Space) (t : Tag) : Builder :=
  let name := if space = .svg then spelled svgNames t.name else t.name
  let (b, i) := b.make space name (t.attrs.map (foreignAttr space))
  let b := (b.insertAt (b.placeIn b.current) i).push i
  if t.selfClosing then b.pop else b

/-- Whether text and, but for two names, tags in an element of a formula are markup again. -/
def isMathText (e : Element) : Bool := e.space = .math && mathTextNames.contains e.name

/-- Whether what stands in a foreign element is markup again. -/
def isMarkupIsland (e : Element) : Bool :=
  match e.space with
  | .svg => svgTextNames.contains e.name
  | .math =>
    e.name = "annotation-xml" && e.attrs.any fun a =>
      a.name = "encoding" &&
        ["text/html", "application/xhtml+xml"].contains
          (String.ofList (a.value.toList.map Char.toLower))
  | .html => false

/-- Whether a token follows the rules for foreign content. -/
def isForeignToken (b : Builder) (token : Token) : Bool :=
  match b.element? b.current with
  | none => false
  | some e =>
    e.space != .html &&
      match token with
      | .eof => false
      | .start t =>
        !(isMathText e && t.name != "mglyph" && t.name != "malignmark") &&
          !(e.space = .math && e.name = "annotation-xml" && t.name = "svg") && !isMarkupIsland e
      | .text _ => !isMathText e && !isMarkupIsland e
      | _ => true

/-- Tags that end all foreign elements. -/
def breakoutNames : List String :=
  ["b", "big", "blockquote", "body", "br", "center", "code", "dd", "div", "dl", "dt", "em", "embed",
    "h1", "h2", "h3", "h4", "h5", "h6", "head", "hr", "i", "img", "li", "listing", "menu", "meta",
    "nobr", "ol", "p", "pre", "ruby", "s", "small", "span", "strong", "strike", "sub", "sup",
    "table", "tt", "u", "ul", "var"]

def breaksOut (t : Tag) : Bool :=
  breakoutNames.contains t.name ||
    (t.name = "font" && t.attrs.any fun a => ["color", "face", "size"].contains a.1)

def leaveForeign (b : Builder) : Builder :=
  let stays := fun i => match b.element? i with
    | some e => e.space = .html || isMathText e || isMarkupIsland e
    | none => true
  { b with openElements := b.openElements.dropWhile fun i => !stays i }

/-- Closes the innermost foreign element of a name, unless a markup element is met first. -/
def closeForeign? (b : Builder) (name : String) : Option Builder :=
  let isNamed := fun i => match b.element? i with
    | some e => String.ofList (e.name.toList.map Char.toLower) = name
    | none => false
  let inner := b.openElements.takeWhile fun i => !isNamed i && b.isForeign i
  match b.openElements.drop inner.length with
  | i :: rest => if isNamed i && b.isForeign i then some { b with openElements := rest } else none
  | [] => some b

/-- A token in foreign content. The flag asks for the rules of the mode instead. -/
def inForeign (b : Builder) : Token → Builder × Bool
  | .text cs =>
    let b := b.insertText (cs.map notNull)
    (if cs.all isSpace then b else { b with framesetOk := false }, false)
  | .comment => (b.insertComment, false)
  | .start t =>
    if breaksOut t then (b.leaveForeign, true)
    else
      let space := match b.element? b.current with
        | some e => e.space
        | none => .html
      (b.insertForeign space t, false)
  | .stop name =>
    if name = "br" || name = "p" then (b.leaveForeign, true)
    else
      match b.closeForeign? name with
      | some b => (b, false)
      | none => (b, true)
  | _ => (b, false)

end Builder

end Gleaner.Html
