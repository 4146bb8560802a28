/-
# Tags and names

A tag has a name and attributes. The element that it opens belongs to the vocabulary of pages, or to
that of drawings or formulas, in which some names are written with capital letters and some
attributes have names of other vocabularies.

* `Tag.inVocabulary` is a tag with the names that it has in another vocabulary.
-/
import TreeText.Document

namespace TreeText.Markup

/-! ## Tags -/

/-- An attribute. A plain one has a name that belongs to no vocabulary. -/
structure Attribute where
  name : String
  value : String
  isPlain : Bool
  deriving DecidableEq, Repr

/-- A start tag: its name, its attributes, and whether it says that it is the end tag too. -/
structure Tag where
  name : String
  attributes : List Attribute
  isClosed : Bool
  deriving DecidableEq, Repr

namespace Tag

/-- A tag without attributes. -/
def bare (name : String) : Tag := ⟨name, [], false⟩

/-- The value of an attribute, if the tag has it. -/
def value? (tag : Tag) (name : String) : Option String :=
  (tag.attributes.find? (·.name == name)).map Attribute.value

/-- Whether two tags have the same name and the same attributes in any order. -/
def isLike (tag other : Tag) : Bool :=
  tag.name == other.name && tag.attributes.length == other.attributes.length &&
    tag.attributes.all other.attributes.contains

/-- Whether a tag is that of a field which is not shown. -/
def isHidden (tag : Tag) : Bool :=
  (tag.value? "type").any (·.toLower == "hidden")

end Tag

/-- Attributes with those of others added whose names they lack. -/
def addMissing (attributes others : List Attribute) : List Attribute :=
  attributes ++ others.filter fun other => !attributes.any (·.name == other.name)

/-! ## Names -/

/-- The name of an element: its vocabulary, if it is not the one of pages, and its tag. -/
structure Name where
  vocabulary : Option Vocabulary
  tag : String
  deriving DecidableEq, Repr

namespace Name

/-- Whether an element of a page has one of the tags. -/
def isOf (name : Name) (tags : List String) : Bool :=
  name.vocabulary.isNone && tags.contains name.tag

/-- Whether an element is one of a page that has the tag. -/
def isTag (name : Name) (tag : String) : Bool :=
  name.vocabulary.isNone && name.tag == tag

/-- Whether an element of a formula holds text as pages do. -/
def holdsText (name : Name) : Bool :=
  name.vocabulary == some .mathml && ["mi", "mo", "mn", "ms", "mtext"].contains name.tag

/-- Whether an element of a drawing holds elements as pages do. -/
def holdsElements (name : Name) : Bool :=
  name.vocabulary == some .svg && ["foreignObject", "desc", "title"].contains name.tag

end Name

/-! ## Names in drawings and formulas -/

/-- The tags of drawings that have capital letters. -/
def drawingTags : List String := [
  "altGlyph", "altGlyphDef", "altGlyphItem", "animateColor", "animateMotion", "animateTransform",
  "clipPath", "feBlend", "feColorMatrix", "feComponentTransfer", "feComposite", "feConvolveMatrix",
  "feDiffuseLighting", "feDisplacementMap", "feDistantLight", "feDropShadow", "feFlood", "feFuncA",
  "feFuncB", "feFuncG", "feFuncR", "feGaussianBlur", "feImage", "feMerge", "feMergeNode",
  "feMorphology", "feOffset", "fePointLight", "feSpecularLighting", "feSpotLight", "feTile",
  "feTurbulence", "foreignObject", "glyphRef", "linearGradient", "radialGradient", "textPath"]

/-- The attributes of drawings that have capital letters. -/
def drawingAttributes : List String := [
  "attributeName", "attributeType", "baseFrequency", "baseProfile", "calcMode", "clipPathUnits",
  "diffuseConstant", "edgeMode", "filterUnits", "glyphRef", "gradientTransform", "gradientUnits",
  "kernelMatrix", "kernelUnitLength", "keyPoints", "keySplines", "keyTimes", "lengthAdjust",
  "limitingConeAngle", "markerHeight", "markerUnits", "markerWidth", "maskContentUnits",
  "maskUnits", "numOctaves", "pathLength", "patternContentUnits", "patternTransform",
  "patternUnits", "pointsAtX", "pointsAtY", "pointsAtZ", "preserveAlpha", "preserveAspectRatio",
  "primitiveUnits", "refX", "refY", "repeatCount", "repeatDur", "requiredExtensions",
  "requiredFeatures", "specularConstant", "specularExponent", "spreadMethod", "startOffset",
  "stdDeviation", "stitchTiles", "surfaceScale", "systemLanguage", "tableValues", "targetX",
  "targetY", "textLength", "viewBox", "viewTarget", "xChannelSelector", "yChannelSelector",
  "zoomAndPan"]

/-- The attributes whose names belong to a vocabulary of their own, with these names. -/
def qualifiedAttributes : List (String × String) := [
  ("xlink:actuate", "actuate"), ("xlink:arcrole", "arcrole"), ("xlink:href", "href"),
  ("xlink:role", "role"), ("xlink:show", "show"), ("xlink:title", "title"), ("xlink:type", "type"),
  ("xml:base", "base"), ("xml:lang", "lang"), ("xml:space", "space"), ("xmlns", "xmlns"),
  ("xmlns:xlink", "xlink")]

/-- A name with the capital letters that it has in a list. -/
def capitalized (names : List String) (name : String) : String :=
  (names.find? (·.toLower == name)).getD name

/-- The name of an attribute in a vocabulary. -/
def attributeNameIn (vocabulary : Vocabulary) (name : String) : String :=
  match vocabulary with
  | .svg => capitalized drawingAttributes name
  | .mathml => if name == "definitionurl" then "definitionURL" else name

/-- The tag with the names of its attributes in a vocabulary. -/
def Tag.withAttributesOf (tag : Tag) (vocabulary : Vocabulary) : Tag :=
  { tag with
    attributes := tag.attributes.map fun a =>
      match qualifiedAttributes.lookup a.name with
      | some name => { a with name, isPlain := false }
      | none => { a with name := attributeNameIn vocabulary a.name } }

/-- The tag with the names that it and its attributes have in a vocabulary. -/
def Tag.inVocabulary (tag : Tag) (vocabulary : Vocabulary) : Tag :=
  let tag := tag.withAttributesOf vocabulary
  match vocabulary with
  | .svg => { tag with name := capitalized drawingTags tag.name }
  | .mathml => tag

end TreeText.Markup
