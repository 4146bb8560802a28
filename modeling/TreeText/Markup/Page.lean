/-
# Reading a page

A page is read token by token. Each token is acted on by the rules for the place where the reading
stands; those rules may also move on to another place and leave the token to the rules there. The
document element, the head and the body are there in the end even where their tags were left out.
In an element of another vocabulary, rules of its own hold.

* `Document.ofMarkup` is the document that a page writes.
-/
import TreeText.Markup.Table

namespace TreeText.Markup

namespace Builder

/-! ## Other vocabularies -/

/-- The start tags that end an element of another vocabulary. -/
def pageTags : List String :=
  ["b", "big", "blockquote", "body", "br", "center", "code", "dd", "div", "dl", "dt", "em", "embed",
    "h1", "h2", "h3", "h4", "h5", "h6", "head", "hr", "i", "img", "li", "listing", "menu", "meta",
    "nobr", "ol", "p", "pre", "ruby", "s", "small", "span", "strong", "strike", "sub", "sup",
    "table", "tt", "u", "ul", "var"]

/-- Whether a start tag ends an element of another vocabulary. -/
def belongsToPage (tag : Tag) : Bool :=
  pageTags.contains tag.name ||
    (tag.name == "font" && ["color", "face", "size"].any fun name => (tag.value? name).isSome)

/-- Whether the innermost open element is of another vocabulary. -/
def inForeign (b : Builder) : Bool :=
  b.currentName?.any fun name => name.vocabulary.isSome

/-- Whether a token is acted on by the rules of a page in an element, whatever its vocabulary. -/
def isForPage (name : Name) : Token → Bool
  | .ending => true
  | .chars _ _ | .null => name.vocabulary.isNone || name.holdsText || name.holdsElements
  | .startTag tag =>
    name.vocabulary.isNone || name.holdsElements ||
      (name.holdsText && tag.name != "mglyph" && tag.name != "malignmark") ||
      (name == ⟨some .mathml, "annotation-xml"⟩ && tag.name == "svg")
  | _ => name.vocabulary.isNone

/-- Leaves the elements of another vocabulary, and has the rules of the page act. -/
def leaveForeign (b : Builder) : Outcome :=
  .asPage (b.closeWhile fun name =>
    name.vocabulary.isSome && !name.holdsText && !name.holdsElements)

/-- What an end tag does to open elements of another vocabulary: it closes the innermost one with
this tag. Nothing if an element of a page comes first, or none has the tag. -/
def foreignRest? (tag : String) : List Open → Option (List Open)
  | [] => none
  | [_] => none
  | element :: outer =>
    if element.name.vocabulary.isNone then none
    else if element.name.tag.toLower == tag then some outer
    else foreignRest? tag outer

/-- Whether the outermost element is reached before one of a page, outward. -/
def isForeignThroughout : List Open → Bool
  | [] => true
  | [_] => true
  | element :: outer => element.name.vocabulary.isSome && isForeignThroughout outer

/-- The rules in an element of another vocabulary. -/
def foreign (b : Builder) : Token → Outcome
  | .null => .done (b.addText "\ufffd")
  | .chars isBlank content =>
    let b := b.addText content
    .done (if isBlank then b else b.noFrameset)
  | .comment => .done b.addComment
  | .startTag tag =>
    if belongsToPage tag then b.leaveForeign
    else
      match b.currentName?.bind Name.vocabulary with
      | some vocabulary => .done (b.addForeign vocabulary (tag.inVocabulary vocabulary))
      | none => .asPage b
  | .endTag tag =>
    if tag == "p" || tag == "br" then b.leaveForeign
    else
      match foreignRest? tag b.stack with
      | some outer => .done { b with stack := outer }
      | none => if isForeignThroughout b.stack then .done b else .asPage b
  | _ => .done b

/-! ## All rules -/

/-- Acts on a token by the rules of the present mode. -/
def act (b : Builder) (token : Token) : Outcome :=
  match b.mode with
  | .initial => b.initial token
  | .beforeHtml => b.beforeHtml token
  | .beforeHead => b.beforeHead token
  | .inHead => b.inHead token
  | .afterHead => b.afterHead token
  | .inBody => b.inBody token
  | .text => b.inText token
  | .inTable => b.inTable token
  | .inTableText => b.inTableText token
  | .inCaption => b.inCaption token
  | .inColumnGroup => b.inColumnGroup token
  | .inTableBody => b.inTableBody token
  | .inRow => b.inRow token
  | .inCell => b.inCell token
  | .inSelect => b.inSelect token
  | .inSelectInTable => b.inSelectInTable token
  | .inTemplate => b.inTemplate token
  | .afterBody => b.afterBody token
  | .inFrameset => b.inFrameset token
  | .afterFrameset => b.afterFrameset token
  | .afterAfterBody => b.afterAfterBody token
  | .afterAfterFrameset => b.afterAfterFrameset token

/-- Acts on a token until the rules of some place have done it. The bound is one on the number of
places that the token is handed through; `asPage` says that the vocabulary does not count. -/
def drive : Nat → Bool → Builder → Token → Builder
  | 0, _, b, _ => b
  | bound + 1, asPage, b, token =>
    let isForPage := asPage || (b.currentName?.map (isForPage · token)).getD true
    match if isForPage then b.act token else b.foreign token with
    | .done b => b
    | .again b => drive bound false b token
    | .asPage b => drive bound true b token

/-- The token without a line feed in front; nothing is left of a line feed alone. -/
def dropNewline : Token → Option Token
  | .chars isBlank content =>
    match content.toList with
    | ['\n'] => none
    | '\n' :: rest => some (.chars isBlank (String.ofList rest))
    | _ => some (.chars isBlank content)
  | token => some token

/-- The state after a token. Each place that hands a token on closes an element or opens one of the
few that a page must have, so the bound is not met. A document type counts in front of a page only.
-/
def read (b : Builder) (token : Token) : Builder :=
  let wanted := if b.skipNewline then dropNewline token else some token
  let b := { b with skipNewline := false }
  match wanted with
  | none | some .fault => b
  | some (.doctype isOlder) =>
    if b.mode = .initial then drive 1 true b (.doctype isOlder) else b
  | some token => drive (3 * b.stack.length + 16) false b token

/-- The state after the rest of a page. The bound is one on its length. -/
def readPage : Builder → Nat → List Char → Builder
  | b, 0, _ => b
  | b, _, [] => b
  | b, bound + 1, s =>
    let (tokens, rest) := Token.next b.reading b.inForeign s
    readPage (tokens.foldl read b) bound rest

end Builder

end TreeText.Markup

namespace TreeText

/-- The document that a page writes. A byte order mark in front of it does not count. -/
def Document.ofMarkup (page : String) : Document :=
  let s := Markup.Token.unifyLines page.toList
  let s := if s.head? = some '\ufeff' then s.drop 1 else s
  ((Markup.Builder.start.readPage (s.length + 1) s).read .ending).grove.document

end TreeText
