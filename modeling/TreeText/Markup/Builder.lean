/-
# Building a page

The state in which a page is read: the nodes so far, the elements that are open, what may come next,
and the formatting elements that stay in force until their end tags even where other elements are
closed around them.

A search among the open elements goes from the innermost outward and may be stopped by some of them.
-/
import TreeText.Markup.Grove
import TreeText.Markup.Token

namespace TreeText.Markup

/-! ## The state -/

/-- Where in a page the reading stands. -/
inductive Mode where
  | initial
  | beforeHtml
  | beforeHead
  | inHead
  | afterHead
  | inBody
  | text
  | inTable
  | inTableText
  | inCaption
  | inColumnGroup
  | inTableBody
  | inRow
  | inCell
  | inSelect
  | inSelectInTable
  | inTemplate
  | afterBody
  | inFrameset
  | afterFrameset
  | afterAfterBody
  | afterAfterFrameset
  deriving DecidableEq, Repr

/-- An open element: its start tag was read, and what follows belongs to it. -/
structure Open where
  node : Nat
  name : Name
  deriving DecidableEq, Repr

/-- A formatting element in force, or the start of a part of the page to which those before it do
not reach. -/
inductive Mark where
  | barrier
  | element (node : Nat) (tag : Tag)
  deriving DecidableEq, Repr

/-- What is known while a page is read. The open elements and the marks are listed innermost or
latest first. The characters directly in a table are kept until it is known whether they are all
blank. -/
structure Builder where
  grove : Grove
  stack : List Open
  marks : List Mark
  mode : Mode
  returnMode : Mode
  templateModes : List Mode
  kept : List (Bool × String)
  head : Option Nat
  form : Option Nat
  reading : Reading
  olderRules : Bool
  framesetOk : Bool
  skipNewline : Bool
  fostering : Bool

/-- What is done with a token: it was acted on, or the rules of the present place have to act, or
the rules of the present mode whatever the vocabulary of the present element. -/
inductive Outcome where
  | done (b : Builder)
  | again (b : Builder)
  | asPage (b : Builder)

namespace Builder

/-- The state before a page. -/
def start : Builder where
  grove := Grove.start
  stack := []
  marks := []
  mode := .initial
  returnMode := .initial
  templateModes := []
  kept := []
  head := none
  form := none
  reading := .markup
  olderRules := true
  framesetOk := true
  skipNewline := false
  fostering := false

/-- Goes on in another mode. -/
def goTo (b : Builder) (mode : Mode) : Builder :=
  { b with mode }

/-- The rules of another mode have to act. -/
def retry (b : Builder) (mode : Mode) : Outcome :=
  .again (b.goTo mode)

/-- No frameset can come any more. -/
def noFrameset (b : Builder) : Builder :=
  { b with framesetOk := false }

/-! ## Lists of tags -/

/-- The elements that end the search for an element to close. -/
def scopeTags : List String :=
  ["applet", "caption", "html", "table", "td", "th", "marquee", "object", "template"]

/-- The elements that end the search for a part of a table to close. -/
def tableScopeTags : List String :=
  ["html", "table", "template"]

/-- The tags of the parts of a table in which only certain elements have a place. -/
def tableParts : List String :=
  ["table", "tbody", "tfoot", "thead", "tr"]

/-- The elements whose end tags may be left out before another end tag. -/
def impliedTags : List String :=
  ["dd", "dt", "li", "optgroup", "option", "p", "rb", "rp", "rt", "rtc"]

/-- The elements whose end tags may be left out before the end of a template. -/
def templateImpliedTags : List String :=
  ["caption", "colgroup", "tbody", "td", "tfoot", "th", "thead", "tr"] ++ impliedTags

/-- The headings. -/
def headingTags : List String :=
  ["h1", "h2", "h3", "h4", "h5", "h6"]

/-- The elements that an end tag of an ordinary element never closes. -/
def specialTags : List String :=
  ["address", "applet", "area", "article", "aside", "base", "basefont", "bgsound", "blockquote",
    "body", "br", "button", "caption", "center", "col", "colgroup", "dd", "details", "dir", "div",
    "dl", "dt", "embed", "fieldset", "figcaption", "figure", "footer", "form", "frame",
    "frameset", "h1", "h2", "h3", "h4", "h5", "h6", "head", "header", "hgroup", "hr", "html",
    "iframe", "img", "input", "isindex", "li", "link", "listing", "main", "marquee", "menu",
    "meta", "nav", "noembed", "noframes", "noscript", "object", "ol", "p", "param", "plaintext",
    "pre", "script", "section", "select", "source", "style", "summary", "table", "tbody", "td",
    "template", "textarea", "tfoot", "th", "thead", "title", "tr", "track", "ul", "wbr", "xmp"]

/-! ## Searching the open elements -/

/-- The name of the innermost open element. -/
def currentName? (b : Builder) : Option Name :=
  b.stack.head?.map Open.name

/-- Whether the innermost open element is one of a page with one of the tags. -/
def isAtAny (b : Builder) (tags : List String) : Bool :=
  b.currentName?.any fun name => name.isOf tags

/-- Whether the innermost open element is one of a page with the tag. -/
def isAt (b : Builder) (tag : String) : Bool :=
  b.currentName?.any fun name => name.isTag tag

/-- Whether an element of a page with the tag is open. -/
def hasOpen (b : Builder) (tag : String) : Bool :=
  b.stack.any fun element => element.name.isTag tag

/-- Whether a node is open. -/
def hasOpenNode (b : Builder) (node : Nat) : Bool :=
  b.stack.any fun element => element.node == node

/-- Whether the search for a wanted element, from the innermost outward, finds one before it is
stopped. -/
def finds (wanted stops : Open → Bool) : List Open → Bool
  | [] => false
  | element :: outer => wanted element || (!stops element && finds wanted stops outer)

/-- Whether an element ends the search for another to close. -/
def endsScope (name : Name) : Bool :=
  name.isOf scopeTags || name.holdsText || name.holdsElements

/-- Whether an element that is wanted is open within the usual scope, which some more tags end. -/
def inScopeWith (b : Builder) (more : List String) (wanted : Open → Bool) : Bool :=
  finds wanted (fun element => endsScope element.name || element.name.isOf more) b.stack

/-- Whether one of the tags is open within the usual scope. -/
def inScope (b : Builder) (tags : List String) : Bool :=
  b.inScopeWith [] fun element => element.name.isOf tags

/-- Whether a paragraph is open and no button is inside it. -/
def hasParagraph (b : Builder) : Bool :=
  b.inScopeWith ["button"] fun element => element.name.isTag "p"

/-- Whether one of the tags is open within the innermost table. -/
def inTableScope (b : Builder) (tags : List String) : Bool :=
  finds (fun element => element.name.isOf tags) (fun element => element.name.isOf tableScopeTags)
    b.stack

/-- Whether a list of choices is open with nothing but choices inside it. -/
def inChoices (b : Builder) : Bool :=
  finds (fun element => element.name.isTag "select")
    (fun element => !element.name.isOf ["optgroup", "option"]) b.stack

/-! ## Closing -/

/-- Closes so many elements. -/
def closeMany (b : Builder) (count : Nat) : Builder :=
  { b with stack := b.stack.drop count }

/-- Closes the innermost element. -/
def close (b : Builder) : Builder :=
  b.closeMany 1

/-- Closes elements as long as the innermost one is to be closed. -/
def closeWhile (b : Builder) (closes : Name → Bool) : Builder :=
  { b with stack := b.stack.dropWhile fun element => closes element.name }

/-- Closes elements up to and including the innermost one of a page with one of the tags. -/
def closeThrough (b : Builder) (tags : List String) : Builder :=
  (b.closeWhile fun name => !name.isOf tags).close

/-- Closes elements until the innermost one is one of a page with one of the tags. -/
def closeTo (b : Builder) (tags : List String) : Builder :=
  b.closeWhile fun name => !name.isOf tags

/-- Closes the elements whose end tags may be left out, except one. -/
def closeImplied (b : Builder) (keep : String) : Builder :=
  b.closeWhile fun name => name.isOf impliedTags && name.tag != keep

/-- Closes a paragraph, together with what is inside it. -/
def closeParagraph (b : Builder) : Builder :=
  (b.closeImplied "p").closeThrough ["p"]

/-- Closes a paragraph, if one is open around here. -/
def endParagraph (b : Builder) : Builder :=
  if b.hasParagraph then b.closeParagraph else b

/-- Closes an element within the usual scope, together with those inside it. -/
def closeScoped (b : Builder) (tags : List String) : Builder :=
  if b.inScope tags then (b.closeImplied "").closeThrough tags else b

/-- Closes the innermost element with a tag, unless a special element is inside it. -/
def closeOrdinary (b : Builder) (tag : String) : Builder :=
  let stops : Open → Bool := fun element =>
    element.name.isTag tag || element.name.isOf specialTags
  match b.stack.dropWhile (!stops ·) with
  | element :: outer =>
    if element.name.isTag tag then { b with stack := outer } else b
  | [] => b

/-- Takes a node out of the open elements. Those inside it stay open. -/
def removeOpen (b : Builder) (node : Nat) : Builder :=
  { b with stack := b.stack.filter fun element => element.node != node }

/-! ## Putting nodes in -/

/-- A place for a node: as the last child of a node, or in front of a sibling. -/
inductive Place where
  | below (node : Nat)
  | before (sibling : Nat)

/-- The node that holds what is put into an element: of a template, the fragment that is its only
child. -/
def holderOf (b : Builder) (element : Open) : Nat :=
  if element.name.isTag "template" then
    ((b.grove.children element.node)[0]?).getD element.node
  else element.node

/-- The place for what has no place in a table: in front of the innermost table, or in the innermost
template if that is inside the table. -/
def fosterPlace (b : Builder) : List Open → Place
  | [] => .below Grove.page
  | [element] => .below element.node
  | element :: around :: outer =>
    if element.name.isTag "template" then .below (b.holderOf element)
    else if element.name.isTag "table" then
      if (b.grove.parent? element.node).isSome then .before element.node else .below around.node
    else b.fosterPlace (around :: outer)

/-- The place for a node that is put into an element. -/
def placeIn (b : Builder) (element : Open) : Place :=
  if b.fostering && element.name.isOf tableParts then b.fosterPlace b.stack
  else .below (b.holderOf element)

/-- The place for the next node. -/
def place (b : Builder) : Place :=
  match b.stack with
  | element :: _ => b.placeIn element
  | [] => .below Grove.page

/-- Puts a node in at a place. -/
def put (b : Builder) (node : Nat) : Place → Builder
  | .below parent => { b with grove := b.grove.append parent node }
  | .before sibling => { b with grove := b.grove.insertBefore sibling node }

/-- Puts in a text. -/
def addText (b : Builder) (content : String) : Builder :=
  match b.place with
  | .below parent => { b with grove := b.grove.appendText parent content }
  | .before sibling => { b with grove := b.grove.insertTextBefore sibling content }

/-- Puts in a comment. -/
def addComment (b : Builder) : Builder :=
  let (node, grove) := b.grove.make .comment
  { b with grove }.put node b.place

/-- Puts in a comment as the last child of a node. -/
def addCommentTo (b : Builder) (parent : Nat) : Builder :=
  let (node, grove) := b.grove.make .comment
  { b with grove := grove.append parent node }

/-- Makes an element without a place. A template is made with the fragment for its content. -/
def make (b : Builder) (name : Name) (attributes : List Attribute) : Nat × Builder :=
  let (node, grove) := b.grove.make (.element name attributes)
  if name.isTag "template" then
    let (fragment, grove) := grove.make .fragment
    (node, { b with grove := grove.append node fragment })
  else (node, { b with grove })

/-- Puts in an element: its number, and the state with it. -/
def insert (b : Builder) (name : Name) (attributes : List Attribute) : Nat × Builder :=
  let (node, made) := b.make name attributes
  (node, made.put node b.place)

/-- Opens an element. -/
def pushName (b : Builder) (name : Name) (attributes : List Attribute) : Builder :=
  let (node, inserted) := b.insert name attributes
  { inserted with stack := ⟨node, name⟩ :: inserted.stack }

/-- Opens an element of a page. -/
def push (b : Builder) (tag : Tag) : Builder :=
  b.pushName ⟨none, tag.name⟩ tag.attributes

/-- Puts in an element of a page without content. -/
def add (b : Builder) (tag : Tag) : Builder :=
  (b.insert ⟨none, tag.name⟩ tag.attributes).2

/-- Opens an element and reads its content as text. -/
def readAs (b : Builder) (tag : Tag) (reading : Reading) : Builder :=
  let opened := b.push tag
  { opened with reading, returnMode := opened.mode, mode := .text }

/-- Adds the attributes of another start tag to the document element. -/
def mergeRoot (b : Builder) (tag : Tag) : Builder :=
  match b.stack.getLast? with
  | some root =>
    if b.hasOpen "template" then b
    else { b with grove := b.grove.addAttributes root.node tag.attributes }
  | none => b

/-- The body, if it is open. -/
def body? (b : Builder) : Option Nat :=
  match b.stack.reverse with
  | _ :: element :: _ => if element.name.isTag "body" then some element.node else none
  | _ => none

/-! ## Finding the mode again -/

/-- The mode of a list of choices inside some elements. -/
def choiceMode (outer : List Open) : Mode :=
  match outer.find? fun element => element.name.isOf ["template", "table"] with
  | some element => if element.name.tag == "table" then .inSelectInTable else .inSelect
  | none => .inSelect

/-- The mode that fits the open elements. -/
def modeFor (b : Builder) : List Open → Mode
  | [] => .inBody
  | element :: outer =>
    let isLast := outer.isEmpty
    if element.name.vocabulary.isSome then b.modeFor outer
    else
      match element.name.tag with
      | "select" => choiceMode outer
      | "td" | "th" => if isLast then .inBody else .inCell
      | "tr" => .inRow
      | "tbody" | "thead" | "tfoot" => .inTableBody
      | "caption" => .inCaption
      | "colgroup" => .inColumnGroup
      | "table" => .inTable
      | "template" => b.templateModes.headD .inBody
      | "head" => if isLast then .inBody else .inHead
      | "body" => .inBody
      | "frameset" => .inFrameset
      | "html" => if b.head.isNone then .beforeHead else .afterHead
      | _ => b.modeFor outer

/-- Goes on in the mode that fits the open elements. -/
def resetMode (b : Builder) : Builder :=
  b.goTo (b.modeFor b.stack)

/-! ## Templates -/

/-- Takes the formatting elements out of force that came since the latest barrier, and the barrier.
-/
def clearMarks (b : Builder) : Builder :=
  { b with marks := (b.marks.dropWhile (· != .barrier)).drop 1 }

/-- Begins a part of the page to which the formatting elements in force do not reach. -/
def addBarrier (b : Builder) : Builder :=
  { b with marks := .barrier :: b.marks }

/-- Leaves a template that was closed. -/
def leaveTemplate (b : Builder) : Builder :=
  let b := b.clearMarks
  { b with templateModes := b.templateModes.drop 1 }.resetMode

/-- Goes on in the given mode in the innermost template. -/
def retryInTemplate (b : Builder) (mode : Mode) : Outcome :=
  { b with templateModes := mode :: b.templateModes.drop 1 }.retry mode

/-- The end of the page inside templates closes them one after the other. -/
def endTemplates (b : Builder) : Outcome :=
  if b.hasOpen "template" then .again (b.closeThrough ["template"]).leaveTemplate else .done b

end Builder

end TreeText.Markup
