/-
# Reading the body of a page

What each token does while the body of a page is read. Many elements end others: a block ends an
open paragraph, a list item the item before it, a heading another heading.
-/
import TreeText.Markup.Formatting
import TreeText.Markup.Head

namespace TreeText.Markup.Builder

/-! ## Lists of tags -/

/-- The blocks that end an open paragraph and have no further rules. -/
def blockTags : List String :=
  ["address", "article", "aside", "blockquote", "center", "details", "dialog", "dir", "div", "dl",
    "fieldset", "figcaption", "figure", "footer", "header", "hgroup", "main", "menu", "nav", "ol",
    "p", "search", "section", "summary", "ul"]

/-- The end tags that close an element within the usual scope and have no further rules. -/
def blockEndTags : List String :=
  ["button", "listing", "pre"] ++ blockTags.filter (· != "p")

/-- The elements that stay in force until their end tags. -/
def formattingTags : List String :=
  ["a", "b", "big", "code", "em", "font", "i", "nobr", "s", "small", "strike", "strong", "tt", "u"]

/-- The elements without content that are part of the text. -/
def inlineEmptyTags : List String :=
  ["area", "br", "embed", "img", "input", "keygen", "wbr"]

/-- The elements that formatting elements do not reach into. -/
def objectTags : List String :=
  ["applet", "marquee", "object"]

/-- The tags that mean nothing outside a table or a frameset. -/
def misplacedTags : List String :=
  ["caption", "col", "colgroup", "frame", "head", "tbody", "td", "tfoot", "th", "thead", "tr"]

/-- The special elements inside which the end of a list item is still found. -/
def transparentTags : List String := ["address", "div", "p"]

/-! ## Start tags -/

/-- Ends the list item around here that has one of the tags, unless another special element is
inside it. -/
def closeItem (b : Builder) (tags : List String) : Builder :=
  let stops : Open → Bool := fun element =>
    element.name.isOf tags ||
      (element.name.isOf specialTags && !element.name.isOf transparentTags)
  match b.stack.find? stops with
  | some element =>
    if element.name.isOf tags then
      (b.closeImplied element.name.tag).closeThrough [element.name.tag]
    else b
  | none => b

/-- Begins a frameset in the place of the body, if that may still be. -/
def replaceBody (b : Builder) (tag : Tag) : Builder :=
  match b.framesetOk, b.body?, b.stack.getLast? with
  | true, some body, some root =>
    ({ b with grove := b.grove.detach body, stack := [root] }.push tag).goTo .inFrameset
  | _, _, _ => b

/-- Adds the attributes of another start tag to the body. -/
def mergeBody (b : Builder) (tag : Tag) : Builder :=
  match b.body? with
  | some body =>
    if b.hasOpen "template" then b
    else { b with grove := b.grove.addAttributes body tag.attributes }.noFrameset
  | none => b

/-- Opens a form, unless one is open. Inside a template, forms are not told apart. -/
def openForm (b : Builder) (tag : Tag) : Builder :=
  let inTemplate := b.hasOpen "template"
  if b.form.isSome && !inTemplate then b
  else
    let opened := b.endParagraph.push tag
    if inTemplate then opened else { opened with form := opened.stack.head?.map Open.node }

/-- Puts in an element that is part of the text and has no content. -/
def addInline (b : Builder) (tag : Tag) : Builder :=
  let b := b.reconstruct.add tag
  if tag.name == "input" && tag.isHidden then b else b.noFrameset

/-- Opens a list of choices. -/
def openChoices (b : Builder) (tag : Tag) : Builder :=
  let b := (b.reconstruct.push tag).noFrameset
  if [Mode.inTable, .inCaption, .inTableBody, .inRow, .inCell].contains b.mode then
    b.goTo .inSelectInTable
  else b.goTo .inSelect

/-- Opens an element of another vocabulary, or puts it in if it has no content. -/
def addForeign (b : Builder) (vocabulary : Vocabulary) (tag : Tag) : Builder :=
  let name : Name := ⟨some vocabulary, tag.name⟩
  if tag.isClosed then (b.insert name tag.attributes).2 else b.pushName name tag.attributes

/-- What the start tag of a block or of a list item does. -/
def blockStart (b : Builder) (tag : Tag) : Builder :=
  match tag.name with
  | "pre" | "listing" =>
    { b.endParagraph.push tag with skipNewline := true, framesetOk := false }
  | "form" => b.openForm tag
  | "li" => ((b.noFrameset.closeItem ["li"]).endParagraph).push tag
  | "dd" | "dt" => ((b.noFrameset.closeItem ["dd", "dt"]).endParagraph).push tag
  | "plaintext" => { b.endParagraph.push tag with reading := .toEnd }
  | "hr" => (b.endParagraph.add tag).noFrameset
  | "table" =>
    let b := if b.olderRules then b else b.endParagraph
    ((b.push tag).noFrameset).goTo .inTable
  | _ =>
    let b := b.endParagraph
    let b := if headingTags.contains tag.name && b.isAtAny headingTags then b.close else b
    b.push tag

/-- The tags of blocks and of list items. -/
def blockStartTags : List String :=
  ["pre", "listing", "form", "li", "dd", "dt", "plaintext", "hr", "table"] ++ headingTags ++
    blockTags

/-- What the start tag of an element does whose content is text. -/
def textStart (b : Builder) (tag : Tag) : Builder :=
  match tag.name with
  | "textarea" =>
    { b.noFrameset.readAs tag (.references "textarea") with skipNewline := true }
  | "xmp" => (b.endParagraph.reconstruct.noFrameset).readAs tag (.raw "xmp")
  | "iframe" => b.noFrameset.readAs tag (.raw "iframe")
  | _ => b.readAs tag (.raw tag.name)

/-- What the start tag of an annotation beside a text does. -/
def rubyStart (b : Builder) (tag : Tag) : Builder :=
  let keep := if tag.name == "rb" || tag.name == "rtc" then "" else "rtc"
  (if b.inScope ["ruby"] then b.closeImplied keep else b).push tag

/-- What the start tag of a formatting element does. -/
def formattingStart (b : Builder) (tag : Tag) : Builder :=
  match tag.name with
  | "a" => (b.endLink.reconstruct).pushFormatting tag
  | "nobr" =>
    let b := b.reconstruct
    let b := if b.inScope ["nobr"] then (b.endFormatting "nobr").reconstruct else b
    b.pushFormatting tag
  | _ => b.reconstruct.pushFormatting tag

/-- What a start tag does in the body. -/
def bodyStart (b : Builder) (tag : Tag) : Builder :=
  if tag.name == "html" then b.mergeRoot tag
  else if tag.name == "body" then b.mergeBody tag
  else if tag.name == "frameset" then b.replaceBody tag
  else if headTags.contains tag.name then b.headStart tag
  else if misplacedTags.contains tag.name then b
  else if blockStartTags.contains tag.name then b.blockStart tag
  else if formattingTags.contains tag.name then b.formattingStart tag
  else if objectTags.contains tag.name then
    ((b.reconstruct.push tag).addBarrier).noFrameset
  else if inlineEmptyTags.contains tag.name then b.addInline tag
  else if ["textarea", "xmp", "iframe", "noembed", "noscript"].contains tag.name then
    b.textStart tag
  else if ["rb", "rtc", "rp", "rt"].contains tag.name then b.rubyStart tag
  else
    match tag.name with
    | "button" => (((b.closeScoped ["button"]).reconstruct).push tag).noFrameset
    | "image" => b.addInline { tag with name := "img" }
    | "param" | "source" | "track" => b.add tag
    | "select" => b.openChoices tag
    | "optgroup" | "option" => (if b.isAt "option" then b.close else b).reconstruct.push tag
    | "math" => b.addForeign .mathml (tag.withAttributesOf .mathml)
    | "svg" => b.addForeign .svg (tag.withAttributesOf .svg)
    | _ => b.reconstruct.push tag

/-! ## End tags -/

/-- Closes the form that is open. What is inside it stays open, unless its end tag may be left out.
-/
def endForm (b : Builder) : Builder :=
  if b.hasOpen "template" then b.closeScoped ["form"]
  else
    match b.form with
    | some form =>
      let b := { b with form := none }
      if b.inScopeWith [] fun element => element.node == form then
        (b.closeImplied "").removeOpen form
      else b
    | none => b

/-- Closes a list item, if one is open around here. -/
def endItem (b : Builder) (tag : String) (more : List String) : Builder :=
  if b.inScopeWith more fun element => element.name.isTag tag then
    (b.closeImplied tag).closeThrough [tag]
  else b

/-- What an end tag does in the body, those of the body and the page apart. -/
def bodyEnd (b : Builder) (tag : String) : Builder :=
  if blockEndTags.contains tag then b.closeScoped [tag]
  else if formattingTags.contains tag then b.endFormatting tag
  else if headingTags.contains tag then b.closeScoped headingTags
  else if objectTags.contains tag then
    if b.inScope [tag] then (b.closeScoped [tag]).clearMarks else b
  else
    match tag with
    | "p" => (if b.hasParagraph then b else b.push (.bare "p")).closeParagraph
    | "li" => b.endItem "li" ["ol", "ul"]
    | "dd" | "dt" => b.endItem tag []
    | "form" => b.endForm
    | "template" => b.closeTemplate
    | "br" => b.addInline (.bare "br")
    | _ => b.closeOrdinary tag

/-! ## All tokens -/

/-- What characters do in the body. -/
def bodyChars (b : Builder) (isBlank : Bool) (content : String) : Builder :=
  let b := b.reconstruct.addText content
  if isBlank then b else b.noFrameset

/-- The rules in the body. -/
def inBody (b : Builder) (token : Token) : Outcome :=
  match token with
  | .comment => .done b.addComment
  | .chars isBlank content => .done (b.bodyChars isBlank content)
  | .startTag tag => .done (b.bodyStart tag)
  | .endTag "body" => .done (if b.inScope ["body"] then b.goTo .afterBody else b)
  | .endTag "html" => if b.inScope ["body"] then b.retry .afterBody else .done b
  | .endTag tag => .done (b.bodyEnd tag)
  | .ending => if b.templateModes.isEmpty then .done b else b.endTemplates
  | _ => .done b

/-- The rules in the body, where what has no place in a table is put in front of it. -/
def fosterBody (b : Builder) (token : Token) : Outcome :=
  match { b with fostering := true }.inBody token with
  | .done b => .done { b with fostering := false }
  | .again b => .again { b with fostering := false }
  | .asPage b => .asPage { b with fostering := false }

/-! ## Texts -/

/-- The rules in an element whose content is text. -/
def inText (b : Builder) : Token → Outcome
  | .chars _ content => .done (b.addText content)
  | .endTag _ => .done { b.close with mode := b.returnMode, reading := .markup }
  | .ending => .again { b.close with mode := b.returnMode, reading := .markup }
  | _ => .done b

/-! ## Templates -/

/-- The rules in a template. The first start tag tells of what kind the content is. -/
def inTemplate (b : Builder) (token : Token) : Outcome :=
  match token with
  | .chars _ _ | .comment => b.inBody token
  | .startTag tag =>
    if headTags.contains tag.name then .done (b.headStart tag)
    else
      match tag.name with
      | "caption" | "colgroup" | "tbody" | "tfoot" | "thead" => b.retryInTemplate .inTable
      | "col" => b.retryInTemplate .inColumnGroup
      | "tr" => b.retryInTemplate .inTableBody
      | "td" | "th" => b.retryInTemplate .inRow
      | _ => b.retryInTemplate .inBody
  | .endTag "template" => .done b.closeTemplate
  | .ending => b.endTemplates
  | _ => .done b

/-! ## Behind the body, and framesets -/

/-- The rules behind the body. A comment belongs to the document element. -/
def afterBody (b : Builder) (token : Token) : Outcome :=
  match token with
  | .comment =>
    .done (match b.stack.getLast? with
      | some root => b.addCommentTo root.node
      | none => b)
  | .chars true _ => b.inBody token
  | .startTag tag => if tag.name == "html" then .done (b.mergeRoot tag) else b.retry .inBody
  | .endTag "html" => .done (b.goTo .afterAfterBody)
  | .ending => .done b
  | _ => b.retry .inBody

/-- The rules behind the document element. -/
def afterAfterBody (b : Builder) (token : Token) : Outcome :=
  match token with
  | .comment => .done (b.addCommentTo Grove.page)
  | .chars true _ => b.inBody token
  | .startTag tag => if tag.name == "html" then .done (b.mergeRoot tag) else b.retry .inBody
  | .ending => .done b
  | _ => b.retry .inBody

/-- Closes a frameset. -/
def endFrameset (b : Builder) : Builder :=
  if b.stack.length ≤ 1 then b
  else if b.close.isAt "frameset" then b.close
  else b.close.goTo .afterFrameset

/-- The rules in a frameset. -/
def inFrameset (b : Builder) : Token → Outcome
  | .comment => .done b.addComment
  | .chars true content => .done (b.addText content)
  | .startTag tag =>
    match tag.name with
    | "html" => .done (b.mergeRoot tag)
    | "frameset" => .done (b.push tag)
    | "frame" => .done (b.add tag)
    | "noframes" => .done (b.headStart tag)
    | _ => .done b
  | .endTag "frameset" => .done b.endFrameset
  | _ => .done b

/-- The rules behind a frameset. -/
def afterFrameset (b : Builder) : Token → Outcome
  | .comment => .done b.addComment
  | .chars true content => .done (b.addText content)
  | .startTag tag =>
    match tag.name with
    | "html" => .done (b.mergeRoot tag)
    | "noframes" => .done (b.headStart tag)
    | _ => .done b
  | .endTag "html" => .done (b.goTo .afterAfterFrameset)
  | _ => .done b

/-- The rules behind the document element of a frameset. -/
def afterAfterFrameset (b : Builder) (token : Token) : Outcome :=
  match token with
  | .comment => .done (b.addCommentTo Grove.page)
  | .chars true _ => b.inBody token
  | .startTag tag =>
    match tag.name with
    | "html" => .done (b.mergeRoot tag)
    | "noframes" => .done (b.headStart tag)
    | _ => .done b
  | _ => .done b

end TreeText.Markup.Builder
