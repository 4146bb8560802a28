/-
# Reading the head of a page

The rules for what stands in the head: the elements without content, those whose content is text,
and templates, whose content may be of any kind. Other places leave such elements to these rules.
-/
import TreeText.Markup.Builder

namespace TreeText.Markup.Builder

/-! ## Lists of tags -/

/-- The elements without content that belong to the head. -/
def headEmptyTags : List String :=
  ["base", "basefont", "bgsound", "link", "meta"]

/-- The start tags that are left to the rules of the head. -/
def headTags : List String :=
  headEmptyTags ++ ["noframes", "script", "style", "template", "title"]

/-! ## Elements -/

/-- Opens a template. -/
def openTemplate (b : Builder) (tag : Tag) : Builder :=
  let b := (b.addBarrier.noFrameset).goTo .inTemplate
  { b with templateModes := .inTemplate :: b.templateModes }.push tag

/-- Closes a template, if one is open. -/
def closeTemplate (b : Builder) : Builder :=
  if b.hasOpen "template" then
    ((b.closeWhile fun name => name.isOf templateImpliedTags).closeThrough
      ["template"]).leaveTemplate
  else b

/-- What the start tag of an element of the head does. -/
def headStart (b : Builder) (tag : Tag) : Builder :=
  if headEmptyTags.contains tag.name then b.add tag
  else
    match tag.name with
    | "title" => b.readAs tag (.references "title")
    | "script" => b.readAs tag .script
    | "template" => b.openTemplate tag
    | _ => b.readAs tag (.raw tag.name)

/-! ## Up to the body -/

/-- The end tags in front of the body that do not go without effect. -/
def outerEndTags : List String :=
  ["body", "br", "head", "html"]

/-- The rules before anything was read. Without a document type the older rules hold. -/
def initial (b : Builder) : Token → Outcome
  | .doctype isOlder => .done ({ b with olderRules := isOlder }.goTo .beforeHtml)
  | .comment => .done (b.addCommentTo Grove.page)
  | .chars true _ => .done b
  | _ => b.retry .beforeHtml

/-- The rules before the document element. -/
def beforeHtml (b : Builder) (token : Token) : Outcome :=
  match token with
  | .comment => .done (b.addCommentTo Grove.page)
  | .chars true _ => .done b
  | .startTag tag =>
    if tag.name == "html" then .done ((b.push tag).goTo .beforeHead)
    else (b.push (.bare "html")).retry .beforeHead
  | .endTag name =>
    if outerEndTags.contains name then (b.push (.bare "html")).retry .beforeHead else .done b
  | _ => (b.push (.bare "html")).retry .beforeHead

/-- Opens the head. -/
def openHead (b : Builder) (tag : Tag) : Builder :=
  let opened := b.push tag
  { opened with head := opened.stack.head?.map Open.node }

/-- The rules before the head. -/
def beforeHead (b : Builder) (token : Token) : Outcome :=
  let implied : Outcome := (b.openHead (.bare "head")).retry .inHead
  match token with
  | .comment => .done b.addComment
  | .chars true _ => .done b
  | .startTag tag =>
    if tag.name == "html" then .done (b.mergeRoot tag)
    else if tag.name == "head" then .done ((b.openHead tag).goTo .inHead)
    else implied
  | .endTag name => if outerEndTags.contains name then implied else .done b
  | _ => implied

/-- The rules in the head. -/
def inHead (b : Builder) (token : Token) : Outcome :=
  let leave : Outcome := b.close.retry .afterHead
  match token with
  | .comment => .done b.addComment
  | .chars true content => .done (b.addText content)
  | .startTag tag =>
    if tag.name == "html" then .done (b.mergeRoot tag)
    else if headTags.contains tag.name || tag.name == "noscript" then .done (b.headStart tag)
    else if tag.name == "head" then .done b
    else leave
  | .endTag name =>
    if name == "head" then .done (b.close.goTo .afterHead)
    else if name == "template" then .done b.closeTemplate
    else if outerEndTags.contains name then leave
    else .done b
  | _ => leave

/-- Acts on the start tag of an element of the head with the head open again for it. -/
def addToHead (b : Builder) (tag : Tag) : Builder :=
  match b.head with
  | some head =>
    let opened := { b with stack := ⟨head, ⟨none, "head"⟩⟩ :: b.stack }
    (opened.headStart tag).removeOpen head
  | none => b

/-- The rules between the head and the body. -/
def afterHead (b : Builder) (token : Token) : Outcome :=
  let implied : Outcome := (b.push (.bare "body")).retry .inBody
  match token with
  | .comment => .done b.addComment
  | .chars true content => .done (b.addText content)
  | .startTag tag =>
    if tag.name == "html" then .done (b.mergeRoot tag)
    else if tag.name == "body" then .done (((b.push tag).noFrameset).goTo .inBody)
    else if tag.name == "frameset" then .done ((b.push tag).goTo .inFrameset)
    else if headTags.contains tag.name then .done (b.addToHead tag)
    else if tag.name == "head" then .done b
    else implied
  | .endTag name =>
    if name == "template" then .done b.closeTemplate
    else if ["body", "br", "html"].contains name then implied
    else .done b
  | _ => implied

end TreeText.Markup.Builder
