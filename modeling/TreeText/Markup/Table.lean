/-
# Reading a table

A table has captions, groups of columns, and parts with rows of cells. What is missing between a
table and a cell is put in. What has no place in a table is put in front of it, and so are the
characters directly in it, unless they are all blank.
-/
import TreeText.Markup.Body

namespace TreeText.Markup.Builder

/-! ## Lists of tags -/

/-- The parts of a table that hold rows. -/
def sectionTags : List String :=
  ["tbody", "tfoot", "thead"]

/-- The tags that end a caption or a cell. -/
def cellEnders : List String :=
  ["caption", "col", "colgroup", "tbody", "td", "tfoot", "th", "thead", "tr"]

/-! ## Closing -/

/-- Closes elements down to a table. -/
def clearToTable (b : Builder) : Builder :=
  b.closeTo tableScopeTags

/-- Closes elements down to a part of a table that holds rows. -/
def clearToSection (b : Builder) : Builder :=
  b.closeTo (["html", "template"] ++ sectionTags)

/-- Closes elements down to a row. -/
def clearToRow (b : Builder) : Builder :=
  b.closeTo ["html", "template", "tr"]

/-- Closes a caption. -/
def closeCaption (b : Builder) : Builder :=
  (((b.closeImplied "").closeThrough ["caption"]).clearMarks).goTo .inTable

/-- Closes a cell. -/
def closeCell (b : Builder) (tags : List String) : Builder :=
  (((b.closeImplied "").closeThrough tags).clearMarks).goTo .inRow

/-! ## Characters -/

/-- What characters or a null character do in a table. They are kept, unless an element that is out
of place is open. -/
def tableChars (b : Builder) (token : Token) : Outcome :=
  if b.isAtAny tableParts then { b with returnMode := b.mode }.retry .inTableText
  else b.fosterBody token

/-- Puts in the characters that were kept: in the table if all of them are blank, and in front of it
otherwise. -/
def addKept (b : Builder) : Builder :=
  let kept := b.kept.reverse
  let b := { b with kept := [] }
  if kept.all (·.1) then kept.foldl (fun b (_, content) => b.addText content) b
  else
    let placed := kept.foldl (fun b (isBlank, content) => b.bodyChars isBlank content)
      { b with fostering := true }
    { placed with fostering := false }

/-- The rules for characters in a table. -/
def inTableText (b : Builder) : Token → Outcome
  | .null => .done b
  | .chars isBlank content => .done { b with kept := (isBlank, content) :: b.kept }
  | _ => b.addKept.retry b.returnMode

/-! ## Tables -/

/-- What a start tag does in a table. -/
def tableStart (b : Builder) (tag : Tag) : Outcome :=
  match tag.name with
  | "caption" => .done ((b.clearToTable.addBarrier.push tag).goTo .inCaption)
  | "colgroup" => .done ((b.clearToTable.push tag).goTo .inColumnGroup)
  | "col" => (b.clearToTable.push (.bare "colgroup")).retry .inColumnGroup
  | "tbody" | "tfoot" | "thead" => .done ((b.clearToTable.push tag).goTo .inTableBody)
  | "td" | "th" | "tr" => (b.clearToTable.push (.bare "tbody")).retry .inTableBody
  | "table" =>
    if b.inTableScope ["table"] then .again (b.closeThrough ["table"]).resetMode else .done b
  | "style" | "script" | "template" => .done (b.headStart tag)
  | "input" => if tag.isHidden then .done (b.add tag) else b.fosterBody (.startTag tag)
  | "form" =>
    if b.hasOpen "template" || b.form.isSome then .done b
    else
      let (form, inserted) := b.insert ⟨none, "form"⟩ tag.attributes
      .done { inserted with form := some form }
  | _ => b.fosterBody (.startTag tag)

/-- The rules in a table. -/
def inTable (b : Builder) (token : Token) : Outcome :=
  match token with
  | .null | .chars _ _ => b.tableChars token
  | .comment => .done b.addComment
  | .startTag tag => b.tableStart tag
  | .endTag tag =>
    if tag == "table" then
      if b.inTableScope ["table"] then .done (b.closeThrough ["table"]).resetMode else .done b
    else if tag == "template" then .done b.closeTemplate
    else if (["body", "html"] ++ cellEnders).contains tag then .done b
    else b.fosterBody token
  | .ending => b.inBody token
  | _ => b.fosterBody token

/-- The rules in the caption of a table. -/
def inCaption (b : Builder) (token : Token) : Outcome :=
  let isOpen := b.inTableScope ["caption"]
  match token with
  | .endTag tag =>
    if tag == "caption" then .done (if isOpen then b.closeCaption else b)
    else if tag == "table" then if isOpen then .again b.closeCaption else .done b
    else if (["body", "html"] ++ cellEnders).contains tag then .done b
    else b.inBody token
  | .startTag tag =>
    if cellEnders.contains tag.name then
      if isOpen then .again b.closeCaption else .done b
    else b.inBody token
  | _ => b.inBody token

/-- The rules in a group of columns. -/
def inColumnGroup (b : Builder) (token : Token) : Outcome :=
  let leave : Outcome := if b.isAt "colgroup" then b.close.retry .inTable else .done b
  match token with
  | .chars true content => .done (b.addText content)
  | .comment => .done b.addComment
  | .startTag tag =>
    match tag.name with
    | "html" => .done (b.mergeRoot tag)
    | "col" => .done (b.add tag)
    | "template" => .done (b.headStart tag)
    | _ => leave
  | .endTag tag =>
    match tag with
    | "colgroup" => if b.isAt "colgroup" then .done (b.close.goTo .inTable) else .done b
    | "col" => .done b
    | "template" => .done b.closeTemplate
    | _ => leave
  | .ending => b.inBody token
  | _ => leave

/-- The rules in a part of a table that holds rows. -/
def inTableBody (b : Builder) (token : Token) : Outcome :=
  let leave : Outcome :=
    if b.inTableScope ["table", "tbody", "tfoot"] then b.clearToSection.close.retry .inTable
    else .done b
  match token with
  | .startTag tag =>
    if tag.name == "tr" then .done ((b.clearToSection.push tag).goTo .inRow)
    else if tag.name == "td" || tag.name == "th" then
      (b.clearToSection.push (.bare "tr")).retry .inRow
    else if cellEnders.contains tag.name then leave
    else b.inTable token
  | .endTag tag =>
    if sectionTags.contains tag then
      if b.inTableScope [tag] then .done (b.clearToSection.close.goTo .inTable) else .done b
    else if tag == "table" then leave
    else if (["body", "html"] ++ cellEnders).contains tag then .done b
    else b.inTable token
  | _ => b.inTable token

/-- The rules in a row of a table. -/
def inRow (b : Builder) (token : Token) : Outcome :=
  let leave : Outcome :=
    if b.inTableScope ["tr"] then b.clearToRow.close.retry .inTableBody else .done b
  match token with
  | .startTag tag =>
    if tag.name == "td" || tag.name == "th" then
      .done (((b.clearToRow.push tag).goTo .inCell).addBarrier)
    else if cellEnders.contains tag.name then leave
    else b.inTable token
  | .endTag tag =>
    if tag == "tr" then
      if b.inTableScope ["tr"] then .done (b.clearToRow.close.goTo .inTableBody) else .done b
    else if tag == "table" then leave
    else if sectionTags.contains tag then if b.inTableScope [tag] then leave else .done b
    else if (["body", "html"] ++ cellEnders).contains tag then .done b
    else b.inTable token
  | _ => b.inTable token

/-- The rules in a cell of a table. -/
def inCell (b : Builder) (token : Token) : Outcome :=
  let cellTags := ["td", "th"]
  match token with
  | .startTag tag =>
    if cellEnders.contains tag.name then
      if b.inTableScope cellTags then .again (b.closeCell cellTags) else .done b
    else b.inBody token
  | .endTag tag =>
    if cellTags.contains tag then
      if b.inTableScope [tag] then .done (b.closeCell [tag]) else .done b
    else if tableParts.contains tag then
      if b.inTableScope [tag] then .again (b.closeCell cellTags) else .done b
    else if (["body", "html"] ++ cellEnders).contains tag then .done b
    else b.inBody token
  | _ => b.inBody token

/-! ## Choices -/

/-- Closes a choice that is open. -/
def closeOption (b : Builder) : Builder :=
  if b.isAt "option" then b.close else b

/-- Closes a group of choices that is open. -/
def closeGroup (b : Builder) : Builder :=
  if b.isAt "optgroup" then b.close else b

/-- Closes a choice that is the last one of a group. -/
def closeLastOption (b : Builder) : Builder :=
  if b.isAt "option" && b.close.isAt "optgroup" then b.close else b

/-- Closes a list of choices, if one is open around here. -/
def endChoices (b : Builder) : Builder :=
  if b.inChoices then (b.closeThrough ["select"]).resetMode else b

/-- The rules in a list of choices. -/
def inSelect (b : Builder) (token : Token) : Outcome :=
  match token with
  | .chars _ content => .done (b.addText content)
  | .comment => .done b.addComment
  | .startTag tag =>
    match tag.name with
    | "html" => .done (b.mergeRoot tag)
    | "option" => .done (b.closeOption.push tag)
    | "optgroup" => .done (b.closeOption.closeGroup.push tag)
    | "hr" => .done (b.closeOption.closeGroup.add tag)
    | "select" => .done b.endChoices
    | "input" | "keygen" | "textarea" => if b.inChoices then .again b.endChoices else .done b
    | "script" | "template" => .done (b.headStart tag)
    | _ => .done b
  | .endTag tag =>
    match tag with
    | "option" => .done b.closeOption
    | "optgroup" => .done b.closeLastOption.closeGroup
    | "select" => .done b.endChoices
    | "template" => .done b.closeTemplate
    | _ => .done b
  | .ending => b.inBody token
  | _ => .done b

/-- The rules in a list of choices that is inside a table. -/
def inSelectInTable (b : Builder) (token : Token) : Outcome :=
  let enders := ["caption", "td", "th"] ++ tableParts
  let leave : Outcome := .again (b.closeThrough ["select"]).resetMode
  match token with
  | .startTag tag => if enders.contains tag.name then leave else b.inSelect token
  | .endTag tag =>
    if enders.contains tag then if b.inTableScope [tag] then leave else .done b
    else b.inSelect token
  | _ => b.inSelect token

end TreeText.Markup.Builder
