/-
# Formatting elements

A formatting element, such as one for bold letters, stays in force until its end tag. Where another
element is closed around it, it is opened again in what follows. Where its end tag comes while a
special element is open inside it, the two are disentangled: what the special element holds so far
goes into a copy of the formatting element inside it, and the special element is put in behind the
formatting element.

* `Builder.reconstruct` opens again what is in force and no longer open.
* `Builder.endFormatting` acts on an end tag.
-/
import TreeText.Markup.Builder

namespace TreeText.Markup.Builder

/-! ## Elements in force -/

/-- The formatting elements in force here, latest first, with their tags. -/
def activeMarks (b : Builder) : List (Nat × Tag) :=
  (b.marks.takeWhile (· != .barrier)).filterMap fun
    | .element node tag => some (node, tag)
    | .barrier => none

/-- Whether a mark is that of a node. -/
def isMarkOf (node : Nat) : Mark → Bool
  | .element other _ => other == node
  | .barrier => false

/-- The tag with which a node is in force anywhere. -/
def markedTag? (b : Builder) (node : Nat) : Option Tag :=
  b.marks.findSome? fun
    | .element other tag => if other == node then some tag else none
    | .barrier => none

/-- Takes a node out of force. -/
def unmark (b : Builder) (node : Nat) : Builder :=
  { b with marks := b.marks.filter (!isMarkOf node ·) }

/-- Puts another mark in the place of that of a node. -/
def replaceMark (b : Builder) (node : Nat) (mark : Mark) : Builder :=
  { b with marks := b.marks.map fun other => if isMarkOf node other then mark else other }

/-- Puts a mark in on the later side of that of a node. -/
def markBehind (b : Builder) (node : Nat) (mark : Mark) : Builder :=
  { b with
    marks := b.marks.flatMap fun other => if isMarkOf node other then [mark, other] else [other] }

/-- Takes the earliest of the elements in force here with tags like a given one out of force, if
there are three of them. -/
def dropThird (b : Builder) (tag : Tag) : Builder :=
  let alike := b.activeMarks.filter fun (_, other) => tag.isLike other
  match alike.getLast? with
  | some (node, _) => if alike.length ≥ 3 then b.unmark node else b
  | none => b

/-- Opens a formatting element and puts it in force. -/
def pushFormatting (b : Builder) (tag : Tag) : Builder :=
  let (node, inserted) := (b.dropThird tag).insert ⟨none, tag.name⟩ tag.attributes
  { inserted with
    stack := ⟨node, ⟨none, tag.name⟩⟩ :: inserted.stack
    marks := .element node tag :: inserted.marks }

/-- Opens again the formatting elements in force that are no longer open, the earliest first. -/
def reconstruct (b : Builder) : Builder :=
  let missing := b.marks.takeWhile fun
    | .element node _ => !b.hasOpenNode node
    | .barrier => false
  missing.reverse.foldl
    (fun b mark =>
      match mark with
      | .element node tag =>
        let opened := b.push tag
        match opened.stack with
        | copy :: _ => opened.replaceMark node (.element copy.node tag)
        | [] => opened
      | .barrier => b)
    b

/-! ## Disentangling -/

/-- The state between two elements that are disentangled: the elements between the formatting one
and the special one that stay open, the node to be put in next, and the node behind whose mark the
copy of the formatting element comes into force. -/
structure Chain where
  builder : Builder
  between : List Open
  last : Nat
  behind : Option Nat

/-- Copies the elements between a formatting element and the special element inside it, innermost
first, each around the one before. Those that are not in force are left out and closed, and so are
those after the third, which go out of force too. -/
def copyBetween : Nat → Chain → List Open → Chain
  | _, chain, [] => chain
  | seen, chain, element :: outer =>
    match if seen < 3 then chain.builder.markedTag? element.node else none with
    | none =>
      copyBetween (seen + 1) { chain with builder := chain.builder.unmark element.node } outer
    | some tag =>
      let (copy, made) := chain.builder.make ⟨none, tag.name⟩ tag.attributes
      let marked := made.replaceMark element.node (.element copy tag)
      copyBetween (seen + 1)
        { builder := { marked with grove := marked.grove.append copy chain.last }
          between := chain.between ++ [⟨copy, ⟨none, tag.name⟩⟩]
          last := copy
          behind := some (chain.behind.getD copy) }
        outer

/-- Disentangles a formatting element and a special element inside it. The open elements are those
inside the special one, the special one, those between the two, the formatting one and those around
it. -/
def disentangle (b : Builder) (tag : Tag) (inside : List Open) (block : Open)
    (between : List Open) (formatting : Open) (outer : List Open) : Builder :=
  let chain := copyBetween 0 ⟨b, [], block.node, none⟩ between
  let b := chain.builder
  let b := { b with grove := b.grove.detach chain.last }
  let b := match outer with
    | around :: _ => b.put chain.last (b.placeIn around)
    | [] => b
  let (copy, b) := b.make ⟨none, tag.name⟩ tag.attributes
  let grove := (b.grove.handOver block.node copy).append block.node copy
  let mark := Mark.element copy tag
  let b := match chain.behind with
    | some node => (b.markBehind node mark).unmark formatting.node
    | none => b.replaceMark formatting.node mark
  { b with
    grove
    stack := inside ++ ⟨copy, ⟨none, tag.name⟩⟩ :: block :: chain.between ++ outer }

/-! ## End tags -/

/-- Acts on the end tag of a formatting element, as often as the bound says. -/
def endFormattingWithin : Nat → Builder → String → Builder
  | 0, b, _ => b
  | bound + 1, b, tagName =>
    match b.activeMarks.find? fun (_, tag) => tag.name == tagName with
    | none => b.closeOrdinary tagName
    | some (node, tag) =>
      if !b.hasOpenNode node then b.unmark node
      else if !b.inScopeWith [] (fun element => element.node == node) then b
      else
        let inner := b.stack.takeWhile (·.node != node)
        match b.stack.drop inner.length with
        | [] => b
        | formatting :: outer =>
          let fromBlock := inner.reverse.dropWhile (!·.name.isOf specialTags)
          match fromBlock with
          | [] => { b with stack := outer }.unmark node
          | block :: inside =>
            let within := inner.drop fromBlock.length
            let next := b.disentangle tag inside.reverse block within formatting outer
            endFormattingWithin bound next tagName

/-- Acts on the end tag of a formatting element. An element that is not in force is only closed. -/
def endFormatting (b : Builder) (tagName : String) : Builder :=
  match b.stack with
  | element :: outer =>
    if element.name.isTag tagName && (b.markedTag? element.node).isNone then
      { b with stack := outer }
    else endFormattingWithin 8 b tagName
  | [] => b

/-- Ends a link inside which another link begins. -/
def endLink (b : Builder) : Builder :=
  match b.activeMarks.find? fun (_, tag) => tag.name == "a" with
  | some (node, _) => ((b.endFormatting "a").unmark node).removeOpen node
  | none => b

end TreeText.Markup.Builder
