/-
# Trees that grow

While a page is read, its nodes are in a grove: they are numbered as they are made, and they are put
in, taken out and moved by their numbers. What is taken out stays in the grove without a place.

When a node hands its children over to another one, only the first and the last of them take note of
it; the others go on naming the node that they were below before.

* `Grove.document` is the document of a grove. It numbers the nodes from the document element
  downward, each before the nodes below it.
-/
import TreeText.Markup.Tag

namespace TreeText.Markup

/-- What a node in a grove is. The content of a template is below a fragment. -/
inductive Piece where
  | page
  | element (name : Name) (attributes : List Attribute)
  | text (text : String)
  | comment
  | fragment
  deriving DecidableEq, Repr, Inhabited

/-- A node in a grove: what it is, the node that it names as its parent, and its children. -/
structure Growth where
  piece : Piece
  parent : Option Nat
  children : Array Nat
  deriving Inhabited

/-- The nodes of a page that is read, by their numbers. -/
structure Grove where
  nodes : Array Growth

namespace Grove

/-! ## Looking -/

/-- The page itself. -/
def page : Nat := 0

/-- The grove in which there is only the page. -/
def start : Grove := ⟨#[⟨.page, none, #[]⟩]⟩

/-- What a node is. -/
def piece? (grove : Grove) (node : Nat) : Option Piece :=
  grove.nodes[node]?.map Growth.piece

/-- The node that a node names as its parent. -/
def parent? (grove : Grove) (node : Nat) : Option Nat :=
  grove.nodes[node]?.bind Growth.parent

/-- The children of a node. -/
def children (grove : Grove) (node : Nat) : Array Nat :=
  (grove.nodes[node]?.map Growth.children).getD #[]

/-- The text of a text node. -/
def text? (grove : Grove) (node : Nat) : Option String :=
  match grove.piece? node with
  | some (.text text) => some text
  | _ => none

/-- The name of an element. -/
def name? (grove : Grove) (node : Nat) : Option Name :=
  match grove.piece? node with
  | some (.element name _) => some name
  | _ => none

/-- The attributes of an element. -/
def attributes (grove : Grove) (node : Nat) : List Attribute :=
  match grove.piece? node with
  | some (.element _ attributes) => attributes
  | _ => []

/-! ## Making and placing -/

/-- A new node without a place: the number that it has, and the grove with it. -/
def make (grove : Grove) (piece : Piece) : Nat × Grove :=
  (grove.nodes.size, ⟨grove.nodes.push ⟨piece, none, #[]⟩⟩)

/-- The grove with a node changed. -/
def modify (grove : Grove) (node : Nat) (change : Growth → Growth) : Grove :=
  ⟨grove.nodes.modify node change⟩

/-- The grove with a node taken out of its place. -/
def detach (grove : Grove) (node : Nat) : Grove :=
  match grove.parent? node with
  | none => grove
  | some _ =>
    let without : Growth → Growth := fun growth =>
      if growth.children.contains node then
        { growth with children := growth.children.filter (· != node) }
      else growth
    (Grove.mk (grove.nodes.map without)).modify node fun growth => { growth with parent := none }

/-- The grove with a node as the last child of another. -/
def append (grove : Grove) (parent node : Nat) : Grove :=
  ((grove.detach node).modify node fun growth => { growth with parent := some parent }).modify
    parent fun growth => { growth with children := growth.children.push node }

/-- The grove with a node in front of a sibling. It names the parent that the sibling names. -/
def insertBefore (grove : Grove) (sibling node : Nat) : Grove :=
  let grove := grove.detach node
  let place : Growth → Growth := fun growth =>
    if growth.children.contains sibling then
      { growth with
        children := growth.children.flatMap fun child =>
          if child == sibling then #[node, child] else #[child] }
    else growth
  (Grove.mk (grove.nodes.map place)).modify node fun growth =>
    { growth with parent := grove.parent? sibling }

/-- The grove with a text added to a text node. -/
def extend (grove : Grove) (node : Nat) (added : String) : Grove :=
  grove.modify node fun growth =>
    match growth.piece with
    | .text text => { growth with piece := .text (text ++ added) }
    | _ => growth

/-- The grove with a text as the last child of a node. It joins a text that is last already. -/
def appendText (grove : Grove) (parent : Nat) (added : String) : Grove :=
  match (grove.children parent).back?.filter fun last => (grove.text? last).isSome with
  | some last => grove.extend last added
  | none =>
    let (node, grove) := grove.make (.text added)
    grove.append parent node

/-- The sibling directly in front of a node. -/
def previous? (grove : Grove) (node : Nat) : Option Nat := do
  let holder ← grove.nodes.find? fun growth => growth.children.contains node
  let place ← holder.children.idxOf? node
  if place = 0 then none else holder.children[place - 1]?

/-- The grove with a text in front of a node. It joins a text that is there already. -/
def insertTextBefore (grove : Grove) (sibling : Nat) (added : String) : Grove :=
  match (grove.previous? sibling).filter fun previous => (grove.text? previous).isSome with
  | some previous => grove.extend previous added
  | none =>
    let (node, grove) := grove.make (.text added)
    grove.insertBefore sibling node

/-- The grove with all children of one node moved behind those of another. -/
def handOver (grove : Grove) (source target : Nat) : Grove :=
  let moved := grove.children source
  let note : Grove → Option Nat → Grove := fun grove child =>
    match child with
    | some child => grove.modify child fun growth => { growth with parent := some target }
    | none => grove
  let grove := grove.modify source fun growth => { growth with children := #[] }
  let grove := grove.modify target fun growth =>
    { growth with children := growth.children ++ moved }
  note (note grove moved[0]?) moved.back?

/-- The grove with attributes added to an element, unless it has them. -/
def addAttributes (grove : Grove) (node : Nat) (attributes : List Attribute) : Grove :=
  grove.modify node fun growth =>
    match growth.piece with
    | .element name present =>
      { growth with piece := .element name (addMissing present attributes) }
    | _ => growth

/-! ## The document -/

/-- A node and the nodes below it, each before the nodes below it, with others behind them. The
bound is one on the depth. -/
def listFrom (grove : Grove) : Nat → Nat → List Nat → List Nat
  | 0, _, behind => behind
  | bound + 1, node, behind =>
    node :: (grove.children node).toList.foldr (listFrom grove bound) behind

/-- The attributes as a dataset: first the plain ones, then those with names of a vocabulary. -/
def datasetOf (attributes : List Attribute) : Dataset :=
  let pairs (some : List Attribute) : List (String × String) := some.map fun a => (a.name, a.value)
  ⟨pairs (attributes.filter (·.isPlain)) ++ pairs (attributes.filter (!·.isPlain))⟩

/-- What a piece is in a document. -/
def contentOf : Piece → Content
  | .element name attributes => .element name.tag (datasetOf attributes)
  | .text text => .text text
  | _ => .other

/-- What sets a piece apart in a document. -/
def foreignOf : Piece → Option Foreign
  | .element ⟨some vocabulary, _⟩ attributes =>
    some ⟨vocabulary, datasetOf (attributes.filter (·.isPlain))⟩
  | _ => none

/-- The document of a grove. Its document element is the first element below the page, and its body
the first child of that with this tag. -/
def document (grove : Grove) : Document :=
  let isElement (node : Nat) : Bool := (grove.name? node).isSome
  let root := ((grove.children page).find? isElement).getD page
  let order := grove.listFrom grove.nodes.size root []
  let numbers := order.zipIdx.foldl
    (fun (numbers : Array (Option Nat)) (node, number) => numbers.setIfInBounds node (some number))
    (Array.replicate grove.nodes.size none)
  let number? (node : Nat) : Option Nat := numbers[node]?.join
  let nodes := order.map fun node =>
    let growth := grove.nodes[node]?.getD default
    { content := contentOf growth.piece
      parent := growth.parent.bind number?
      children := growth.children.toList.filterMap number?
      foreign := foreignOf growth.piece : Node }
  let body := (grove.children root).find? fun node =>
    (grove.name? node).any (·.tag == "body")
  Document.ofNodes nodes.toArray (body.bind number?)

end Grove

end TreeText.Markup
