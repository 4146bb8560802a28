/-
# Documents

A document is a tree whose nodes are numbered in the order of their creation. Node 0 is the document
element; a node is created below a node that is there already, so its number is larger than its
parent's. That order is part of the type, and every walk upward ends because of it.

* `Document.insert` grows a document by a node; `Document.edit` names the ways to call it.
* `Document.ofNodes` is the document of nodes that were numbered elsewhere.
* `Document.ancestors` lists the nodes above a node, nearest first.
-/
import TreeText.Dataset

namespace TreeText

/-! ## Nodes -/

/-- What a node is: an element, a text, or something else, such as a comment. -/
inductive Content where
  | element (tag : String) (dataset : Dataset)
  | text (text : String)
  | other
  deriving DecidableEq, Repr

/-- A vocabulary of elements beside that of pages themselves: drawings or formulas. -/
inductive Vocabulary where
  | svg
  | mathml
  deriving DecidableEq, Repr

/-- What sets an element of another vocabulary apart: the vocabulary, and those of its attributes
whose names belong to no vocabulary. -/
structure Foreign where
  vocabulary : Vocabulary
  plain : Dataset
  deriving DecidableEq, Repr

/-- A node: what it is, the node above it, the nodes below it in their order, and what sets it apart
if it is an element of another vocabulary. -/
structure Node where
  content : Content
  parent : Option Nat
  children : List Nat
  foreign : Option Foreign
  deriving DecidableEq, Repr

/-- The node with one more child, in front of the others or behind them. -/
def Node.addChild (child : Nat) (atFront : Bool) (node : Node) : Node :=
  { node with
    children := if atFront then child :: node.children else node.children ++ [child] }

/-! ## Documents -/

/-- A numbered tree of nodes, with the node that counts as its body, if any. -/
structure Document where
  nodes : Array Node
  body : Option Nat
  parent_lt : ∀ (i p : Nat), (nodes[i]?.bind Node.parent) = some p → p < i

namespace Document

/-- The document element. -/
def root : Nat := 0

/-- The number of nodes. -/
def size (doc : Document) : Nat :=
  doc.nodes.size

/-- What a node is; nothing where no node has the number. -/
def content? (doc : Document) (node : Nat) : Option Content :=
  doc.nodes[node]?.map Node.content

/-- The node above a node. -/
def parent? (doc : Document) (node : Nat) : Option Nat :=
  doc.nodes[node]?.bind Node.parent

/-- The nodes below a node in their order. -/
def children (doc : Document) (node : Nat) : List Nat :=
  (doc.nodes[node]?.map Node.children).getD []

/-- The tag of an element. -/
def tag? (doc : Document) (node : Nat) : Option String :=
  match doc.content? node with
  | some (.element tag _) => some tag
  | _ => none

/-- The attributes of an element; other nodes have none. -/
def dataset (doc : Document) (node : Nat) : Dataset :=
  match doc.content? node with
  | some (.element _ dataset) => dataset
  | _ => .empty

/-- What sets a node apart if it is an element of another vocabulary. -/
def foreign? (doc : Document) (node : Nat) : Option Foreign :=
  doc.nodes[node]?.bind Node.foreign

/-- The text of a text node. -/
def text? (doc : Document) (node : Nat) : Option String :=
  match doc.content? node with
  | some (.text text) => some text
  | _ => none

/-- Whether a node is an element. -/
def isElement (doc : Document) (node : Nat) : Bool :=
  (doc.tag? node).isSome

/-- A parent has a smaller number than its child. -/
theorem parent?_lt {doc : Document} {node parent : Nat} (h : doc.parent? node = some parent) :
    parent < node :=
  doc.parent_lt node parent h

/-! ## Walking upward -/

/-- The first so many nodes above a node, nearest first. -/
def ancestorsWithin (doc : Document) : Nat → Nat → List Nat
  | 0, _ => []
  | bound + 1, node =>
    match doc.parent? node with
    | none => []
    | some parent => parent :: doc.ancestorsWithin bound parent

/-- The nodes above a node, nearest first. -/
def ancestors (doc : Document) (node : Nat) : List Nat :=
  doc.ancestorsWithin node node

/-- No node has more nodes above it than its number says. -/
theorem ancestorsWithin_of_le (doc : Document) {bound : Nat} {node : Nat} (h : node ≤ bound) :
    doc.ancestorsWithin bound node = doc.ancestors node := by
  unfold ancestors
  induction node using Nat.strongRecOn generalizing bound with
  | ind node ih =>
    cases node with
    | zero =>
      cases bound with
      | zero => rfl
      | succ bound =>
        cases hp : doc.parent? 0 with
        | none => simp [ancestorsWithin, hp]
        | some parent => exact absurd (parent?_lt hp) (Nat.not_lt_zero _)
    | succ n =>
      cases bound with
      | zero => omega
      | succ bound =>
        cases hp : doc.parent? (n + 1) with
        | none => simp [ancestorsWithin, hp]
        | some parent =>
          have hlt := parent?_lt hp
          simp only [ancestorsWithin, hp]
          rw [ih parent hlt (by omega : parent ≤ bound), ih parent hlt (by omega : parent ≤ n)]

/-- The nodes above a node are its parent and the nodes above that. -/
theorem ancestors_of_parent? {doc : Document} {node parent : Nat}
    (h : doc.parent? node = some parent) :
    doc.ancestors node = parent :: doc.ancestors parent := by
  have hlt := parent?_lt h
  cases node with
  | zero => omega
  | succ n =>
    show doc.ancestorsWithin (n + 1) (n + 1) = _
    simp only [ancestorsWithin, h]
    rw [ancestorsWithin_of_le doc (by omega : parent ≤ n)]

/-- A node without a parent has nothing above it. -/
theorem ancestors_of_no_parent {doc : Document} {node : Nat} (h : doc.parent? node = none) :
    doc.ancestors node = [] := by
  cases node with
  | zero => rfl
  | succ n =>
    show doc.ancestorsWithin (n + 1) (n + 1) = _
    simp [ancestorsWithin, h]

/-- The elements above a node, nearest first. -/
def elementAncestors (doc : Document) (node : Nat) : List Nat :=
  (doc.ancestors node).filter doc.isElement

/-- The nearest element above a node. -/
def parentElement? (doc : Document) (node : Nat) : Option Nat :=
  (doc.elementAncestors node).head?

/-- The node that lists a node among its children. As a rule it is the parent; where the parent does
not list the node, it is found among the nodes with smaller numbers. -/
def holder? (doc : Document) (node : Nat) : Option Nat :=
  let lists : Nat → Bool := fun above => (doc.children above).contains node
  match (doc.parent? node).filter lists with
  | some parent => some parent
  | none => (List.range node).find? lists

/-! ## Growing a document -/

/-- A document of one element. -/
def single (tag : String) (dataset : Dataset) : Document where
  nodes := #[⟨.element tag dataset, none, [], none⟩]
  body := none
  parent_lt := by
    intro i p h
    cases i with
    | zero => simp at h
    | succ i => simp at h

/-- The document with a new node below `parent`, in front of its children or behind them. Nothing
changes if there is no such parent. -/
def insert (doc : Document) (atFront : Bool) (parent : Nat) (content : Content) : Document :=
  if hp : parent < doc.nodes.size then
    { nodes := (doc.nodes.modify parent (Node.addChild doc.nodes.size atFront)).push
        ⟨content, some parent, [], none⟩
      body := doc.body
      parent_lt := by
        intro i p h
        rw [Array.getElem?_push, Array.size_modify] at h
        split at h
        · next he =>
          simp only [Option.bind_some, Option.some.injEq] at h
          subst h he
          exact hp
        · rw [Array.getElem?_modify] at h
          apply doc.parent_lt i p
          split at h
          · next he =>
            subst he
            cases hn : doc.nodes[parent]? with
            | none => simp [hn] at h
            | some node => simpa [hn, Node.addChild] using h
          · exact h }
  else doc

/-- A node that is put in is counted. -/
theorem size_insert {doc : Document} {parent : Nat} (h : parent < doc.size) (atFront : Bool)
    (content : Content) : (doc.insert atFront parent content).size = doc.size + 1 := by
  unfold size at h
  simp [insert, size, h]

/-- A node that is put in has the next number. -/
theorem getElem?_insert_new {doc : Document} {parent : Nat} (h : parent < doc.size)
    (atFront : Bool) (content : Content) :
    (doc.insert atFront parent content).nodes[doc.size]? =
      some ⟨content, some parent, [], none⟩ := by
  unfold size at h ⊢
  rw [insert, dif_pos h, Array.getElem?_push, Array.size_modify, if_pos rfl]

/-- Of the nodes that were there, only the parent of the new one changes, and only in its
children. -/
theorem getElem?_insert_of_lt {doc : Document} {parent node : Nat} (h : node < doc.size)
    (atFront : Bool) (content : Content) :
    (doc.insert atFront parent content).nodes[node]? =
      if node = parent then doc.nodes[node]?.map (Node.addChild doc.size atFront)
      else doc.nodes[node]? := by
  unfold size at h ⊢
  unfold insert
  split
  · next hp =>
    rw [Array.getElem?_push, Array.size_modify, if_neg (Nat.ne_of_lt h), Array.getElem?_modify]
    by_cases he : parent = node
    · simp [he]
    · simp [he, Ne.symm he]
  · next hp =>
    have : node ≠ parent := fun he => hp (he ▸ h)
    simp [this]

/-- No node changes its content when another is put in. -/
theorem content?_insert_of_lt {doc : Document} {parent node : Nat} (h : node < doc.size)
    (atFront : Bool) (content : Content) :
    (doc.insert atFront parent content).content? node = doc.content? node := by
  unfold content?
  rw [getElem?_insert_of_lt h]
  split
  · cases doc.nodes[node]? <;> rfl
  · rfl

/-- No node changes its parent when another is put in. -/
theorem parent?_insert_of_lt {doc : Document} {parent node : Nat} (h : node < doc.size)
    (atFront : Bool) (content : Content) :
    (doc.insert atFront parent content).parent? node = doc.parent? node := by
  unfold parent?
  rw [getElem?_insert_of_lt h]
  split
  · cases doc.nodes[node]? <;> rfl
  · rfl

/-- The document of nodes that were numbered elsewhere. A parent whose number is not smaller than
its child's does not count, and neither does such a child. -/
def ofNodes (nodes : Array Node) (body : Option Nat) : Document where
  nodes := nodes.mapIdx fun i node =>
    { node with
      parent := node.parent.filter (· < i)
      children := node.children.filter (i < ·) }
  body := body
  parent_lt := by
    intro i p h
    rw [Array.getElem?_mapIdx] at h
    cases hn : nodes[i]? with
    | none => simp [hn] at h
    | some node =>
      simp only [hn, Option.map_some, Option.bind_some, Option.filter_eq_some_iff,
        decide_eq_true_eq] at h
      exact h.2

/-- The document with another body, or with none. -/
def withBody (doc : Document) (body : Option Nat) : Document :=
  { doc with body }

/-- The empty page: a document element with a body. -/
def blank : Document :=
  ((single "html" .empty).insert false root (.element "body" .empty)).withBody (some 1)

/-! ## Edits -/

/-- A way to grow a document by one node. -/
inductive Edit where
  | element (parent : Nat) (tag : String) (dataset : Dataset)
  | text (parent : Nat) (text : String)
  | other (parent : Nat)
  | head
  deriving DecidableEq, Repr

/-- The document after an edit. A head goes in front of the children of the document element; all
other nodes go behind their siblings. -/
def edit (doc : Document) : Edit → Document
  | .element parent tag dataset => doc.insert false parent (.element tag dataset)
  | .text parent text => doc.insert false parent (.text text)
  | .other parent => doc.insert false parent .other
  | .head => doc.insert true root (.element "head" .empty)

/-- The empty page after a list of edits. -/
def build (edits : List Edit) : Document :=
  edits.foldl edit blank

end Document

end TreeText
