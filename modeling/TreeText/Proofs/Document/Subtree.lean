/-
# Subtrees

A subtree is what a part of a document consists of, without the numbers of its nodes: the content of
its first node, and the subtrees below that. Two nodes may have one subtree although they belong to
two documents, or have different numbers in one.

* `Document.subtree` is the subtree of a node, and `Document.subtree_eq` its equation.
-/
import TreeText.Proofs.Document.Tree

namespace TreeText

/-- What a part of a document consists of: the content of its first node, and the subtrees below
that in their order. -/
inductive Subtree where
  | node (content : Option Content) (parts : List Subtree)

namespace Document

mutual

/-- What a tree of nodes consists of. -/
def subtreeOf (doc : Document) : Tree → Subtree
  | .node number branches => .node (doc.content? number) (doc.subtreesOf branches)

/-- What trees of nodes consist of. -/
def subtreesOf (doc : Document) : List Tree → List Subtree
  | [] => []
  | tree :: trees => doc.subtreeOf tree :: doc.subtreesOf trees

end

/-- What a node and the nodes below it consist of. -/
def subtree (doc : Document) (node : Nat) : Subtree :=
  doc.subtreeOf (doc.tree node)

variable {doc : Document}

/-- What trees consist of is what each of them consists of. -/
theorem subtreesOf_eq_map (doc : Document) (trees : List Tree) :
    doc.subtreesOf trees = trees.map doc.subtreeOf := by
  induction trees with
  | nil => rfl
  | cons tree trees ih => rw [subtreesOf, ih, List.map_cons]

/-- The parts of the subtree of a node are the subtrees of its children. -/
theorem subtree_eq (hd : doc.Descends) (node : Nat) :
    doc.subtree node = .node (doc.content? node) ((doc.children node).map doc.subtree) := by
  rw [subtree, tree_eq hd, subtreeOf, subtreesOf_eq_map, List.map_map]
  rfl

/-- Nodes with one subtree have one content, and their children have the same subtrees. -/
theorem of_subtree_eq {doc₁ doc₂ : Document} (hd₁ : doc₁.Descends) (hd₂ : doc₂.Descends)
    {node₁ node₂ : Nat} (h : doc₁.subtree node₁ = doc₂.subtree node₂) :
    doc₁.content? node₁ = doc₂.content? node₂ ∧
      (doc₁.children node₁).map doc₁.subtree = (doc₂.children node₂).map doc₂.subtree := by
  rw [subtree_eq hd₁, subtree_eq hd₂] at h
  exact Subtree.node.inj h

end Document

end TreeText
