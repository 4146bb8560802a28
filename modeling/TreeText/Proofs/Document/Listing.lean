/-
# Document order

The nodes below a node are listed in document order: each child in turn, and what lies below a child
directly behind it. Numbers follow the order of creation instead, which may be another one.

* `Document.nodesBelow` is the list, and `Document.nodesBelow_eq` its equation.
-/
import TreeText.Proofs.Document.Tree

namespace TreeText

namespace Tree

mutual

/-- The numbers in a tree in document order. -/
def numbers : Tree → List Nat
  | .node number branches => number :: numbersOfAll branches

/-- The numbers in trees, one tree after another. -/
def numbersOfAll : List Tree → List Nat
  | [] => []
  | tree :: trees => tree.numbers ++ numbersOfAll trees

end

/-- The numbers in trees are those in each of them. -/
theorem numbersOfAll_eq_flatMap (trees : List Tree) :
    numbersOfAll trees = trees.flatMap numbers := by
  induction trees with
  | nil => rfl
  | cons tree trees ih => rw [numbersOfAll, ih, List.flatMap_cons]

end Tree

namespace Document

/-- The nodes below a node in document order. -/
def nodesBelow (doc : Document) (node : Nat) : List Nat :=
  Tree.numbersOfAll (doc.tree node).branches

/-- Below a node there are its children, each followed by what lies below it. -/
theorem nodesBelow_eq {doc : Document} (hd : doc.Descends) (node : Nat) :
    doc.nodesBelow node =
      (doc.children node).flatMap fun child => child :: doc.nodesBelow child := by
  have hnumbers : ∀ child, (doc.tree child).numbers = child :: doc.nodesBelow child := by
    intro child
    rw [nodesBelow, tree_eq hd]
    rfl
  rw [nodesBelow, tree_eq hd, Tree.branches, Tree.numbersOfAll_eq_flatMap, List.flatMap_map]
  exact congrArg (fun list => (doc.children node).flatMap list) (funext hnumbers)

end Document

end TreeText
