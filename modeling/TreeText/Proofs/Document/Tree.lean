/-
# Documents as trees

In a document that was built node by node, each child has a larger number than the node that lists
it. So the walk from a node downward ends, and what it meets is a finite tree. Recursion on that
tree takes the place of a bound on how deeply nodes are nested.

* `Document.build_induction` is about what insertions keep.
* `Document.Descends` is the order of numbers downward, and `Document.descends_build` says that
  every document that was built has it.
* `Document.tree` is the tree below a node, and `Document.tree_eq` its equation.
-/
import Mathlib.Data.List.Induction
import Mathlib.Tactic.ByContra
import TreeText.Document

namespace TreeText

/-! ## Trees -/

/-- A tree of node numbers. -/
inductive Tree where
  | node (number : Nat) (branches : List Tree)
  deriving Repr

namespace Tree

/-- The trees below the first node of a tree. -/
def branches : Tree → List Tree
  | node _ branches => branches

/-- Induction on a tree, with the claim for all of its branches at once. -/
@[elab_as_elim, induction_eliminator]
theorem induction {motive : Tree → Prop}
    (node : ∀ number branches, (∀ branch ∈ branches, motive branch) →
      motive (.node number branches)) (tree : Tree) : motive tree :=
  match tree with
  | .node number branches => node number branches fun branch _ => induction node branch

end Tree

namespace Document

/-! ## Numbers downward -/

/-- Each child has a larger number than the node that lists it. -/
def Descends (doc : Document) : Prop :=
  ∀ node, ∀ child ∈ doc.children node, node < child

/-- Only nodes that are there list children. -/
theorem lt_size_of_mem_children {doc : Document} {node child : Nat}
    (h : child ∈ doc.children node) : node < doc.size := by
  by_contra hle
  have hnone : doc.nodes[node]? = none := Array.getElem?_eq_none (Nat.not_lt.1 hle)
  simp [children, hnone] at h

/-- Nothing is put in below a node that is not there. -/
theorem insert_of_size_le {doc : Document} {parent : Nat} (h : doc.size ≤ parent) (atFront : Bool)
    (content : Content) : doc.insert atFront parent content = doc :=
  dif_neg (Nat.not_lt.2 h)

/-- After an insertion, the new node has the next number, its parent lists it, and all other nodes are
as they were. -/
theorem getElem?_insert (doc : Document) (atFront : Bool) (parent : Nat) (content : Content)
    (node : Nat) :
    (doc.insert atFront parent content).nodes[node]? =
      if node = doc.size ∧ parent < doc.size then some ⟨content, some parent, [], none⟩
      else if node = parent then doc.nodes[node]?.map (Node.addChild doc.size atFront)
      else doc.nodes[node]? := by
  by_cases hp : parent < doc.size
  · rcases Nat.lt_trichotomy node doc.size with hlt | rfl | hgt
    · have hold : ¬(node = doc.size ∧ parent < doc.size) := fun h => Nat.ne_of_lt hlt h.1
      rw [getElem?_insert_of_lt hlt, if_neg hold]
    · rw [getElem?_insert_new hp, if_pos ⟨rfl, hp⟩]
    · -- Behind the new node there is nothing, as there was nothing before.
      have hold : doc.nodes[node]? = none := Array.getElem?_eq_none (Nat.le_of_lt hgt)
      have hnew : (doc.insert atFront parent content).nodes[node]? = none := by
        apply Array.getElem?_eq_none
        show (doc.insert atFront parent content).size ≤ node
        rw [size_insert hp]
        exact hgt
      rw [hnew, hold, if_neg (by omega), if_neg (by omega)]
  · rw [insert_of_size_le (Nat.not_lt.1 hp), if_neg fun h => hp h.2]
    by_cases he : node = parent
    · have hold : doc.nodes[node]? = none := Array.getElem?_eq_none (he ▸ Nat.not_lt.1 hp)
      rw [if_pos he, hold]
      rfl
    · rw [if_neg he]

/-- After an insertion, the new node is what was put in, and all other nodes are what they were. -/
theorem content?_insert (doc : Document) (atFront : Bool) (parent : Nat) (content : Content)
    (node : Nat) :
    (doc.insert atFront parent content).content? node =
      if node = doc.size ∧ parent < doc.size then some content else doc.content? node := by
  unfold content?
  rw [getElem?_insert]
  split
  · rfl
  · split
    · cases doc.nodes[node]? <;> rfl
    · rfl

/-- After an insertion, the new node has the parent that was given, and all other nodes have the
parents that they had. -/
theorem parent?_insert (doc : Document) (atFront : Bool) (parent : Nat) (content : Content)
    (node : Nat) :
    (doc.insert atFront parent content).parent? node =
      if node = doc.size ∧ parent < doc.size then some parent else doc.parent? node := by
  unfold parent?
  rw [getElem?_insert]
  split
  · rfl
  · split
    · cases doc.nodes[node]? <;> rfl
    · rfl

/-- A node that is put in is listed by its parent, in front of the others or behind them; all other
nodes list what they listed before. -/
theorem children_insert (doc : Document) (atFront : Bool) (parent : Nat) (content : Content)
    (node : Nat) :
    (doc.insert atFront parent content).children node =
      if node = parent ∧ parent < doc.size then
        if atFront then doc.size :: doc.children node else doc.children node ++ [doc.size]
      else doc.children node := by
  unfold children
  rw [getElem?_insert]
  by_cases hnew : node = doc.size ∧ parent < doc.size
  · have hold : doc.nodes[node]? = none := Array.getElem?_eq_none (Nat.le_of_eq hnew.1.symm)
    rw [if_pos hnew, if_neg (by omega), hold]
    rfl
  · rw [if_neg hnew]
    by_cases he : node = parent
    · subst he
      rw [if_pos rfl]
      cases hnode : doc.nodes[node]? with
      | none =>
        have hle : doc.size ≤ node := Array.getElem?_eq_none_iff.1 hnode
        rw [if_neg (by omega)]
        rfl
      | some found =>
        have hlt : node < doc.size := (Array.getElem?_eq_some_iff.1 hnode).1
        rw [if_pos ⟨rfl, hlt⟩]
        rfl
    · rw [if_neg he, if_neg fun h => he h.1]

/-- After an insertion, a node lists what it listed before, and the new node if it is the parent. -/
theorem mem_children_insert {doc : Document} {atFront : Bool} {parent : Nat} {content : Content}
    {node child : Nat} (h : child ∈ (doc.insert atFront parent content).children node) :
    child ∈ doc.children node ∨ node = parent ∧ parent < doc.size ∧ child = doc.size := by
  rw [children_insert] at h
  by_cases hp : node = parent ∧ parent < doc.size
  · rw [if_pos hp] at h
    cases atFront with
    | true => exact (List.mem_cons.1 h).symm.imp_right fun e => ⟨hp.1, hp.2, e⟩
    | false => exact (List.mem_append.1 h).imp_right fun e => ⟨hp.1, hp.2, List.mem_singleton.1 e⟩
  · rw [if_neg hp] at h
    exact Or.inl h

/-- An insertion keeps the order of numbers downward. -/
theorem Descends.insert {doc : Document} (h : doc.Descends) (atFront : Bool) (parent : Nat)
    (content : Content) : (doc.insert atFront parent content).Descends := by
  intro node child hc
  rcases mem_children_insert hc with hold | ⟨rfl, hlt, rfl⟩
  · exact h node child hold
  · exact hlt

/-- The empty page has its numbers in order. -/
theorem descends_blank : blank.Descends := by
  have hsingle : (single "html" .empty).Descends := by
    intro node child hc
    cases node <;> simp [children, single] at hc
  exact hsingle.insert false root _

/-- Further edits go on with the document that was built. -/
theorem build_append (edits more : List Edit) :
    build (edits ++ more) = more.foldl edit (build edits) :=
  List.foldl_append

/-- The last edit is done on the document that the edits before it built. -/
theorem build_concat (edits : List Edit) (last : Edit) :
    build (edits ++ [last]) = (build edits).edit last :=
  build_append edits [last]

/-- What holds of the empty page and is kept by insertions holds of every document that was built. -/
theorem build_induction {motive : Document → Prop} (hblank : motive blank)
    (hinsert : ∀ doc, motive doc → ∀ atFront parent content,
      motive (doc.insert atFront parent content))
    (edits : List Edit) : motive (build edits) := by
  induction edits using List.reverseRecOn with
  | nil => exact hblank
  | append_singleton edits last ih =>
    rw [build_concat]
    cases last <;> exact hinsert _ ih _ _ _

/-- Every document that was built has its numbers in order. -/
theorem descends_build (edits : List Edit) : (build edits).Descends :=
  build_induction descends_blank (fun _ h => h.insert) edits

/-- The document of nodes that were numbered elsewhere has its numbers in order. -/
theorem descends_ofNodes (nodes : Array Node) (body : Option Nat) :
    (ofNodes nodes body).Descends := by
  intro node child hc
  unfold children at hc
  rw [ofNodes, Array.getElem?_mapIdx] at hc
  cases hnode : nodes[node]? with
  | none =>
    rw [hnode] at hc
    cases hc
  | some given =>
    rw [hnode] at hc
    have hlt := (List.mem_filter.1 hc).2
    exact of_decide_eq_true hlt

/-- Induction downward: what holds of a node if it holds of all nodes that it lists, holds of every
node. -/
theorem Descends.induction {doc : Document} (h : doc.Descends) {motive : Nat → Prop}
    (node : ∀ number, (∀ child ∈ doc.children number, motive child) → motive number)
    (number : Nat) : motive number := by
  -- Children have larger numbers, so there is less and less room for them.
  induction hroom : doc.size - number using Nat.strongRecOn generalizing number with
  | ind room ih =>
    refine node number fun child hc => ih (doc.size - child) ?_ child rfl
    have hlt := h number child hc
    have hsize := lt_size_of_mem_children hc
    omega

/-! ## The tree below a node -/

/-- The tree below a node, cut off below so many levels. -/
def treeWithin (doc : Document) : Nat → Nat → Tree
  | 0, node => .node node []
  | bound + 1, node => .node node ((doc.children node).map (doc.treeWithin bound))

/-- The tree below a node. -/
def tree (doc : Document) (node : Nat) : Tree :=
  doc.treeWithin (doc.size - node) node

/-- A node whose number is past the end has no branches. -/
theorem treeWithin_of_size_le {doc : Document} {node : Nat} (h : doc.size ≤ node) (bound : Nat) :
    doc.treeWithin bound node = .node node [] := by
  cases bound with
  | zero => rfl
  | succ bound =>
    have hnone : doc.nodes[node]? = none := Array.getElem?_eq_none h
    simp [treeWithin, children, hnone]

/-- Nothing is cut off below as many levels as there are larger numbers. -/
theorem treeWithin_of_le {doc : Document} (h : doc.Descends) {bound node : Nat}
    (hb : doc.size - node ≤ bound) : doc.treeWithin bound node = doc.tree node := by
  -- Any two bounds with room enough cut off at the same places, which is nowhere.
  have hagree : ∀ b₁ b₂ node, doc.size - node ≤ b₁ → doc.size - node ≤ b₂ →
      doc.treeWithin b₁ node = doc.treeWithin b₂ node := by
    intro b₁
    induction b₁ with
    | zero =>
      intro b₂ node h₁ _
      rw [treeWithin_of_size_le (by omega), treeWithin_of_size_le (by omega)]
    | succ b₁ ih =>
      intro b₂ node h₁ h₂
      cases b₂ with
      | zero => rw [treeWithin_of_size_le (by omega), treeWithin_of_size_le (by omega)]
      | succ b₂ =>
        rw [treeWithin, treeWithin]
        congr 1
        apply List.map_congr_left
        intro child hc
        have hlt := h node child hc
        have hsize := lt_size_of_mem_children hc
        exact ih b₂ child (by omega) (by omega)
  exact hagree _ _ node hb (Nat.le_refl _)

/-- The branches of the tree below a node are the trees below its children. -/
theorem tree_eq {doc : Document} (h : doc.Descends) (node : Nat) :
    doc.tree node = .node node ((doc.children node).map doc.tree) := by
  rw [← treeWithin_of_le h (Nat.le_succ (doc.size - node)), treeWithin]
  congr 1
  apply List.map_congr_left
  intro child hc
  have hlt := h node child hc
  exact treeWithin_of_le h (by omega)

end Document

end TreeText
