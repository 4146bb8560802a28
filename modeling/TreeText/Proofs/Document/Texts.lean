/-
# Documents with other texts

The texts of a document can be exchanged without touching anything else. The elements, the places of
the texts and the order of all nodes are the shape of the document; two documents have one shape if
they are the same but for their texts.

* `Document.withTexts` puts given texts in the place of those that are there.
* `Document.edit_withTexts` says what becomes of one edit, and `Document.exists_build_eq_withTexts`
  that the outcome can be built if the document could be.
-/
import TreeText.Proofs.Document.Chain

namespace TreeText

/-- A content with another text, if it is a text. -/
def Content.withText (text : String) : Content → Content
  | .text _ => .text text
  | content => content

namespace Document

/-- The document in which the text of each text node is the given one. -/
def withTexts (doc : Document) (texts : Nat → String) : Document where
  nodes := doc.nodes.mapIdx fun i node => { node with content := node.content.withText (texts i) }
  body := doc.body
  parent_lt := by
    intro i p h
    apply doc.parent_lt i p
    rw [Array.getElem?_mapIdx] at h
    cases hn : doc.nodes[i]? with
    | none => simp [hn] at h
    | some node => simpa [hn] using h

variable (doc : Document) (texts : Nat → String) (node : Nat)

/-! ## What changes -/

/-- A node is changed in its text only. -/
theorem getElem?_withTexts :
    (doc.withTexts texts).nodes[node]? =
      doc.nodes[node]?.map fun found =>
        { found with content := found.content.withText (texts node) } :=
  Array.getElem?_mapIdx

/-- A text node has the given text. -/
theorem content?_withTexts :
    (doc.withTexts texts).content? node =
      (doc.content? node).map (Content.withText (texts node)) := by
  unfold content?
  rw [getElem?_withTexts]
  cases doc.nodes[node]? <;> rfl

/-! ## What stays -/

@[simp]
theorem size_withTexts : (doc.withTexts texts).size = doc.size :=
  Array.size_mapIdx

@[simp]
theorem parent?_withTexts : (doc.withTexts texts).parent? node = doc.parent? node := by
  unfold parent?
  rw [getElem?_withTexts]
  cases doc.nodes[node]? <;> rfl

@[simp]
theorem children_withTexts : (doc.withTexts texts).children node = doc.children node := by
  unfold children
  rw [getElem?_withTexts]
  cases doc.nodes[node]? <;> rfl

@[simp]
theorem ancestors_withTexts : (doc.withTexts texts).ancestors node = doc.ancestors node := by
  have hwithin : ∀ bound node,
      (doc.withTexts texts).ancestorsWithin bound node = doc.ancestorsWithin bound node := by
    intro bound
    induction bound with
    | zero => exact fun node => rfl
    | succ bound ih =>
      intro node
      rw [ancestorsWithin, ancestorsWithin, parent?_withTexts]
      cases doc.parent? node with
      | none => rfl
      | some parent => exact congrArg (parent :: ·) (ih parent)
  exact hwithin node node

@[simp]
theorem element?_withTexts : (doc.withTexts texts).element? node = doc.element? node := by
  unfold element?
  rw [content?_withTexts]
  rcases doc.content? node with _ | ⟨tag, dataset⟩ | text | _ <;> rfl

@[simp]
theorem chainAbove_withTexts : (doc.withTexts texts).chainAbove node = doc.chainAbove node := by
  rw [chainAbove, chainAbove, ancestors_withTexts, funext (element?_withTexts doc texts)]

@[simp]
theorem tree_withTexts : (doc.withTexts texts).tree node = doc.tree node := by
  have hwithin : ∀ bound, (doc.withTexts texts).treeWithin bound = doc.treeWithin bound := by
    intro bound
    induction bound with
    | zero => rfl
    | succ bound ih =>
      funext node
      rw [treeWithin, treeWithin, children_withTexts, ih]
  rw [tree, tree, size_withTexts, hwithin]

/-- The order of numbers downward stays. -/
theorem Descends.withTexts {doc : Document} (h : doc.Descends) (texts : Nat → String) :
    (doc.withTexts texts).Descends := by
  intro node child hc
  rw [children_withTexts] at hc
  exact h node child hc

/-! ## What was built -/

variable {doc texts}

/-- Documents are the same if their nodes and their bodies are. -/
theorem eq_of_nodes_of_body {other : Document}
    (hn : ∀ i : Nat, doc.nodes[i]? = other.nodes[i]?) (hb : doc.body = other.body) :
    doc = other := by
  obtain ⟨nodes, body, _⟩ := doc
  obtain ⟨others, other, _⟩ := other
  obtain rfl : nodes = others := Array.ext_getElem? hn
  obtain rfl : body = other := hb
  rfl

/-- The body stays the body when a node is put in. -/
theorem body_insert (doc : Document) (atFront : Bool) (parent : Nat) (content : Content) :
    (doc.insert atFront parent content).body = doc.body := by
  unfold insert
  split <;> rfl

/-- A node may be put in before the texts are exchanged, or after it with the text that it then
has. -/
theorem insert_withTexts (atFront : Bool) (parent : Nat) (content : Content) :
    (doc.insert atFront parent content).withTexts texts =
      (doc.withTexts texts).insert atFront parent (content.withText (texts doc.size)) := by
  refine eq_of_nodes_of_body (fun i => ?_) ?_
  · rw [getElem?_withTexts, getElem?_insert, getElem?_insert, getElem?_withTexts, size_withTexts]
    by_cases hnew : i = doc.size ∧ parent < doc.size
    · rw [if_pos hnew, if_pos hnew, hnew.1]
      rfl
    · rw [if_neg hnew, if_neg hnew]
      by_cases he : i = parent
      · rw [if_pos he, if_pos he]
        cases doc.nodes[i]? <;> rfl
      · rw [if_neg he, if_neg he]
  · rw [body_insert]
    exact body_insert doc atFront parent content

/-- An edit that puts in another text, if it puts in a text. -/
def Edit.withText (text : String) : Edit → Edit
  | .text parent _ => .text parent text
  | edit => edit

/-- An edit may come before the texts are exchanged, or after it with the text that it then puts
in. -/
theorem edit_withTexts (edit : Edit) :
    (doc.edit edit).withTexts texts =
      (doc.withTexts texts).edit (edit.withText (texts doc.size)) := by
  cases edit with
  | element parent tag dataset => exact insert_withTexts false parent (.element tag dataset)
  | text parent text => exact insert_withTexts false parent (.text text)
  | other parent => exact insert_withTexts false parent .other
  | head => exact insert_withTexts true root (.element "head" .empty)

/-- A document that was built can be built with other texts. -/
theorem exists_build_eq_withTexts (edits : List Edit) (texts : Nat → String) :
    ∃ others, build others = (build edits).withTexts texts := by
  induction edits using List.reverseRecOn with
  | nil => exact ⟨[], rfl⟩
  | append_singleton edits edit ih =>
    obtain ⟨others, hothers⟩ := ih
    refine ⟨others ++ [edit.withText (texts (build edits).size)], ?_⟩
    rw [build_concat, build_concat, hothers, edit_withTexts]

end Document

end TreeText
