/-
# Mirrors

A document mirrors another if it is the same tree with other numbers and other attributes: each node
of the one has its place in the other, with the same kind, tag or text. What is asked of attributes
is left open.

* `Document.Mirrors` says that one document mirrors another, and
  `Document.Mirrors.elementAncestors_eq` that the walk upward is the same in both.
* `Document.mirrors_build` says that edits which differ in attributes only build mirrors.
-/
import Mathlib.Data.List.Forall2
import Mathlib.Data.Option.Basic
import TreeText.Proofs.Document.Texts

namespace TreeText

/-! ## Alike in all but attributes -/

/-- Two contents are of one kind, with one tag or one text, and with related attributes. -/
inductive Content.Alike (related : Dataset → Dataset → Prop) : Content → Content → Prop where
  | element (tag : String) {dataset₁ dataset₂ : Dataset} (hdataset : related dataset₁ dataset₂) :
      Alike related (.element tag dataset₁) (.element tag dataset₂)
  | text (text : String) : Alike related (.text text) (.text text)
  | other : Alike related .other .other

/-- A content is like itself. -/
theorem Content.alike_refl {related : Dataset → Dataset → Prop}
    (hrefl : ∀ dataset, related dataset dataset) (content : Content) :
    content.Alike related content := by
  cases content with
  | element tag dataset => exact .element tag (hrefl dataset)
  | text text => exact .text text
  | other => exact .other

/-- Two edits put in alike nodes at one place. -/
inductive Document.Edit.Alike (related : Dataset → Dataset → Prop) :
    Document.Edit → Document.Edit → Prop where
  | element (parent : Nat) (tag : String) {dataset₁ dataset₂ : Dataset}
      (hdataset : related dataset₁ dataset₂) :
      Alike related (.element parent tag dataset₁) (.element parent tag dataset₂)
  | text (parent : Nat) (text : String) : Alike related (.text parent text) (.text parent text)
  | other (parent : Nat) : Alike related (.other parent) (.other parent)
  | head : Alike related .head .head

namespace Document

/-- A document is the same tree as another, with numbers given by `rename`: the nodes above and below
a node and the body have the same places, and contents are alike. -/
structure Mirrors (related : Dataset → Dataset → Prop) (rename : Nat → Nat)
    (doc₁ doc₂ : Document) : Prop where
  size_eq : doc₂.size = doc₁.size
  root_eq : rename root = root
  body_eq : doc₂.body = doc₁.body.map rename
  parent?_eq : ∀ node, doc₂.parent? (rename node) = (doc₁.parent? node).map rename
  children_eq : ∀ node, doc₂.children (rename node) = (doc₁.children node).map rename
  content_alike : ∀ node,
    Option.Rel (Content.Alike related) (doc₁.content? node) (doc₂.content? (rename node))

variable {related : Dataset → Dataset → Prop} {rename : Nat → Nat} {doc₁ doc₂ : Document}

namespace Mirrors

/-- What a node is in two documents, one of which mirrors the other. -/
theorem content_cases (h : doc₁.Mirrors related rename doc₂) (node : Nat) :
    (doc₁.content? node = none ∧ doc₂.content? (rename node) = none) ∨
    (∃ tag dataset₁ dataset₂, doc₁.content? node = some (.element tag dataset₁) ∧
      doc₂.content? (rename node) = some (.element tag dataset₂) ∧ related dataset₁ dataset₂) ∨
    (∃ text, doc₁.content? node = some (.text text) ∧
      doc₂.content? (rename node) = some (.text text)) ∨
    (doc₁.content? node = some .other ∧ doc₂.content? (rename node) = some .other) := by
  have hcontent := h.content_alike node
  generalize doc₁.content? node = content₁ at hcontent ⊢
  generalize doc₂.content? (rename node) = content₂ at hcontent ⊢
  cases hcontent with
  | none => exact Or.inl ⟨rfl, rfl⟩
  | some halike =>
    cases halike with
    | element tag hdataset => exact Or.inr (Or.inl ⟨tag, _, _, rfl, rfl, hdataset⟩)
    | text text => exact Or.inr (Or.inr (Or.inl ⟨text, rfl, rfl⟩))
    | other => exact Or.inr (Or.inr (Or.inr ⟨rfl, rfl⟩))

/-- Less may be asked of attributes. -/
theorem imp {weaker : Dataset → Dataset → Prop} (h : doc₁.Mirrors related rename doc₂)
    (himp : ∀ {dataset₁ dataset₂}, related dataset₁ dataset₂ → weaker dataset₁ dataset₂) :
    doc₁.Mirrors weaker rename doc₂ :=
  { h with
    content_alike := by
      intro node
      rcases h.content_cases node with ⟨h₁, h₂⟩ | ⟨tag, _, _, h₁, h₂, hdataset⟩ | ⟨text, h₁, h₂⟩ |
        ⟨h₁, h₂⟩
      · rw [h₁, h₂]
        exact .none
      · rw [h₁, h₂]
        exact .some (.element tag (himp hdataset))
      · rw [h₁, h₂]
        exact .some (.text text)
      · rw [h₁, h₂]
        exact .some .other }

/-! ## Walks -/

/-- A node has the same tag in both documents, or none. -/
theorem tag?_eq (h : doc₁.Mirrors related rename doc₂) (node : Nat) :
    doc₂.tag? (rename node) = doc₁.tag? node := by
  unfold tag?
  rcases h.content_cases node with ⟨h₁, h₂⟩ | ⟨tag, _, _, h₁, h₂, -⟩ | ⟨text, h₁, h₂⟩ | ⟨h₁, h₂⟩ <;>
    rw [h₁, h₂]

/-- The same nodes are elements in both documents. -/
theorem isElement_eq (h : doc₁.Mirrors related rename doc₂) (node : Nat) :
    doc₂.isElement (rename node) = doc₁.isElement node :=
  congrArg Option.isSome (h.tag?_eq node)

/-- The same nodes are above a node in both documents. -/
theorem ancestors_eq (h : doc₁.Mirrors related rename doc₂) (node : Nat) :
    doc₂.ancestors (rename node) = (doc₁.ancestors node).map rename := by
  induction node using Nat.strongRecOn with
  | ind node ih =>
    have hparent := h.parent?_eq node
    cases hp : doc₁.parent? node with
    | none =>
      rw [hp] at hparent
      rw [ancestors_of_no_parent hp, ancestors_of_no_parent hparent]
      rfl
    | some above =>
      rw [hp] at hparent
      rw [ancestors_of_parent? hp, ancestors_of_parent? hparent, ih above (parent?_lt hp)]
      rfl

/-- The same elements are above a node in both documents. -/
theorem elementAncestors_eq (h : doc₁.Mirrors related rename doc₂) (node : Nat) :
    doc₂.elementAncestors (rename node) = (doc₁.elementAncestors node).map rename := by
  have helement : doc₂.isElement ∘ rename = doc₁.isElement := funext h.isElement_eq
  rw [elementAncestors, h.ancestors_eq, List.filter_map, helement, elementAncestors]

end Mirrors

/-- Only the nodes that are there need to be looked at, if numbers of other nodes stay so. -/
theorem mirrors_of_forall_lt (hsize : doc₂.size = doc₁.size) (hroot : rename root = root)
    (hbody : doc₂.body = doc₁.body.map rename)
    (hbeyond : ∀ node, doc₁.size ≤ node → doc₁.size ≤ rename node)
    (hparent : ∀ node < doc₁.size, doc₂.parent? (rename node) = (doc₁.parent? node).map rename)
    (hchildren : ∀ node < doc₁.size,
      doc₂.children (rename node) = (doc₁.children node).map rename)
    (hcontent : ∀ node < doc₁.size,
      Option.Rel (Content.Alike related) (doc₁.content? node) (doc₂.content? (rename node))) :
    doc₁.Mirrors related rename doc₂ := by
  have hnone : ∀ node, ¬node < doc₁.size →
      doc₁.nodes[node]? = none ∧ doc₂.nodes[rename node]? = none := by
    intro node hnode
    have hle : doc₂.size ≤ rename node := hsize ▸ hbeyond node (Nat.not_lt.1 hnode)
    exact ⟨Array.getElem?_eq_none (Nat.not_lt.1 hnode), Array.getElem?_eq_none hle⟩
  refine ⟨hsize, hroot, hbody, fun node => ?_, fun node => ?_, fun node => ?_⟩
  · by_cases hnode : node < doc₁.size
    · exact hparent node hnode
    · rw [parent?, parent?, (hnone node hnode).1, (hnone node hnode).2]
      rfl
  · by_cases hnode : node < doc₁.size
    · exact hchildren node hnode
    · rw [children, children, (hnone node hnode).1, (hnone node hnode).2]
      rfl
  · by_cases hnode : node < doc₁.size
    · exact hcontent node hnode
    · rw [content?, content?, (hnone node hnode).1, (hnone node hnode).2]
      exact .none

/-! ## Mirrors that are built -/

/-- A document mirrors itself. -/
theorem mirrors_refl (hrefl : ∀ dataset, related dataset dataset) (doc : Document) :
    doc.Mirrors related id doc where
  size_eq := rfl
  root_eq := rfl
  body_eq := by rw [Option.map_id, id]
  parent?_eq node := by rw [Option.map_id, id, id]
  children_eq node := by rw [List.map_id, id]
  content_alike node := by
    rw [id]
    cases doc.content? node with
    | none => exact .none
    | some content => exact .some (content.alike_refl hrefl)

/-- Alike nodes may be put in at one place. -/
theorem Mirrors.insert (h : doc₁.Mirrors related id doc₂) (atFront : Bool) (parent : Nat)
    {content₁ content₂ : Content} (hcontent : content₁.Alike related content₂) :
    (doc₁.insert atFront parent content₁).Mirrors related id
      (doc₂.insert atFront parent content₂) where
  size_eq := by
    by_cases hp : parent < doc₁.size
    · rw [size_insert hp, size_insert (h.size_eq ▸ hp), h.size_eq]
    · rw [insert_of_size_le (Nat.not_lt.1 hp), insert_of_size_le (h.size_eq ▸ Nat.not_lt.1 hp),
        h.size_eq]
  root_eq := rfl
  body_eq := by rw [body_insert, body_insert, h.body_eq]
  parent?_eq node := by
    have hold := h.parent?_eq node
    rw [Option.map_id, id, id] at hold ⊢
    rw [parent?_insert, parent?_insert, h.size_eq, hold]
  children_eq node := by
    have hold := h.children_eq node
    rw [List.map_id, id] at hold ⊢
    rw [children_insert, children_insert, h.size_eq, hold]
  content_alike node := by
    rw [id, content?_insert, content?_insert, h.size_eq]
    by_cases hnew : node = doc₁.size ∧ parent < doc₁.size
    · rw [if_pos hnew, if_pos hnew]
      exact .some hcontent
    · rw [if_neg hnew, if_neg hnew]
      exact h.content_alike node

/-- Alike edits keep documents alike. -/
theorem Mirrors.edit (hrefl : ∀ dataset, related dataset dataset)
    (h : doc₁.Mirrors related id doc₂) {edit₁ edit₂ : Edit} (hedit : edit₁.Alike related edit₂) :
    (doc₁.edit edit₁).Mirrors related id (doc₂.edit edit₂) := by
  cases hedit with
  | element parent tag hdataset => exact h.insert false parent (.element tag hdataset)
  | text parent text => exact h.insert false parent (.text text)
  | other parent => exact h.insert false parent .other
  | head => exact h.insert true root (.element "head" (hrefl .empty))

/-- Documents that are built by alike edits mirror each other, number by number. -/
theorem mirrors_build (hrefl : ∀ dataset, related dataset dataset) {edits₁ edits₂ : List Edit}
    (h : List.Forall₂ (Edit.Alike related) edits₁ edits₂) :
    (build edits₁).Mirrors related id (build edits₂) := by
  have hfold : ∀ {doc₁ doc₂ : Document}, doc₁.Mirrors related id doc₂ →
      (edits₁.foldl edit doc₁).Mirrors related id (edits₂.foldl edit doc₂) := by
    induction h with
    | nil => exact fun hdoc => hdoc
    | cons hedit _ ih => exact fun hdoc => ih (hdoc.edit hrefl hedit)
  exact hfold (mirrors_refl hrefl blank)

end Document

end TreeText
