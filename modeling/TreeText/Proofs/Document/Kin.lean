/-
# Kin

A document says twice how its nodes hang together: a node names its parent, and a parent lists its
children. In a document that was built the two agree, and no node is listed twice. Then the nodes
below two siblings are not the same, and a walk downward meets each node once.

* `Document.Linked` says that a node is listed by its parent only, and `Document.IsTree` that no node
  is listed twice; `Document.linked_build` and `Document.isTree_build` say so of what was built.
* `Document.Below` is the order of a tree; `Document.IsTree.eq_of_atOrBelow` tells siblings apart.
* `Document.Leads` says which nodes stand on a way down, and `Document.IsTree.eq_of_leads` that there
  is one way only.
-/
import Mathlib.Logic.Relation
import TreeText.Proofs.Document.Tree

namespace TreeText.Document

/-! ## Parents and children -/

/-- A node that is listed names the node that lists it as its parent. -/
def Linked (doc : Document) : Prop :=
  ∀ node, ∀ child ∈ doc.children node, doc.parent? child = some node

/-- A node that names a parent is there. -/
theorem lt_size_of_parent? {doc : Document} {node parent : Nat}
    (h : doc.parent? node = some parent) : node < doc.size := by
  by_contra hle
  have hnone : doc.nodes[node]? = none := Array.getElem?_eq_none (Nat.not_lt.1 hle)
  simp [parent?, hnone] at h

/-- The number of the next node is not listed yet. -/
theorem Linked.size_notMem_children {doc : Document} (h : doc.Linked) (node : Nat) :
    doc.size ∉ doc.children node := by
  intro hm
  exact Nat.lt_irrefl _ (lt_size_of_parent? (h node doc.size hm))

/-- Where nodes name those that list them, numbers grow downward. -/
theorem Linked.descends {doc : Document} (h : doc.Linked) : doc.Descends :=
  fun node child hc => parent?_lt (h node child hc)

/-- A node that is put in names the parent that lists it. -/
theorem Linked.insert {doc : Document} (h : doc.Linked) (atFront : Bool) (parent : Nat)
    (content : Content) : (doc.insert atFront parent content).Linked := by
  intro node child hc
  rcases mem_children_insert hc with hold | ⟨rfl, hlt, rfl⟩
  · have hparent := h node child hold
    rw [parent?_insert_of_lt (lt_size_of_parent? hparent)]
    exact hparent
  · unfold parent?
    rw [getElem?_insert_new hlt]
    rfl

/-- No node is listed twice by one parent after an insertion. -/
theorem Linked.nodup_children_insert {doc : Document} (h : doc.Linked)
    (hn : ∀ node, (doc.children node).Nodup) (atFront : Bool) (parent : Nat) (content : Content)
    (node : Nat) : ((doc.insert atFront parent content).children node).Nodup := by
  have hfresh := h.size_notMem_children node
  rw [children_insert]
  by_cases hp : node = parent ∧ parent < doc.size
  · rw [if_pos hp]
    cases atFront with
    | true => exact List.nodup_cons.2 ⟨hfresh, hn node⟩
    | false =>
      refine List.nodup_append.2
        ⟨hn node, List.pairwise_singleton _ _, fun child hc other ho he => ?_⟩
      rw [List.mem_singleton.1 ho] at he
      exact hfresh (he ▸ hc)
  · rw [if_neg hp]
    exact hn node

/-! ## Trees -/

/-- Numbers grow downward, and no node is listed twice, by one parent or by two. -/
structure IsTree (doc : Document) : Prop where
  descends : doc.Descends
  nodup : ∀ node, (doc.children node).Nodup
  unique : ∀ {above other child : Nat}, child ∈ doc.children above → child ∈ doc.children other →
    above = other

/-- Nodes that name those that list them are listed by one node only. -/
theorem Linked.isTree {doc : Document} (h : doc.Linked) (hn : ∀ node, (doc.children node).Nodup) :
    doc.IsTree where
  descends := h.descends
  nodup := hn
  unique := fun ha ho => Option.some.inj ((h _ _ ha).symm.trans (h _ _ ho))

/-- In a document that was built, nodes name those that list them, and no node is listed twice. -/
theorem linked_and_nodup_build (edits : List Edit) :
    (build edits).Linked ∧ ∀ node, ((build edits).children node).Nodup := by
  have hsingle : (single "html" .empty).Linked ∧
      ∀ node, ((single "html" .empty).children node).Nodup := by
    have hnone : ∀ node, (single "html" .empty).children node = [] := by
      intro node
      cases node <;> rfl
    refine ⟨fun node child hc => ?_, fun node => ?_⟩
    · rw [hnone] at hc
      cases hc
    · rw [hnone]
      exact List.nodup_nil
  have hinsert : ∀ doc : Document, (doc.Linked ∧ ∀ node, (doc.children node).Nodup) →
      ∀ atFront parent content, (doc.insert atFront parent content).Linked ∧
        ∀ node, ((doc.insert atFront parent content).children node).Nodup :=
    fun doc h atFront parent content =>
      ⟨h.1.insert atFront parent content, h.1.nodup_children_insert h.2 atFront parent content⟩
  have hblank : blank.Linked ∧ ∀ node, (blank.children node).Nodup :=
    hinsert _ hsingle false root _
  exact build_induction hblank hinsert edits

/-- In a document that was built, a node that is listed names the node that lists it. -/
theorem linked_build (edits : List Edit) : (build edits).Linked :=
  (linked_and_nodup_build edits).1

/-- A document that was built is a tree. -/
theorem isTree_build (edits : List Edit) : (build edits).IsTree :=
  (linked_build edits).isTree (linked_and_nodup_build edits).2

/-! ## Above and below -/

/-- A node lists another. -/
def Lists (doc : Document) (above below : Nat) : Prop :=
  below ∈ doc.children above

/-- A node lies strictly below another. -/
def Below (doc : Document) : Nat → Nat → Prop :=
  Relation.TransGen doc.Lists

/-- A node is another or lies below it. -/
def AtOrBelow (doc : Document) : Nat → Nat → Prop :=
  Relation.ReflTransGen doc.Lists

variable {doc : Document} {above below : Nat}

/-- What lies at or below a node has no smaller number. -/
theorem Descends.le_of_atOrBelow (hd : doc.Descends) (h : doc.AtOrBelow above below) :
    above ≤ below := by
  induction h with
  | refl => exact Nat.le_refl _
  | tail _ hlist ih => exact Nat.le_trans ih (Nat.le_of_lt (hd _ _ hlist))

/-- What lies below a node has a larger number. -/
theorem Descends.lt_of_below (hd : doc.Descends) (h : doc.Below above below) : above < below := by
  obtain ⟨child, hlist, hrest⟩ := Relation.TransGen.head'_iff.1 h
  exact Nat.lt_of_lt_of_le (hd _ _ hlist) (hd.le_of_atOrBelow hrest)

/-- Of two nodes above a third one, one is above the other. -/
theorem IsTree.atOrBelow_total (hd : doc.IsTree) {a b : Nat} (ha : doc.AtOrBelow a below)
    (hb : doc.AtOrBelow b below) : doc.AtOrBelow a b ∨ doc.AtOrBelow b a := by
  have hunique : Relator.RightUnique (Function.swap doc.Lists) :=
    fun child above other h₁ h₂ => hd.unique h₁ h₂
  have htotal := Relation.ReflTransGen.total_of_right_unique hunique
    (Relation.reflTransGen_swap.2 ha) (Relation.reflTransGen_swap.2 hb)
  exact htotal.symm.imp Relation.reflTransGen_swap.1 Relation.reflTransGen_swap.1

/-- No child of a node lies below another child of the node. -/
theorem IsTree.eq_of_lists (hd : doc.IsTree) {a b : Nat} (ha : doc.Lists above a)
    (hb : doc.Lists above b) (h : doc.AtOrBelow a b) : a = b := by
  rcases Relation.ReflTransGen.cases_tail h with he | ⟨parent, hp, hlist⟩
  · exact he.symm
  · -- The node that lists `b` is `above`, whose number is smaller than that of `a`.
    obtain rfl := hd.unique hlist hb
    have hlt := hd.descends _ _ ha
    have hle := hd.descends.le_of_atOrBelow hp
    omega

/-- A node that lies at or below two children of a node lies at or below one child. -/
theorem IsTree.eq_of_atOrBelow (hd : doc.IsTree) {a b : Nat} (ha : doc.Lists above a)
    (hb : doc.Lists above b) (h₁ : doc.AtOrBelow a below) (h₂ : doc.AtOrBelow b below) :
    a = b := by
  rcases hd.atOrBelow_total h₁ h₂ with h | h
  · exact hd.eq_of_lists ha hb h
  · exact (hd.eq_of_lists hb ha h).symm

/-! ## Ways down -/

/-- A list of nodes leads from a node down to another: each is listed by the one in front of it, the
first by the node where the way begins, and the last is the node where it ends. -/
inductive Leads (doc : Document) : Nat → List Nat → Nat → Prop where
  | here (node : Nat) : Leads doc node [] node
  | down {above child below : Nat} {path : List Nat} (hlist : doc.Lists above child)
      (hpath : Leads doc child path below) : Leads doc above (child :: path) below

/-- A way leads to what lies at or below the node where it begins. -/
theorem Leads.atOrBelow {path : List Nat} (h : doc.Leads above path below) :
    doc.AtOrBelow above below := by
  induction h with
  | here node => exact Relation.ReflTransGen.refl
  | down hlist _ ih => exact Relation.ReflTransGen.head hlist ih

/-- A way may go on where another one ends. -/
theorem Leads.append {path further : List Nat} {last : Nat} (h : doc.Leads above path below)
    (hf : doc.Leads below further last) : doc.Leads above (path ++ further) last := by
  induction h with
  | here node => exact hf
  | down hlist _ ih => exact .down hlist (ih hf)

/-- A way leads to whatever lies at or below a node. -/
theorem exists_leads (h : doc.AtOrBelow above below) : ∃ path, doc.Leads above path below := by
  induction h using Relation.ReflTransGen.head_induction_on with
  | refl => exact ⟨[], .here below⟩
  | head hlist _ ih =>
    obtain ⟨path, hpath⟩ := ih
    exact ⟨_, .down hlist hpath⟩

/-- A child is one step away. -/
theorem leads_of_lists (h : doc.Lists above below) : doc.Leads above [below] below :=
  .down h (.here below)

/-- In a tree, only one way leads from a node to another. -/
theorem IsTree.eq_of_leads (hd : doc.IsTree) {path other : List Nat}
    (h : doc.Leads above path below) (ho : doc.Leads above other below) : path = other := by
  -- A way that leads back to where it begins would have to lead to a larger number.
  have hback : ∀ {node child : Nat} {rest : List Nat}, doc.Lists node child →
      ¬doc.Leads child rest node := by
    intro node child rest hlist hrest
    have hlt := hd.descends node child hlist
    have hle := hd.descends.le_of_atOrBelow hrest.atOrBelow
    omega
  induction h generalizing other with
  | here node =>
    cases ho with
    | here => rfl
    | down hlist hrest => exact absurd hrest (hback hlist)
  | down hlist hpath ih =>
    cases ho with
    | here => exact absurd hpath (hback hlist)
    | down hlist' hpath' =>
      obtain rfl := hd.eq_of_atOrBelow hlist hlist' hpath.atOrBelow hpath'.atOrBelow
      rw [ih hpath']

end TreeText.Document
