/-
# The chain of elements above a node

What descent selectors and the treatment of blanks look at, above a node, is the chain of the
elements there: their tags and attributes, nearest first. Two nodes with one chain are told apart by
neither of them, even if they belong to two documents.

* `Document.chain` is the chain of a node, and `Document.chainAbove` that of what lies above it.
* `Matcher.LooksUpward` says that a matcher looks at nothing else, and
  `Descent.looksUpward_matcher` that the one for descent selectors does not.
-/
import Mathlib.Data.List.Forall2
import TreeText.Conversion
import TreeText.Descent.Selector
import TreeText.Proofs.Document.Kin

namespace TreeText

namespace Document

/-! ## Chains -/

/-- The tag and the attributes of an element. -/
def element? (doc : Document) (node : Nat) : Option (String × Dataset) :=
  match doc.content? node with
  | some (.element tag dataset) => some (tag, dataset)
  | _ => none

/-- The tags and attributes of the elements above a node, nearest first. -/
def chainAbove (doc : Document) (node : Nat) : List (String × Dataset) :=
  (doc.ancestors node).filterMap doc.element?

/-- The tags and attributes of a node and of the elements above it, nearest first. -/
def chain (doc : Document) (node : Nat) : List (String × Dataset) :=
  (doc.element? node).toList ++ doc.chainAbove node

variable {doc : Document} {node : Nat}

/-- What lies above a child is its parent and what lies above that. -/
theorem chainAbove_of_parent? {parent : Nat} (h : doc.parent? node = some parent) :
    doc.chainAbove node = doc.chain parent := by
  unfold chainAbove chain chainAbove
  rw [ancestors_of_parent? h, List.filterMap_cons]
  cases doc.element? parent <;> rfl

/-- Nodes with one content show the same. -/
theorem element?_congr {doc₁ doc₂ : Document} {node₁ node₂ : Nat}
    (h : doc₁.content? node₁ = doc₂.content? node₂) :
    doc₁.element? node₁ = doc₂.element? node₂ := by
  rw [element?, element?, h]

/-- Nodes that show the same, and have the same elements above them, have one chain. -/
theorem chain_congr {doc₁ doc₂ : Document} {node₁ node₂ : Nat}
    (hnode : doc₁.element? node₁ = doc₂.element? node₂)
    (habove : doc₁.chainAbove node₁ = doc₂.chainAbove node₂) :
    doc₁.chain node₁ = doc₂.chain node₂ := by
  rw [chain, chain, hnode, habove]

/-- A node is an element if it has a tag and attributes. -/
theorem isElement_eq (doc : Document) (node : Nat) :
    doc.isElement node = (doc.element? node).isSome := by
  unfold isElement tag? element?
  rcases doc.content? node with _ | ⟨tag, dataset⟩ | text | _ <;> rfl

/-- The tag of an element is the first part of what is known of it. -/
theorem tag?_eq (doc : Document) (node : Nat) : doc.tag? node = (doc.element? node).map (·.1) := by
  unfold tag? element?
  rcases doc.content? node with _ | ⟨tag, dataset⟩ | text | _ <;> rfl

/-- The elements above a node make the chain above it. -/
theorem map_element?_elementAncestors (doc : Document) (node : Nat) :
    (doc.elementAncestors node).map doc.element? = (doc.chainAbove node).map some := by
  unfold elementAncestors chainAbove
  induction doc.ancestors node with
  | nil => rfl
  | cons above rest ih =>
    cases he : doc.element? above with
    | none => simp [isElement_eq, he, ih]
    | some element => simp [isElement_eq, he, ih]

/-- The tag of the nearest element above a node begins the chain above it. -/
theorem tag?_parentElement? (doc : Document) (node : Nat) :
    (doc.parentElement? node).bind doc.tag? = (doc.chainAbove node).head?.map (·.1) := by
  have hmap := congrArg List.head? (map_element?_elementAncestors doc node)
  rw [List.head?_map, List.head?_map] at hmap
  have hfirst : (doc.elementAncestors node).head?.bind doc.element? =
      (doc.chainAbove node).head? := by
    simpa only [Option.bind_map, Option.bind_fun_some, Function.id_comp] using
      congrArg (fun sights => sights.bind id) hmap
  rw [parentElement?, ← hfirst, Option.map_bind]
  exact congrArg _ (funext doc.tag?_eq)

end Document

/-! ## Matchers -/

/-- A matcher that looks at nothing but the tag and the attributes of an element and of the elements
above it. -/
def Matcher.LooksUpward (matcher : Matcher) : Prop :=
  ∀ {doc₁ doc₂ : Document} {node₁ node₂ : Nat}, doc₁.element? node₁ = doc₂.element? node₂ →
    doc₁.chainAbove node₁ = doc₂.chainAbove node₂ →
    ∀ selector, matcher.selects doc₁ node₁ selector = matcher.selects doc₂ node₂ selector

namespace Descent

variable {doc₁ doc₂ : Document}

/-- A compound looks at the tag and the attributes of its element. -/
theorem Compound.holds_congr {node₁ node₂ : Nat} (compound : Compound)
    (h : doc₁.element? node₁ = doc₂.element? node₂) :
    compound.holds doc₁ node₁ = compound.holds doc₂ node₂ := by
  have heq : ∀ (doc : Document) (node : Nat), compound.holds doc node =
      (doc.element? node).any fun element =>
        compound.tag.all (fun wanted => wanted.toLower == element.1.toLower) &&
          compound.qualifiers.all (Qualifier.holds element.2) := by
    intro doc node
    unfold Compound.holds Document.element?
    rcases doc.content? node with _ | ⟨tag, dataset⟩ | text | _ <;> rfl
  rw [heq, heq, h]

/-- A climb takes the same places, one by one, on two ways up that show the same to its compounds. -/
theorem climbs_congr_of_forall₂ {shows : Nat → Nat → Prop} {above₁ above₂ : List Nat}
    (hways : List.Forall₂ shows above₁ above₂) (outer : List Compound)
    (hholds : ∀ compound ∈ outer, ∀ {node₁ node₂}, shows node₁ node₂ →
      compound.holds doc₁ node₁ = compound.holds doc₂ node₂) :
    climbs doc₁ outer above₁ = climbs doc₂ outer above₂ := by
  -- Both ways are gone up step by step, with the same compounds left on each.
  induction hways generalizing outer with
  | nil => cases outer <;> rfl
  | cons hnode _ ih =>
    cases outer with
    | nil => rfl
    | cons compound outer =>
      rw [climbs, climbs, hholds compound List.mem_cons_self hnode, ih (compound :: outer) hholds,
        ih outer fun other hm => hholds other (List.mem_cons_of_mem _ hm)]

/-- A climb looks at the tags and attributes of the elements that it meets. -/
theorem climbs_congr {above₁ above₂ : List Nat} (outer : List Compound)
    (h : above₁.map doc₁.element? = above₂.map doc₂.element?) :
    climbs doc₁ outer above₁ = climbs doc₂ outer above₂ := by
  have hways : List.Forall₂ (fun node₁ node₂ => doc₁.element? node₁ = doc₂.element? node₂)
      above₁ above₂ := by
    have hequal : List.Forall₂ Eq (above₁.map doc₁.element?) (above₂.map doc₂.element?) := by
      rw [List.forall₂_eq_eq_eq]
      exact h
    rwa [List.forall₂_map_left_iff, List.forall₂_map_right_iff] at hequal
  exact climbs_congr_of_forall₂ hways outer fun compound _ _ _ hnode => compound.holds_congr hnode

/-- The matcher for descent selectors looks at nothing but the element and the elements above it. -/
theorem looksUpward_matcher : matcher.LooksUpward := by
  intro doc₁ doc₂ node₁ node₂ hnode habove selector
  have hmap : (doc₁.elementAncestors node₁).map doc₁.element? =
      (doc₂.elementAncestors node₂).map doc₂.element? := by
    rw [Document.map_element?_elementAncestors, Document.map_element?_elementAncestors, habove]
  have halternative : ∀ alternative : Alternative,
      alternative.selects doc₁ node₁ = alternative.selects doc₂ node₂ := by
    intro alternative
    unfold Alternative.selects
    cases alternative.reverse with
    | nil => rfl
    | cons last outer => simp only [last.holds_congr hnode, climbs_congr outer hmap]
  show selects doc₁ node₁ selector = selects doc₂ node₂ selector
  unfold selects
  cases read selector with
  | error fault => rfl
  | ok alternatives => exact congrArg alternatives.any (funext halternative)

end Descent

/-! ## Conversions -/

namespace Conversion

/-- Whether blanks are kept depends on the chain above a node. -/
theorem isPreformatted_eq (c : Conversion) (node : Nat) :
    c.isPreformatted node =
      ((c.doc.chainAbove node).head?.map (·.1)).any (·.toLower == "pre") := by
  rw [isPreformatted, Document.tag?_parentElement?]

variable {c₁ c₂ : Conversion} {node₁ node₂ : Nat}

/-- Texts that have the same elements above them are collapsed alike. -/
theorem plainText_congr (hnormalize : c₁.normalize = c₂.normalize)
    (habove : c₁.doc.chainAbove node₁ = c₂.doc.chainAbove node₂) (text : String) :
    c₁.plainText node₁ text = c₂.plainText node₂ text := by
  unfold plainText
  rw [isPreformatted_eq, isPreformatted_eq, habove, hnormalize]

/-- Elements that show the same, and have the same elements above them, are selected by the same
rules. -/
theorem rulesFor_congr (hup : c₂.matcher.LooksUpward) (hmatcher : c₁.matcher = c₂.matcher)
    (hregistry : c₁.registry = c₂.registry)
    (hnode : c₁.doc.element? node₁ = c₂.doc.element? node₂)
    (habove : c₁.doc.chainAbove node₁ = c₂.doc.chainAbove node₂) :
    c₁.rulesFor node₁ = c₂.rulesFor node₂ := by
  unfold rulesFor
  rw [hregistry, hmatcher]
  exact List.filter_congr fun rule _ => hup hnode habove rule.selector

/-- Elements that show the same, and have the same elements above them, are ignored alike. -/
theorem isIgnored_congr (hup : c₂.matcher.LooksUpward) (hmatcher : c₁.matcher = c₂.matcher)
    (hregistry : c₁.registry = c₂.registry)
    (hnode : c₁.doc.element? node₁ = c₂.doc.element? node₂)
    (habove : c₁.doc.chainAbove node₁ = c₂.doc.chainAbove node₂) :
    c₁.isIgnored node₁ = c₂.isIgnored node₂ := by
  unfold isIgnored
  rw [hregistry, hmatcher]
  exact congrArg c₂.registry.ignored.any (funext fun selector => hup hnode habove selector)

end Conversion

end TreeText
