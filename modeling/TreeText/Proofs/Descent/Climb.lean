/-
# Climbs

The test of a selector takes, for each compound in turn, the nearest element above the last one that
the compound holds on, and never goes back. It misses nothing by that. If compounds can be placed on
elements one above the other at all, the first of them may as well take the nearest element that it
holds on: whatever lies above the element that it took before lies above that one too.

* `Document.IsAbove` is the order of a document upward, and `Document.mem_elementAncestors_iff` says
  that the walk upward meets the elements above a node.
* `Descent.Alternative.Fits` says that an alternative can be placed on elements that end with a node.
* `Descent.climbs_iff_placeable` says that a climb finds a place for every compound if there is one,
  and `Descent.selects_iff_exists_fits` that the test of a selector finds what fits and nothing else.
-/
import Mathlib.Data.List.Chain
import Mathlib.Data.List.Forall2
import Mathlib.Logic.Relation
import TreeText.Proofs.Document.Upward

namespace TreeText

namespace Document

variable {doc : Document} {node above upper : Nat}

/-! ## Nodes above a node -/

/-- A node lies strictly above another: it is the parent of that one, or above its parent. -/
def IsAbove (doc : Document) : Nat → Nat → Prop :=
  Relation.TransGen fun above node => doc.parent? node = some above

/-- What lies above a node is its parent or lies above that. -/
theorem isAbove_iff_of_parent? (h : doc.parent? node = some above) :
    doc.IsAbove upper node ↔ upper = above ∨ doc.IsAbove upper above := by
  constructor
  · intro hupper
    cases hupper with
    | single hparent => exact Or.inl (Option.some.inj (hparent.symm.trans h))
    | tail hrest hparent =>
      obtain rfl := Option.some.inj (hparent.symm.trans h)
      exact Or.inr hrest
  · rintro (rfl | hupper)
    · exact .single h
    · exact .tail hupper h

/-- Nothing lies above a node without a parent. -/
theorem not_isAbove_of_no_parent (h : doc.parent? node = none) : ¬doc.IsAbove upper node := by
  intro hupper
  obtain ⟨above, -, hparent⟩ := Relation.TransGen.tail'_iff.1 hupper
  rw [h] at hparent
  cases hparent

/-- The walk upward meets the nodes above a node. -/
theorem mem_ancestors_iff (doc : Document) (upper node : Nat) :
    upper ∈ doc.ancestors node ↔ doc.IsAbove upper node := by
  induction node using Nat.strongRecOn with
  | ind node ih =>
    cases hp : doc.parent? node with
    | none =>
      rw [ancestors_of_no_parent hp]
      exact iff_of_false List.not_mem_nil (not_isAbove_of_no_parent hp)
    | some above =>
      rw [ancestors_of_parent? hp, List.mem_cons, ih above (parent?_lt hp),
        isAbove_iff_of_parent? hp]

/-- The walk from element to element meets the elements above a node. -/
theorem mem_elementAncestors_iff (doc : Document) (upper node : Nat) :
    upper ∈ doc.elementAncestors node ↔ doc.IsAbove upper node ∧ doc.isElement upper = true := by
  rw [elementAncestors, List.mem_filter, mem_ancestors_iff]

end Document

namespace Descent

variable {doc : Document} {node : Nat}

/-! ## Where compounds fit -/

/-- A compound holds on a place, which is an element. -/
def Compound.HoldsAt (doc : Document) (compound : Compound) (place : Nat) : Prop :=
  doc.isElement place = true ∧ compound.holds doc place = true

/-- A compound holds on nothing but elements. -/
theorem Compound.isElement_of_holds {compound : Compound} (h : compound.holds doc node = true) :
    doc.isElement node = true := by
  unfold Compound.holds at h
  split at h
  · next hcontent =>
    rw [Document.isElement, Document.tag?, hcontent]
    rfl
  · cases h

/-- An alternative fits a node: its compounds hold on elements, one for each compound and each
strictly above the next, of which the node is the last. -/
def Alternative.Fits (doc : Document) (node : Nat) (alternative : Alternative) : Prop :=
  ∃ above, List.Forall₂ (Compound.HoldsAt doc) alternative (above ++ [node]) ∧
    (above ++ [node]).IsChain doc.IsAbove

/-- Compounds, innermost first, can be placed on elements above a node, each strictly above the one
before it. -/
def Placeable (doc : Document) (outer : List Compound) (node : Nat) : Prop :=
  ∃ places, List.Forall₂ (Compound.HoldsAt doc) outer places ∧
    (node :: places).IsChain (Function.swap doc.IsAbove)

/-- An alternative fits a node if its last compound holds on the node and the others can be placed
above it. -/
theorem Alternative.fits_iff (alternative : Alternative) :
    alternative.Fits doc node ↔ ∃ last outer, alternative.reverse = last :: outer ∧
      last.HoldsAt doc node ∧ Placeable doc outer node := by
  have hreverse : ∀ above : List Nat, (above ++ [node]).reverse = node :: above.reverse :=
    fun above => List.reverse_concat
  constructor
  · rintro ⟨above, hholds, hchain⟩
    rw [← List.forall₂_reverse_iff, hreverse] at hholds
    obtain ⟨last, outer, hlast, houter, heq⟩ := List.forall₂_cons_right_iff.1 hholds
    refine ⟨last, outer, heq, hlast, above.reverse, houter, ?_⟩
    rw [← hreverse]
    exact List.isChain_reverse.2 hchain
  · rintro ⟨last, outer, heq, hlast, places, houter, hchain⟩
    refine ⟨places.reverse, ?_, ?_⟩
    · rw [← List.forall₂_reverse_iff, hreverse, List.reverse_reverse, heq]
      exact .cons hlast houter
    · rw [← List.reverse_cons]
      exact List.isChain_reverse.2 hchain

/-! ## The nearest place -/

/-- What can be placed above a node can be placed above any node below that. -/
theorem Placeable.lower {outer : List Compound} {above : Nat} (h : Placeable doc outer above)
    (habove : doc.IsAbove above node) : Placeable doc outer node := by
  obtain ⟨places, hholds, hchain⟩ := h
  have htrans : ∀ {place : Nat}, doc.IsAbove place above → doc.IsAbove place node :=
    fun hplace => hplace.trans habove
  exact ⟨places, hholds, hchain.imp_head htrans⟩

/-- The first compound takes some element above the node, and the others are placed above that. -/
theorem placeable_cons_iff {compound : Compound} {outer : List Compound} :
    Placeable doc (compound :: outer) node ↔
      ∃ place ∈ doc.elementAncestors node, compound.holds doc place = true ∧
        Placeable doc outer place := by
  constructor
  · rintro ⟨places, hholds, hchain⟩
    obtain ⟨place, further, hplace, hfurther, rfl⟩ := List.forall₂_cons_left_iff.1 hholds
    obtain ⟨habove, hrest⟩ := List.isChain_cons_cons.1 hchain
    exact ⟨place, (doc.mem_elementAncestors_iff place node).2 ⟨habove, hplace.1⟩, hplace.2,
      further, hfurther, hrest⟩
  · rintro ⟨place, hmem, hplace, further, hfurther, hrest⟩
    obtain ⟨habove, helement⟩ := (doc.mem_elementAncestors_iff place node).1 hmem
    exact ⟨place :: further, .cons ⟨helement, hplace⟩ hfurther, .cons_cons habove hrest⟩

/-- A climb succeeds if the compounds can be placed at all. -/
theorem climbs_iff_placeable (doc : Document) (outer : List Compound) (node : Nat) :
    climbs doc outer (doc.elementAncestors node) = true ↔ Placeable doc outer node := by
  induction node using Nat.strongRecOn generalizing outer with
  | ind node ih =>
    -- The way up goes on from the nearest element, which has a smaller number than the node.
    cases outer with
    | nil => exact iff_of_true (by rw [climbs]) ⟨[], .nil, .singleton node⟩
    | cons compound outer =>
      rcases doc.elementAncestors_cases node with ⟨-, hall⟩ | ⟨above, hlt, -, hall⟩
      · -- No element is left for the first compound.
        rw [hall, climbs, placeable_cons_iff, hall]
        simp
      · have hmem : above ∈ doc.elementAncestors node := hall ▸ List.mem_cons_self
        have habove : doc.IsAbove above node := ((doc.mem_elementAncestors_iff above node).1 hmem).1
        have hcases : ∀ place ∈ doc.elementAncestors node,
            place = above ∨ place ∈ doc.elementAncestors above :=
          fun place h => List.mem_cons.1 (hall ▸ h)
        rw [hall, climbs]
        cases hholds : compound.holds doc above with
        | true =>
          rw [if_pos rfl, ih above hlt outer, placeable_cons_iff]
          constructor
          · exact fun hrest => ⟨above, hmem, hholds, hrest⟩
          · -- The others stand above the place that was taken, so above the nearest one as well.
            rintro ⟨place, hplace, -, hrest⟩
            rcases hcases place hplace with rfl | hfurther
            · exact hrest
            · exact hrest.lower ((doc.mem_elementAncestors_iff place above).1 hfurther).1
        | false =>
          -- The nearest element is passed over, as no placement can use it for the first compound.
          rw [if_neg Bool.false_ne_true, ih above hlt (compound :: outer)]
          constructor
          · exact fun h => h.lower habove
          · intro h
            obtain ⟨place, hplace, hplaced, hrest⟩ := placeable_cons_iff.1 h
            rcases hcases place hplace with rfl | hfurther
            · rw [hholds] at hplaced
              cases hplaced
            · exact placeable_cons_iff.2 ⟨place, hfurther, hplaced, hrest⟩

/-! ## Selectors -/

/-- An alternative selects the nodes that it fits. -/
theorem Alternative.selects_iff_fits (doc : Document) (node : Nat) (alternative : Alternative) :
    alternative.selects doc node = true ↔ alternative.Fits doc node := by
  rw [Alternative.fits_iff]
  unfold Alternative.selects
  cases halternative : alternative.reverse with
  | nil => simp
  | cons last outer =>
    rw [Bool.and_eq_true, climbs_iff_placeable]
    constructor
    · rintro ⟨hlast, houter⟩
      exact ⟨last, outer, rfl, ⟨Compound.isElement_of_holds hlast, hlast⟩, houter⟩
    · rintro ⟨_, _, heq, hlast, houter⟩
      cases heq
      exact ⟨hlast.2, houter⟩

/-- A node to which an alternative is fitted is an element. -/
theorem Alternative.Fits.isElement {alternative : Alternative} (h : alternative.Fits doc node) :
    doc.isElement node = true := by
  obtain ⟨last, outer, -, hlast, -⟩ := alternative.fits_iff.1 h
  exact hlast.1

/-- A selector text selects a node if the text is read and one of its alternatives fits the node. It
selects nothing but elements, and a text that cannot be read selects nothing. -/
theorem selects_iff_exists_fits (doc : Document) (node : Nat) (selector : String) :
    (matcher.selects doc node selector = true ↔
      ∃ alternatives, read selector = .ok alternatives ∧
        ∃ alternative ∈ alternatives, alternative.Fits doc node) ∧
    (doc.isElement node = false → matcher.selects doc node selector = false) ∧
    (∀ fault, read selector = .error fault → matcher.selects doc node selector = false) := by
  have hiff : matcher.selects doc node selector = true ↔
      ∃ alternatives, read selector = .ok alternatives ∧
        ∃ alternative ∈ alternatives, alternative.Fits doc node := by
    show selects doc node selector = true ↔ _
    unfold selects
    cases read selector with
    | error fault => simp
    | ok alternatives => simp [List.any_eq_true, Alternative.selects_iff_fits]
  refine ⟨hiff, fun helement => ?_, fun fault hfault => ?_⟩
  · rw [Bool.eq_false_iff, ne_eq, hiff]
    rintro ⟨alternatives, -, alternative, -, hfits⟩
    rw [hfits.isElement] at helement
    cases helement
  · rw [Bool.eq_false_iff, ne_eq, hiff]
    rintro ⟨alternatives, hread, -⟩
    rw [hfault] at hread
    cases hread

/-- A paragraph in two nested blocks: the outer compound has to leave the nearer block to the inner
one, and there is no third block. A text is not selected, and neither is what cannot be read. -/
theorem selects_iff_exists_fits_nested :
    let doc := Document.build [.element 1 "div" ⟨[("class", "outer")]⟩,
      .element 2 "div" ⟨[("class", "outer")]⟩, .element 3 "p" .empty, .text 4 "words"]
    (∃ alternatives, read ".outer div p" = .ok alternatives ∧
      ∃ alternative ∈ alternatives, alternative.Fits doc 4) ∧
    (¬∃ alternatives, read "div div div p" = .ok alternatives ∧
      ∃ alternative ∈ alternatives, alternative.Fits doc 4) ∧
    matcher.selects doc 5 "*" = false ∧ matcher.selects doc 4 "div > p" = false := by
  intro doc
  obtain ⟨htwice, -, -⟩ := selects_iff_exists_fits doc 4 ".outer div p"
  obtain ⟨hthrice, -, -⟩ := selects_iff_exists_fits doc 4 "div div div p"
  obtain ⟨-, htext, -⟩ := selects_iff_exists_fits doc 5 "*"
  obtain ⟨-, -, hunread⟩ := selects_iff_exists_fits doc 4 "div > p"
  have hmissed : matcher.selects doc 4 "div div div p" = false := by decide +kernel
  refine ⟨htwice.1 (by decide +kernel), fun hfits => ?_, htext (by decide +kernel),
    hunread (.unsupported ">") (by decide +kernel)⟩
  rw [hthrice.2 hfits] at hmissed
  cases hmissed

end Descent

end TreeText
