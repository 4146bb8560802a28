/-
# Walks upward

A search for an element goes from a node to its parent, from there to the parent of that, and so on;
it stops only where it has found an element or where there is no parent. The test of a selector goes
on from each element that is found so, until all its compounds have been met. Each step leads to a
smaller number, so each walk ends.

* `Document.Seeks` is the search for an element, step by step; `Document.seeks_parentElement?` says
  that it ends with the nearest one, and `Document.Seeks.unique` that it ends in one way only.
* `Descent.Ascends` is the test of compounds, step by step, and `Descent.ascends_elementAncestors`
  says how it ends.
-/
import TreeText.Descent.Selector

namespace TreeText

namespace Document

variable {doc : Document} {node above : Nat}

/-! ## The nearest element -/

/-- The search for an element, from a place upward: it ends with nothing where there is no node, it
ends at an element, and from any other node it goes on with the parent. -/
inductive Seeks (doc : Document) : Option Nat → Option Nat → Prop where
  | top : Seeks doc none none
  | found {node : Nat} (helement : doc.isElement node = true) : Seeks doc (some node) (some node)
  | on {node : Nat} {found : Option Nat} (helement : doc.isElement node = false)
      (hrest : Seeks doc (doc.parent? node) found) : Seeks doc (some node) found

/-- Above a node without a parent there is no element. -/
theorem elementAncestors_of_no_parent (h : doc.parent? node = none) :
    doc.elementAncestors node = [] := by
  rw [elementAncestors, ancestors_of_no_parent h, List.filter_nil]

/-- A parent that is an element is the nearest element. -/
theorem elementAncestors_of_element (h : doc.parent? node = some above)
    (helement : doc.isElement above = true) :
    doc.elementAncestors node = above :: doc.elementAncestors above := by
  rw [elementAncestors, ancestors_of_parent? h, List.filter_cons_of_pos helement]
  rfl

/-- A parent that is no element has the same elements above it. -/
theorem elementAncestors_of_not_element (h : doc.parent? node = some above)
    (helement : doc.isElement above = false) :
    doc.elementAncestors node = doc.elementAncestors above := by
  rw [elementAncestors, ancestors_of_parent? h, List.filter_cons_of_neg (by simp [helement])]
  rfl

/-- The search from the parent of a node ends with the nearest element above the node. -/
theorem seeks_parentElement? (doc : Document) (node : Nat) :
    doc.Seeks (doc.parent? node) (doc.parentElement? node) := by
  induction node using Nat.strongRecOn with
  | ind node ih =>
    rw [parentElement?]
    cases hp : doc.parent? node with
    | none =>
      rw [elementAncestors_of_no_parent hp]
      exact .top
    | some above =>
      cases he : doc.isElement above with
      | true =>
        rw [elementAncestors_of_element hp he]
        exact .found he
      | false =>
        have hrest : doc.Seeks (doc.parent? above) (doc.parentElement? above) :=
          ih above (parent?_lt hp)
        rw [elementAncestors_of_not_element hp he]
        exact .on he hrest

/-- A search from one place ends in one way. -/
theorem Seeks.unique {place found other : Option Nat} (h : doc.Seeks place found)
    (ho : doc.Seeks place other) : found = other := by
  induction h with
  | top =>
    cases ho with
    | top => rfl
  | found helement =>
    cases ho with
    | found => rfl
    | on hnot => exact absurd (helement.symm.trans hnot) (by decide)
  | on hnot _ ih =>
    cases ho with
    | found helement => exact absurd (helement.symm.trans hnot) (by decide)
    | on _ hrest => exact ih hrest

/-- The elements above a node are the nearest one and those above that, and the nearest one has a
smaller number. -/
theorem elementAncestors_cases (doc : Document) (node : Nat) :
    (doc.parentElement? node = none ∧ doc.elementAncestors node = []) ∨
      ∃ above, above < node ∧ doc.parentElement? node = some above ∧
        doc.elementAncestors node = above :: doc.elementAncestors above := by
  induction node using Nat.strongRecOn with
  | ind node ih =>
    rw [parentElement?]
    cases hp : doc.parent? node with
    | none =>
      left
      rw [elementAncestors_of_no_parent hp]
      exact ⟨rfl, rfl⟩
    | some parent =>
      have hlt : parent < node := parent?_lt hp
      cases he : doc.isElement parent with
      | true =>
        right
        rw [elementAncestors_of_element hp he]
        exact ⟨parent, hlt, rfl, rfl⟩
      | false =>
        rw [elementAncestors_of_not_element hp he]
        rcases ih parent hlt with hnone | ⟨above, habove, hfound, hall⟩
        · exact Or.inl hnone
        · exact Or.inr ⟨above, Nat.lt_trans habove hlt, hfound, hall⟩

end Document

/-! ## Compounds on the way up -/

namespace Descent

/-- The test of compounds, innermost first, from a place upward: it ends well where no compound is
left, it ends badly where there is no element, and otherwise it goes on with the nearest element above
the present one, with one compound less if the first one holds on the present one. -/
inductive Ascends (doc : Document) : List Compound → Option Nat → Bool → Prop where
  | met (place : Option Nat) : Ascends doc [] place true
  | top (compound : Compound) (outer : List Compound) : Ascends doc (compound :: outer) none false
  | taken {compound : Compound} {outer : List Compound} {node : Nat} {result : Bool}
      (hholds : compound.holds doc node = true)
      (hrest : Ascends doc outer (doc.parentElement? node) result) :
      Ascends doc (compound :: outer) (some node) result
  | passed {compound : Compound} {outer : List Compound} {node : Nat} {result : Bool}
      (hholds : compound.holds doc node = false)
      (hrest : Ascends doc (compound :: outer) (doc.parentElement? node) result) :
      Ascends doc (compound :: outer) (some node) result

/-- The test from the nearest element above a node ends, and says whether the compounds hold in turn
on elements above the node. -/
theorem ascends_elementAncestors (doc : Document) (outer : List Compound) (node : Nat) :
    Ascends doc outer (doc.parentElement? node)
      (climbs doc outer (doc.elementAncestors node)) := by
  induction node using Nat.strongRecOn generalizing outer with
  | ind node ih =>
    cases outer with
    | nil =>
      rw [climbs]
      exact .met _
    | cons compound outer =>
      rcases doc.elementAncestors_cases node with ⟨hnone, hall⟩ | ⟨above, hlt, hfound, hall⟩
      · rw [hnone, hall]
        exact .top compound outer
      · rw [hfound, hall, climbs]
        cases hholds : compound.holds doc above with
        | true => exact .taken hholds (ih above hlt outer)
        | false => exact .passed hholds (ih above hlt (compound :: outer))

end Descent

end TreeText
