/-
# The order of rules

The order in which rules were put in decides which of them works first on an element that both
select. It decides nothing else. Let rules that select no element be put in or left out anywhere,
and let the others change places, as long as two rules that select a common element keep their
order: every element then goes through the same rules in the same order, and conversions are the
same.

* `Rule.Rearranges` says which lists of rules come from one another in this way.
* `Rule.filter_map_get_eq` says that a change of places is not noticed by an element, and
  `Engine.convertNodeWithin_of_rearranges` that rearranged rules give the same conversions.
-/
import Mathlib.Data.List.FinRange
import TreeText.Formatter.Piece
import TreeText.Proofs.Conversion.Finish

namespace TreeText

/-! ## Elements that rules select -/

/-- The elements of a document. -/
def Document.elements (doc : Document) : List Nat :=
  (List.range doc.size).filter doc.isElement

/-- The elements are the nodes that are elements. -/
theorem Document.mem_elements {doc : Document} {node : Nat} :
    node ∈ doc.elements ↔ doc.isElement node = true := by
  rw [elements, List.mem_filter, List.mem_range]
  refine ⟨fun h => h.2, fun h => ⟨?_, h⟩⟩
  -- Past the end there is no node, and so no element.
  by_contra hle
  have hnone : doc.nodes[node]? = none := Array.getElem?_eq_none (Nat.not_lt.1 hle)
  simp [isElement, tag?, content?, hnone] at h

namespace Rule

/-- Whether a rule selects no element of a document. -/
def isIdle (matcher : Matcher) (doc : Document) (rule : Rule) : Bool :=
  doc.elements.all fun node => !matcher.selects doc node rule.selector

/-- Whether two rules select a common element of a document. -/
def overlaps (matcher : Matcher) (doc : Document) (rule other : Rule) : Bool :=
  doc.elements.any fun node =>
    matcher.selects doc node rule.selector && matcher.selects doc node other.selector

variable {matcher : Matcher} {doc : Document} {rule other : Rule} {node : Nat}

/-- No element is selected by a rule that selects none. -/
theorem selects_eq_false_of_isIdle (h : rule.isIdle matcher doc = true)
    (hn : doc.isElement node = true) : matcher.selects doc node rule.selector = false := by
  have hnode := List.all_eq_true.1 h node (Document.mem_elements.2 hn)
  simpa using hnode

/-- Two rules that select one element select a common one. -/
theorem overlaps_of_selects (hn : doc.isElement node = true)
    (hr : matcher.selects doc node rule.selector = true)
    (ho : matcher.selects doc node other.selector = true) :
    rule.overlaps matcher doc other = true := by
  refine List.any_eq_true.2 ⟨node, Document.mem_elements.2 hn, ?_⟩
  rw [hr, ho]
  rfl

/-! ## Rearrangements -/

/-- Lists of rules that come from one another: rules that select no element of a document are put in
or left out, and the rules change places so that any two which select a common element keep their
order. A change of places lists all places, each once; the rule at each of them comes next. -/
inductive Rearranges (matcher : Matcher) (doc : Document) : List Rule → List Rule → Prop where
  | refl (rules : List Rule) : Rearranges matcher doc rules rules
  | putIn (front back : List Rule) {rule : Rule} (idle : rule.isIdle matcher doc = true) :
      Rearranges matcher doc (front ++ back) (front ++ rule :: back)
  | leaveOut (front back : List Rule) {rule : Rule} (idle : rule.isIdle matcher doc = true) :
      Rearranges matcher doc (front ++ rule :: back) (front ++ back)
  | permute (rules : List Rule) (places : List (Fin rules.length))
      (perm : places.Perm (List.finRange rules.length))
      (keeps : places.Pairwise fun i j =>
        (rules.get i).overlaps matcher doc (rules.get j) = true → i < j) :
      Rearranges matcher doc rules (places.map rules.get)
  | trans {rules between others : List Rule} (first : Rearranges matcher doc rules between)
      (second : Rearranges matcher doc between others) : Rearranges matcher doc rules others

/-- Rules that change places are selected in their old order, if those that are selected keep it. -/
theorem filter_map_get_eq {rules : List Rule} {places : List (Fin rules.length)}
    (hperm : places.Perm (List.finRange rules.length)) {isSelected : Rule → Bool}
    (hkeeps : places.Pairwise fun i j =>
      isSelected (rules.get i) = true → isSelected (rules.get j) = true → i < j) :
    (places.map rules.get).filter isSelected = rules.filter isSelected := by
  -- The places of selected rules grow in both lists, so they are the same places.
  have hplaces : places.filter (isSelected ∘ rules.get) =
      (List.finRange rules.length).filter (isSelected ∘ rules.get) := by
    have hgrow : (places.filter (isSelected ∘ rules.get)).Pairwise (· < ·) := by
      refine (hkeeps.filter _).imp_of_mem fun {i j} hi hj h => ?_
      exact h (List.mem_filter.1 hi).2 (List.mem_filter.1 hj).2
    have hrange : ((List.finRange rules.length).filter (isSelected ∘ rules.get)).Pairwise (· < ·) :=
      (List.pairwise_lt_finRange rules.length).filter _
    refine List.Perm.eq_of_pairwise (fun i j _ _ hij hji => ?_) hgrow hrange (hperm.filter _)
    exact absurd hij (Fin.not_lt.2 (Fin.le_of_lt hji))
  calc (places.map rules.get).filter isSelected
      = (places.filter (isSelected ∘ rules.get)).map rules.get := List.filter_map
    _ = ((List.finRange rules.length).filter (isSelected ∘ rules.get)).map rules.get := by
        rw [hplaces]
    _ = ((List.finRange rules.length).map rules.get).filter isSelected := List.filter_map.symm
    _ = rules.filter isSelected := by rw [List.map_get_finRange]

/-- An element goes through the same rules in the same order after a rearrangement. -/
theorem Rearranges.filter_selects_eq {rules others : List Rule}
    (h : Rearranges matcher doc rules others) (hn : doc.isElement node = true) :
    others.filter (fun rule => matcher.selects doc node rule.selector) =
      rules.filter fun rule => matcher.selects doc node rule.selector := by
  induction h with
  | refl rules => rfl
  | putIn front back idle =>
    have hidle := selects_eq_false_of_isIdle idle hn
    simp only [List.filter_append, List.filter_cons, hidle, Bool.false_eq_true, if_false]
  | leaveOut front back idle =>
    have hidle := selects_eq_false_of_isIdle idle hn
    simp only [List.filter_append, List.filter_cons, hidle, Bool.false_eq_true, if_false]
  | permute rules places perm keeps =>
    refine filter_map_get_eq perm (keeps.imp fun {i j} hij hi hj => ?_)
    exact hij (overlaps_of_selects hn hi hj)
  | trans first second ih₁ ih₂ => rw [ih₂, ih₁]

end Rule

/-! ## Engines -/

namespace Engine

/-- The engine with other rules. -/
def withRules (engine : Engine) (rules : List Rule) : Engine :=
  { engine with registry := { engine.registry with rules } }

/-- An engine with rearranged rules does the same conversions of a document, whatever the formatters
do and however deeply texts are nested: they have the same events and end in the same way, or
neither ends. -/
theorem convertNodeWithin_of_rearranges (engine : Engine) (doc : Document) (rules : List Rule)
    (h : Rule.Rearranges engine.matcher doc engine.registry.rules rules) (root : Nat)
    (options : ConversionOptions) :
    (engine.withRules rules).convertNode doc root options = engine.convertNode doc root options ∧
      ∀ bound, (engine.withRules rules).convertNodeWithin bound doc root options =
        engine.convertNodeWithin bound doc root options := by
  have hagrees : ((engine.withRules rules).conversion doc options.normalizeWhitespace).Agrees
      (engine.conversion doc options.normalizeWhitespace) :=
    ⟨rfl, rfl, rfl, fun _ _ => rfl, fun _ hn => h.filter_selects_eq hn⟩
  have hwithin : ∀ bound, (engine.withRules rules).convertNodeWithin bound doc root options =
      engine.convertNodeWithin bound doc root options := by
    intro bound
    unfold convertNodeWithin
    rw [hagrees.textOf_eq]
    rfl
  refine ⟨?_, hwithin⟩
  rw [convertNode_eq_within, convertNode_eq_within, hwithin]

/-- The two rules for paragraphs keep their order, the one for emphases moves in front of them, and
a rule for rulers, of which there are none, is put in between. The emphasis asks for the text of the
paragraph behind it. -/
theorem convertNodeWithin_of_rearranges_emphasis :
    let edits : List Document.Edit :=
      [.element 1 "p" .empty, .text 2 "a", .element 2 "em" .empty, .element 1 "p" .empty,
        .text 5 "b"]
    let link := Formatter.ofPieces "link" [.content, .convert (some 5)]
    let first : Rule := .template "p" "<{content}>"
    let second : Rule := .template "p" "[{content}]"
    let emphasis : Rule := ⟨"em", .format link⟩
    let ruler : Rule := .template "hr" "---"
    let engine : Engine := ⟨.byTag, [first, second, emphasis], .empty, [], none⟩
    let doc := Document.build edits
    let rules := [emphasis, first, ruler, second]
    Rule.Rearranges engine.matcher doc engine.registry.rules rules ∧
      (engine.convertNode doc 1 .standard).result? = some (.ok "[<ab>][<b>]") ∧
      (engine.withRules rules).convertNode doc 1 .standard =
        engine.convertNode doc 1 .standard := by
  intro edits link first second emphasis ruler engine doc rules
  have hpermute : Rule.Rearranges .byTag doc [first, second, emphasis]
      [emphasis, first, second] := by
    refine Rule.Rearranges.permute [first, second, emphasis] [2, 0, 1] ?_ ?_
    · decide +kernel
    · decide +kernel
  have hidle : ruler.isIdle .byTag doc = true := by decide +kernel
  have hrearranges : Rule.Rearranges engine.matcher doc engine.registry.rules rules :=
    hpermute.trans (Rule.Rearranges.putIn [emphasis, first] [second] hidle)
  exact ⟨hrearranges, by decide +kernel,
    (convertNodeWithin_of_rearranges engine doc rules hrearranges 1 .standard).1⟩

end Engine

end TreeText
