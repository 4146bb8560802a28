/-
# Nothing passes between siblings

What a node contributes depends on its own subtree, on the elements above it and on its depth. Let
the formatters look at nothing but their elements, and let selectors look at nothing but an element
and the elements above it. Then a node contributes the same in any two documents that agree on
these, whatever stands beside it or beside the nodes above it. A text is joined of such
contributions, one child after the other, up to the first that fails.

* `Conversion.Twins.visibleBelow_eq` says that nodes with one subtree show the same, and
  `Conversion.Twins.alike_contribution_of_subtree` that they contribute alike.
* `Engine.contribution` is what a node contributes, and `Engine.rawText_eq_gather` says that raw
  texts are joined of contributions.
-/
import TreeText.Proofs.Conversion.Bound
import TreeText.Proofs.Conversion.Visible
import TreeText.Proofs.Document.Subtree
import TreeText.Proofs.Formatter.Piece

namespace TreeText

/-- What is found in two lists is the same if they show the same one by one, and the same is found
wherever the same is shown. -/
theorem filterMap_eq_of_map_eq {ι κ γ δ : Type} {shown₁ : ι → γ} {shown₂ : κ → γ}
    {found₁ : ι → Option δ} {found₂ : κ → Option δ} {items₁ : List ι} {items₂ : List κ}
    (h : items₁.map shown₁ = items₂.map shown₂)
    (hfound : ∀ item₁ ∈ items₁, ∀ item₂ ∈ items₂, shown₁ item₁ = shown₂ item₂ →
      found₁ item₁ = found₂ item₂) :
    items₁.filterMap found₁ = items₂.filterMap found₂ := by
  induction items₁ generalizing items₂ with
  | nil =>
    obtain rfl : items₂ = [] := List.map_eq_nil_iff.1 h.symm
    rfl
  | cons item₁ items₁ ih =>
    cases items₂ with
    | nil => cases h
    | cons item₂ items₂ =>
      obtain ⟨hfirst, hrest⟩ := List.cons.inj h
      have hhead := hfound item₁ List.mem_cons_self item₂ List.mem_cons_self hfirst
      have htail := ih hrest fun item hm other ho =>
        hfound item (List.mem_cons_of_mem _ hm) other (List.mem_cons_of_mem _ ho)
      rw [List.filterMap_cons, List.filterMap_cons, hhead, htail]

namespace Conversion.Twins

variable {c₁ c₂ : Conversion} {node₁ node₂ : Nat}

/-- What can be seen below a node depends on its subtree and on the elements above it. -/
theorem visibleBelow_eq (h : c₁.Twins c₂)
    (hsubtree : c₁.doc.subtree node₁ = c₂.doc.subtree node₂)
    (habove : c₁.doc.chainAbove node₁ = c₂.doc.chainAbove node₂) :
    c₁.visibleBelow node₁ = c₂.visibleBelow node₂ := by
  have hd₁ := h.linked₁.descends
  have hd₂ := h.linked₂.descends
  induction node₁ using hd₁.induction generalizing node₂ with
  | node node₁ ih =>
    obtain ⟨hcontent, hparts⟩ := Document.of_subtree_eq hd₁ hd₂ hsubtree
    rw [Conversion.visibleBelow_eq hd₁, Conversion.visibleBelow_eq hd₂]
    refine filterMap_eq_of_map_eq hparts fun child₁ hm₁ child₂ hm₂ hsame => ?_
    obtain ⟨hown, -⟩ := Document.of_subtree_eq hd₁ hd₂ hsame
    -- What lies above a child is the chain of the node that lists it.
    have hchain : c₁.doc.chainAbove child₁ = c₂.doc.chainAbove child₂ := by
      rw [Document.chainAbove_of_parent? (h.linked₁ node₁ child₁ hm₁),
        Document.chainAbove_of_parent? (h.linked₂ node₂ child₂ hm₂),
        Document.chain_congr (Document.element?_congr hcontent) habove]
    have hignored : c₁.isIgnored child₁ = c₂.isIgnored child₂ :=
      isIgnored_congr h.looksUpward h.matcher_eq h.registry_eq (Document.element?_congr hown) hchain
    rw [visible?_tree hd₁, visible?_tree hd₂, hown, hignored, ih child₁ hm₁ hsame hchain]

/-- Nodes with one subtree and the same elements above them contribute alike at one depth. -/
theorem alike_contribution_of_subtree (h : c₁.Twins c₂)
    (hsubtree : c₁.doc.subtree node₁ = c₂.doc.subtree node₂)
    (habove : c₁.doc.chainAbove node₁ = c₂.doc.chainAbove node₂) {bound₁ bound₂ : Nat}
    (hb₁ : c₁.doc.size - node₁ < bound₁) (hb₂ : c₂.doc.size - node₂ < bound₂) (depth : Nat) :
    Run.Alike (SameCall c₁ c₂ node₁ node₂) (c₁.contribution (c₁.textOf bound₁) depth node₁)
      (c₂.contribution (c₂.textOf bound₂) depth node₂) := by
  obtain ⟨hcontent, -⟩ := Document.of_subtree_eq h.linked₁.descends h.linked₂.descends hsubtree
  have helement := Document.element?_congr hcontent
  have hignored : c₁.isIgnored node₁ = c₂.isIgnored node₂ :=
    isIgnored_congr h.looksUpward h.matcher_eq h.registry_eq helement habove
  have hrules : c₁.rulesFor node₁ = c₂.rulesFor node₂ :=
    rulesFor_congr h.looksUpward h.matcher_eq h.registry_eq helement habove
  have hdataset : c₁.doc.dataset node₁ = c₂.doc.dataset node₂ := by
    rw [Document.dataset, Document.dataset, hcontent]
  have htext : Run.Alike (SameCall c₁ c₂ node₁ node₂) (c₁.textOf bound₁ (depth + 1) node₁)
      (c₂.textOf bound₂ (depth + 1) node₂) :=
    h.alike_textOf hb₁ hb₂ Relation.ReflTransGen.refl Relation.ReflTransGen.refl
      (Document.chain_congr helement habove) (h.visibleBelow_eq hsubtree habove)
  unfold contribution
  rw [hcontent]
  rcases c₂.doc.content? node₂ with _ | ⟨tag, dataset⟩ | text | _ <;> simp only
  · exact Run.alike_pure ""
  · rw [hignored]
    by_cases hi : c₂.isIgnored node₂
    · rw [if_pos hi, if_pos hi]
      exact Run.alike_pure ""
    · rw [if_neg hi, if_neg hi]
      refine h.alike_resolve hrules (fun formatter => ?_) htext
      exact ⟨rfl, rfl, hdataset, rfl, Relation.ReflTransGen.refl, Relation.ReflTransGen.refl⟩
  · rw [plainText_congr h.normalize_eq habove]
    exact Run.alike_pure _
  · exact Run.alike_pure ""

end Conversion.Twins

/-! ## Engines -/

namespace Engine

/-- What a node contributes at a depth. -/
def contribution (engine : Engine) (doc : Document) (normalize : Bool) (depth node : Nat) :
    Run String :=
  let c := engine.conversion doc normalize
  c.contribution (c.textOf (nesting doc)) depth node

/-- What a node contributes ends. -/
theorem ends_contribution {engine : Engine} (he : engine.registry.ConvertsDownward)
    {doc : Document} (hd : doc.Descends) (normalize : Bool) (depth node : Nat) :
    (engine.contribution doc normalize depth node).Ends :=
  Conversion.ends_contribution (c := engine.conversion doc normalize) (Conversion.asksDownward_of_registry he)
    fun below _ => Conversion.ends_textOf (Conversion.asksDownward_of_registry he) hd
      (size_sub_lt_nesting doc below)

/-- The raw text of a node is joined of what its children contribute. -/
theorem rawText_eq_gather {engine : Engine} (he : engine.registry.ConvertsDownward)
    {doc : Document} (hd : doc.Descends) (root : Nat) (normalize : Bool) :
    engine.rawText doc root normalize =
      Run.gather ((doc.children root).map (engine.contribution doc normalize 0)) :=
  Conversion.textOf_eq_gather (c := engine.conversion doc normalize)
    (Conversion.asksDownward_of_registry he) hd (size_sub_lt_nesting doc root) 0

/-- Let formatters look at nothing but their elements. Then two nodes of documents that were built,
with one subtree and the same elements above them, contribute the same at one depth: both
contributions end in one way, behind events that match one by one. And the raw text below a root is
joined of what its children contribute, or it fails as the first of them that does, behind the
events of those before. -/
theorem contribution_of_subtree_eq (engine : Engine) (hm : engine.matcher = Descent.matcher)
    (hs : engine.registry.SelfContained) (normalize : Bool) (edits₁ edits₂ : List Document.Edit) :
    let doc₁ := Document.build edits₁
    let doc₂ := Document.build edits₂
    let c₁ := engine.conversion doc₁ normalize
    let c₂ := engine.conversion doc₂ normalize
    (∀ depth node₁ node₂, doc₁.subtree node₁ = doc₂.subtree node₂ →
      doc₁.chainAbove node₁ = doc₂.chainAbove node₂ →
      ∃ events₁ events₂ result,
        engine.contribution doc₁ normalize depth node₁ = some (events₁, result) ∧
        engine.contribution doc₂ normalize depth node₂ = some (events₂, result) ∧
        List.Forall₂ (Event.Alike (Conversion.SameCall c₁ c₂ node₁ node₂)) events₁ events₂) ∧
    ∀ root,
      (∃ parts : List (List Event × String),
        (doc₁.children root).map (engine.contribution doc₁ normalize 0) =
          parts.map (fun part => Run.ending part.1 (.ok part.2)) ∧
        engine.rawText doc₁ root normalize =
          Run.ending (parts.map Prod.fst).flatten (.ok (String.join (parts.map Prod.snd)))) ∨
      ∃ (parts : List (List Event × String)) (events : List Event) (error : ConversionError)
        (others : List (Run String)),
        (doc₁.children root).map (engine.contribution doc₁ normalize 0) =
          parts.map (fun part => Run.ending part.1 (.ok part.2)) ++
            Run.ending events (.error error) :: others ∧
        engine.rawText doc₁ root normalize =
          Run.ending ((parts.map Prod.fst).flatten ++ events) (.error error) := by
  intro doc₁ doc₂ c₁ c₂
  have htwins : c₁.Twins c₂ :=
    ⟨rfl, rfl, rfl, (hm ▸ Descent.looksUpward_matcher : engine.matcher.LooksUpward), hs,
      Document.linked_build edits₁, Document.linked_build edits₂⟩
  have hd : doc₁.Descends := htwins.linked₁.descends
  have hends := fun depth node => ends_contribution hs.convertsDownward hd normalize depth node
  refine ⟨fun depth node₁ node₂ hsubtree habove => ?_, fun root => ?_⟩
  · have halike := htwins.alike_contribution_of_subtree hsubtree habove
      (size_sub_lt_nesting doc₁ node₁) (size_sub_lt_nesting doc₂ node₂) depth
    exact halike.exists_of_ends (hends depth node₁)
  · have hraw := rawText_eq_gather hs.convertsDownward hd root normalize
    have hall : ∀ run ∈ (doc₁.children root).map (engine.contribution doc₁ normalize 0),
        run.Ends := by
      intro run hrun
      obtain ⟨child, -, rfl⟩ := List.mem_map.1 hrun
      exact hends 0 child
    rcases Run.exists_parts_of_ends hall with
      ⟨parts, hparts⟩ | ⟨parts, events, error, others, hparts⟩
    · refine Or.inl ⟨parts, hparts, ?_⟩
      rw [hraw, hparts]
      exact Run.gather_map_ending parts
    · refine Or.inr ⟨parts, events, error, others, hparts, ?_⟩
      rw [hraw, hparts]
      exact Run.gather_map_ending_append parts events error others

/-- A paragraph has other numbers and other siblings in a second document, and contributes the same
there; but the emphasis in front of it is empty, so that the raw text of that document fails. -/
theorem contribution_of_subtree_eq_paragraph :
    let edits₁ : List Document.Edit :=
      [.element 1 "p" ⟨[("lang", "en")]⟩, .text 2 "a  ", .element 2 "em" .empty, .text 4 "b"]
    let edits₂ : List Document.Edit :=
      [.element 1 "em" .empty, .element 1 "p" ⟨[("lang", "en")]⟩, .text 3 "a  ", .other 1,
        .element 3 "em" .empty, .text 6 "b", .text 1 "c"]
    let strong := Formatter.ofPieces "strong" [.noAnswerIfEmpty, .literal "*", .content]
    let engine : Engine := ⟨Descent.matcher, [⟨"em", .format strong⟩], .empty, [], none⟩
    let doc₁ := Document.build edits₁
    let doc₂ := Document.build edits₂
    let c₁ := engine.conversion doc₁ true
    let c₂ := engine.conversion doc₂ true
    engine.registry.SelfContained ∧ doc₁.subtree 2 = doc₂.subtree 3 ∧
      doc₁.chainAbove 2 = doc₂.chainAbove 3 ∧
      (engine.contribution doc₁ true 0 2).result? = some (.ok "a *b") ∧
      (engine.rawText doc₁ 1 true).result? = some (.ok "a *b") ∧
      (engine.rawText doc₂ 1 true).result? = some (.error (.ruleWithoutAnswer "em")) ∧
      ∃ events₁ events₂ result,
        engine.contribution doc₁ true 0 2 = some (events₁, result) ∧
        engine.contribution doc₂ true 0 3 = some (events₂, result) ∧
        List.Forall₂ (Event.Alike (Conversion.SameCall c₁ c₂ 2 3)) events₁ events₂ := by
  intro edits₁ edits₂ strong engine doc₁ doc₂ c₁ c₂
  have hstrong : strong.SelfContained := Formatter.selfContained_ofPieces (by decide) "strong"
  have hs : engine.registry.SelfContained := by
    intro formatter hm
    obtain rfl : formatter = strong := by
      simpa [engine, Registry.formatters, Rule.formatter?] using hm
    exact hstrong
  have hsubtree : doc₁.subtree 2 = doc₂.subtree 3 := by
    simp only [doc₁, doc₂, edits₁, edits₂]
    cbv
  have habove : doc₁.chainAbove 2 = doc₂.chainAbove 3 := by decide +kernel
  have hsame :=
    (contribution_of_subtree_eq engine rfl hs true edits₁ edits₂).1 0 2 3 hsubtree habove
  exact ⟨hs, hsubtree, habove, by decide +kernel, by decide +kernel, by decide +kernel, hsame⟩

end Engine

end TreeText
