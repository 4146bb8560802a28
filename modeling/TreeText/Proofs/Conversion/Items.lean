/-
# Texts are copied

Without formatters, no conversion looks into a text. What comes out is put together of items that
are known before any text is: fixed texts, from templates and attributes, and references to text
nodes. Whatever the texts are, each reference is filled with the text of its node; so a text that
reads like a token of a template is copied like any other.

* `Conversion.items` are the items of trees, for rules that fill in templates.
* `Conversion.Rewords.eagerContribution_eq` says that conversions fill in the items, and
  `Engine.exists_items_convertNode` says so of conversions proper.
-/
import TreeText.Proofs.Conversion.Eager
import TreeText.Proofs.Document.Texts

namespace TreeText

/-! ## Items -/

/-- A piece of what comes out: a fixed text, or the text of a node. -/
inductive Item where
  | fixed (text : String)
  | reference (node : Nat)
  deriving DecidableEq, Repr

/-- The items that a segment is filled with. -/
def Segment.items (content : List Item) (dataset : Dataset) : Segment → List Item
  | .content => content
  | .literal text => [.fixed text]
  | .spacing => []
  | .dataset key => [.fixed (dataset.value key)]

/-- The items that a template is filled with. -/
def Template.items (template : Template) (content : List Item) (dataset : Dataset) : List Item :=
  template.segments.flatMap (Segment.items content dataset)

/-- The items that a rule makes of the items of an element. -/
def Rule.items (dataset : Dataset) (content : List Item) (rule : Rule) : List Item :=
  match rule.transform with
  | .template template => template.items content dataset
  | .format _ => content

namespace Conversion

mutual

/-- The items of a tree. -/
def itemsOf (c : Conversion) : Tree → List Item
  | .node number branches =>
    match c.doc.content? number with
    | some (.text _) => [.reference number]
    | some (.element _ dataset) =>
      if c.isIgnored number then []
      else (c.rulesFor number).foldl (Rule.items dataset) (c.items branches)
    | _ => []

/-- The items of trees, one tree after another. -/
def items (c : Conversion) : List Tree → List Item
  | [] => []
  | tree :: trees => c.itemsOf tree ++ c.items trees

end

/-! ## References -/

/-- A template refers to no node that its content does not refer to. -/
theorem mem_of_mem_template_items {template : Template} {content : List Item} {dataset : Dataset}
    {node : Nat} (h : .reference node ∈ template.items content dataset) :
    .reference node ∈ content := by
  obtain ⟨segment, -, hm⟩ := List.mem_flatMap.1 h
  cases segment with
  | content => exact hm
  | literal text => simp [Segment.items] at hm
  | spacing => simp [Segment.items] at hm
  | dataset key => simp [Segment.items] at hm

/-- Rules refer to no node that the items of the element do not refer to. -/
theorem mem_of_mem_foldl_items {rules : List Rule} {dataset : Dataset} {content : List Item}
    {node : Nat} (h : .reference node ∈ rules.foldl (Rule.items dataset) content) :
    .reference node ∈ content := by
  induction rules generalizing content with
  | nil => exact h
  | cons rule rules ih =>
    have hfirst : .reference node ∈ rule.items dataset content := ih h
    obtain ⟨selector, template | formatter⟩ := rule
    · exact mem_of_mem_template_items hfirst
    · exact hfirst

/-- The items of trees are those of each of them. -/
theorem exists_of_mem_items {c : Conversion} {trees : List Tree} {item : Item}
    (h : item ∈ c.items trees) : ∃ tree ∈ trees, item ∈ c.itemsOf tree := by
  induction trees with
  | nil => cases h
  | cons tree trees ih =>
    rcases List.mem_append.1 h with hm | hm
    · exact ⟨tree, List.mem_cons_self, hm⟩
    · obtain ⟨other, hother, hitem⟩ := ih hm
      exact ⟨other, List.mem_cons_of_mem _ hother, hitem⟩

/-- References are to text nodes. -/
theorem exists_text?_of_mem_itemsOf {c : Conversion} {tree : Tree} {node : Nat}
    (h : .reference node ∈ c.itemsOf tree) : ∃ text, c.doc.text? node = some text := by
  induction tree with
  | node number branches ih =>
    unfold itemsOf at h
    rcases hcontent : c.doc.content? number with _ | ⟨tag, dataset⟩ | text | _ <;>
      simp only [hcontent] at h
    · cases h
    · by_cases hi : c.isIgnored number
      · rw [if_pos hi] at h
        cases h
      · rw [if_neg hi] at h
        obtain ⟨branch, hbranch, hm⟩ := exists_of_mem_items (mem_of_mem_foldl_items h)
        exact ih branch hbranch hm
    · cases List.mem_singleton.1 h
      exact ⟨text, by simp [Document.text?, hcontent]⟩
    · cases h

/-! ## Items filled in -/

/-- The text of an item where the text nodes have given texts. -/
def fillItem (c : Conversion) (texts : Nat → String) : Item → String
  | .fixed text => text
  | .reference node => c.plainText node (texts node)

/-- The texts of items, joined. -/
def fill (c : Conversion) (texts : Nat → String) (items : List Item) : String :=
  String.join (items.map (c.fillItem texts))

variable {c d : Conversion} {texts : Nat → String}

theorem fill_nil : c.fill texts [] = "" := rfl

/-- Items in front are filled in front. -/
theorem fill_append (front back : List Item) :
    c.fill texts (front ++ back) = c.fill texts front ++ c.fill texts back := by
  rw [fill, List.map_append, String.join_append]
  rfl

/-- A single fixed text is filled with itself. -/
theorem fill_fixed (text : String) : c.fill texts [.fixed text] = text := by
  simp [fill, fillItem]

/-- A single reference is filled with the text of its node. -/
theorem fill_reference (node : Nat) :
    c.fill texts [.reference node] = c.plainText node (texts node) := by
  simp [fill, fillItem]

/-- The items of a segment are filled in as the segment is. -/
theorem fill_segment_items (content : List Item) (dataset : Dataset) (segment : Segment) :
    c.fill texts (segment.items content dataset) =
      segment.render (c.fill texts content) dataset := by
  cases segment with
  | content => rfl
  | literal text => exact fill_fixed text
  | spacing => rfl
  | dataset key => exact fill_fixed _

/-- The items of a template are filled in as the template is. -/
theorem fill_template_items (template : Template) (content : List Item) (dataset : Dataset) :
    c.fill texts (template.items content dataset) =
      template.render (c.fill texts content) dataset := by
  unfold Template.items Template.render
  induction template.segments with
  | nil => rfl
  | cons segment segments ih =>
    rw [List.flatMap_cons, fill_append, fill_segment_items, ih, List.map_cons, String.join_cons]

/-- Rules without formatters make of filled items what is filled in of the items that they make. -/
theorem foldlM_rewrite_fill {doc : Document} {visit : Visit} {rules : List Rule}
    (h : ∀ rule ∈ rules, rule.formatter? = none) (content : List Item) :
    rules.foldlM (Rule.rewrite doc visit) (c.fill texts content) =
      .ok (c.fill texts (rules.foldl (Rule.items visit.dataset) content)) := by
  induction rules generalizing content with
  | nil => rfl
  | cons rule rules ih =>
    obtain ⟨selector, template | formatter⟩ := rule
    · have hrest := ih (fun rule hm => h rule (List.mem_cons_of_mem _ hm))
        (template.items content visit.dataset)
      rw [fill_template_items] at hrest
      exact hrest
    · cases h ⟨selector, .format formatter⟩ List.mem_cons_self

/-! ## Other texts -/

/-- A conversion of the same shape: another one with given texts in the document, which may treat
blanks otherwise. -/
structure Rewords (d c : Conversion) (texts : Nat → String) : Prop where
  doc_eq : d.doc = c.doc.withTexts texts
  matcher_eq : d.matcher = c.matcher
  registry_eq : d.registry = c.registry
  looksUpward : c.matcher.LooksUpward
  noFormatters : c.registry.formatters = []

namespace Rewords

variable {node : Nat}

/-- Elements show the same whatever the texts are. -/
theorem element?_eq (h : d.Rewords c texts) (node : Nat) :
    d.doc.element? node = c.doc.element? node := by
  rw [h.doc_eq, Document.element?_withTexts]

/-- The elements above a node are the same whatever the texts are. -/
theorem chainAbove_eq (h : d.Rewords c texts) (node : Nat) :
    d.doc.chainAbove node = c.doc.chainAbove node := by
  rw [h.doc_eq, Document.chainAbove_withTexts]

/-- The same elements are ignored whatever the texts are. -/
theorem isIgnored_eq (h : d.Rewords c texts) (node : Nat) : d.isIgnored node = c.isIgnored node :=
  isIgnored_congr h.looksUpward h.matcher_eq h.registry_eq (h.element?_eq node)
    (h.chainAbove_eq node)

/-- The same rules select an element whatever the texts are. -/
theorem rulesFor_eq (h : d.Rewords c texts) (node : Nat) : d.rulesFor node = c.rulesFor node :=
  rulesFor_congr h.looksUpward h.matcher_eq h.registry_eq (h.element?_eq node)
    (h.chainAbove_eq node)

/-- What becomes of an element with filled items is filled in. -/
theorem eagerResolve_eq (h : d.Rewords c texts) (visit : Visit) (content : List Item) :
    d.eagerResolve visit (d.fill texts content) =
      .ok (d.fill texts ((c.rulesFor visit.node).foldl (Rule.items visit.dataset) content)) := by
  unfold eagerResolve
  rw [h.rulesFor_eq, h.registry_eq]
  have hnone : ∀ rule ∈ c.rulesFor visit.node, rule.formatter? = none :=
    fun rule hm => Registry.formatter?_eq_none h.noFormatters (List.mem_filter.1 hm).1
  cases hrules : c.rulesFor visit.node with
  | nil =>
    simp only [Registry.fallback_eq_none h.noFormatters]
    rfl
  | cons first rules => exact foldlM_rewrite_fill (hrules ▸ hnone) content

/-- The items of trees are filled in if those of each tree are. -/
theorem eagerText_eq {depth : Nat} {trees : List Tree}
    (h : ∀ tree ∈ trees, d.eagerContribution depth tree = .ok (d.fill texts (c.itemsOf tree))) :
    d.eagerText depth trees = .ok (d.fill texts (c.items trees)) := by
  induction trees with
  | nil => rfl
  | cons tree trees ih =>
    rw [eagerText, h tree List.mem_cons_self, ih fun tree hm => h tree (List.mem_cons_of_mem _ hm),
      items, fill_append]
    rfl

/-- What a tree contributes is its items, filled in, whatever the texts are. -/
theorem eagerContribution_eq (h : d.Rewords c texts) (depth : Nat) (tree : Tree) :
    d.eagerContribution depth tree = .ok (d.fill texts (c.itemsOf tree)) := by
  induction tree generalizing depth with
  | node number branches ih =>
    unfold eagerContribution itemsOf
    -- What is ignored and which rules select does not depend on texts, so both sides branch alike.
    rw [h.doc_eq, Document.content?_withTexts, h.isIgnored_eq]
    rcases c.doc.content? number with _ | ⟨tag, dataset⟩ | text | _ <;>
      simp only [Option.map_none, Option.map_some, Content.withText]
    · rw [fill_nil]
    · by_cases hi : c.isIgnored number
      · rw [if_pos hi, if_pos hi, fill_nil]
      · rw [if_neg hi, if_neg hi, eagerText_eq fun branch hm => ih branch hm (depth + 1)]
        exact h.eagerResolve_eq ⟨number, tag, dataset, depth + 1⟩ (c.items branches)
    · rw [fill_reference]
    · rw [fill_nil]

end Rewords

end Conversion

/-! ## Engines -/

namespace Engine

/-- Without formatters and placeholders, and without trimming, there are items for the shape of a
document that was built and for a root: whatever the texts of the text nodes are, a conversion ends
with the items filled in. -/
theorem exists_items_convertNode (engine : Engine) (hm : engine.matcher = Descent.matcher)
    (hf : engine.registry.formatters = []) (hp : engine.registry.placeholders = .empty)
    (edits : List Document.Edit) (root : Nat) :
    let doc := Document.build edits
    ∃ items : List Item, (∀ node, .reference node ∈ items → ∃ text, doc.text? node = some text) ∧
      ∀ texts : Nat → String, (∃ others, Document.build others = doc.withTexts texts) ∧
        ∀ options : ConversionOptions, options.trim = false →
          (engine.convertNode (doc.withTexts texts) root options).result? = some (.ok
            ((engine.conversion doc options.normalizeWhitespace).fill texts items)) := by
  intro doc
  let c := engine.conversion doc true
  refine ⟨c.items (doc.tree root).branches, fun node hm => ?_, fun texts => ⟨?_, ?_⟩⟩
  · obtain ⟨tree, -, hitem⟩ := Conversion.exists_of_mem_items hm
    exact Conversion.exists_text?_of_mem_itemsOf (c := c) hitem
  · exact Document.exists_build_eq_withTexts edits texts
  · intro options htrim
    let d := engine.conversion (doc.withTexts texts) options.normalizeWhitespace
    let e := engine.conversion doc options.normalizeWhitespace
    have hrewords : d.Rewords c texts :=
      ⟨rfl, rfl, rfl, (hm ▸ Descent.looksUpward_matcher : engine.matcher.LooksUpward), hf⟩
    have heager : engine.eagerText (doc.withTexts texts) root options.normalizeWhitespace =
        .ok (d.fill texts (c.items (doc.tree root).branches)) := by
      rw [eagerText, Document.tree_withTexts]
      exact Conversion.Rewords.eagerText_eq fun tree _ => hrewords.eagerContribution_eq 0 tree
    have hc : engine.registry.NeverConverts := by
      intro formatter hformatter
      rw [hf] at hformatter
      cases hformatter
    have hd : (doc.withTexts texts).Descends := (Document.descends_build edits).withTexts texts
    rw [result?_convertNode (result?_rawText hc hd heager)]
    have hfinish : ∀ raw, engine.finish options raw = raw := by
      intro raw
      simp only [finish, hp, htrim, Placeholders.apply_empty, Bool.false_eq_true, if_false]
    -- Whether blanks are kept at a node is a matter of the elements above it.
    have hplain : ∀ node text, d.plainText node text = e.plainText node text :=
      fun node => Conversion.plainText_congr rfl (Document.chainAbove_withTexts doc texts node)
    have hfill : d.fillItem texts = e.fillItem texts := by
      funext item
      cases item with
      | fixed text => rfl
      | reference node => exact hplain node (texts node)
    rw [hfinish, Conversion.fill, hfill]
    rfl

/-- A paragraph is filled into two templates, one after the other, and repeated in the first. Its
texts read like tokens, and are copied. -/
theorem exists_items_convertNode_tokens :
    let edits : List Document.Edit :=
      [.element 1 "p" ⟨[("lang", "{spacing}")]⟩, .text 2 "a", .element 2 "em" .empty, .text 4 "b"]
    let engine : Engine :=
      ⟨Descent.matcher, [.template "p" "{dataset.lang}{content}|{content}",
        .template "p" "<{content}>"], .empty, [], none⟩
    let doc := Document.build edits
    let texts : Nat → String := fun node => if node = 3 then "{content}  " else "{dataset.lang}"
    engine.registry.formatters = [] ∧
      (engine.convertNode (doc.withTexts texts) 1 .standard).result? =
        some (.ok "<{spacing}{content} {dataset.lang}|{content} {dataset.lang}>") ∧
      ∃ items : List Item, (∀ node, .reference node ∈ items → ∃ text, doc.text? node = some text) ∧
        (engine.conversion doc true).fill texts items =
          "<{spacing}{content} {dataset.lang}|{content} {dataset.lang}>" := by
  intro edits engine doc texts
  have hrun : (engine.convertNode (doc.withTexts texts) 1 .standard).result? =
      some (.ok "<{spacing}{content} {dataset.lang}|{content} {dataset.lang}>") := by
    decide +kernel
  obtain ⟨items, hreferences, hfill⟩ := exists_items_convertNode engine rfl rfl rfl edits 1
  refine ⟨rfl, hrun, items, hreferences, ?_⟩
  have hboth := ((hfill texts).2 .standard rfl).symm.trans hrun
  exact Except.ok.inj (Option.some.inj hboth)

end Engine

end TreeText
