/-
# No text is lost

Let every rule fill in a template in which its content stands, and let there be no fallback. Then
whatever the rules add, repeat or enclose, the texts that can be seen from the root come out in
document order, each as it is or with its blanks collapsed; and without rules nothing else comes
out. What can be seen is said without regard to the conversion: nothing but elements that are not
ignored stands between the root and the text.

* `Conversion.visibleText` is the text that can be seen below a root, and
  `Conversion.isVisibleFrom_of_parent?` says how a node hides what it lists.
* `Conversion.Keeps` says that a text is kept in another one. A node keeps what can be seen of it by
  `Conversion.exists_eagerContribution_keeps`, and a conversion by
  `Engine.convertNode_keeps_visibleText`.
-/
import TreeText.Proofs.Conversion.Eager
import TreeText.Proofs.Document.Kin
import TreeText.Proofs.Document.Listing

namespace TreeText

/-! ## What can be seen from a root -/

namespace Conversion

/-- Whether a node can be seen from a root: every node between the two is an element that is not
ignored. -/
def isVisibleFrom (c : Conversion) (root node : Nat) : Bool :=
  ((c.doc.ancestors node).takeWhile (· != root)).all fun between =>
    c.doc.isElement between && !c.isIgnored between

/-- The texts among nodes that can be seen from a root, joined. -/
def visibleTextOf (c : Conversion) (root : Nat) (nodes : List Nat) : String :=
  String.join ((nodes.filter (c.isVisibleFrom root)).filterMap fun node =>
    (c.doc.text? node).map (c.plainText node))

/-- The text that can be seen below a root, in document order. -/
def visibleText (c : Conversion) (root : Nat) : String :=
  c.visibleTextOf root (c.doc.nodesBelow root)

variable {c : Conversion} {root node : Nat}

/-- A child can be seen if its parent is the root, or an element that is not ignored and can be seen
itself. -/
theorem isVisibleFrom_of_parent? {child : Nat} (h : c.doc.parent? child = some node) :
    c.isVisibleFrom root child =
      (node == root ||
        (c.doc.isElement node && !c.isIgnored node && c.isVisibleFrom root node)) := by
  unfold isVisibleFrom
  rw [Document.ancestors_of_parent? h, List.takeWhile_cons]
  by_cases hroot : node = root
  · simp [hroot]
  · have hne : (node != root) = true := bne_iff_ne.2 hroot
    have hbeq : (node == root) = false := beq_eq_false_iff_ne.2 hroot
    rw [if_pos hne, List.all_cons, hbeq, Bool.false_or]

/-- Texts in front can be seen in front. -/
theorem visibleTextOf_append (front back : List Nat) :
    c.visibleTextOf root (front ++ back) =
      c.visibleTextOf root front ++ c.visibleTextOf root back := by
  unfold visibleTextOf
  rw [List.filter_append, List.filterMap_append, String.join_append]

/-- A node that cannot be seen may be left out in front. -/
theorem visibleTextOf_cons_of_hidden (h : c.isVisibleFrom root node = false) (nodes : List Nat) :
    c.visibleTextOf root (node :: nodes) = c.visibleTextOf root nodes := by
  unfold visibleTextOf
  rw [List.filter_cons, h]
  rfl

/-- A node that is no text may be left out in front. -/
theorem visibleTextOf_cons_of_no_text (h : c.doc.text? node = none) (nodes : List Nat) :
    c.visibleTextOf root (node :: nodes) = c.visibleTextOf root nodes := by
  unfold visibleTextOf
  rw [List.filter_cons]
  by_cases hv : c.isVisibleFrom root node = true
  · rw [if_pos hv, List.filterMap_cons, h]
    rfl
  · rw [if_neg hv]

/-- A text that can be seen stands in front of the others. -/
theorem visibleTextOf_cons_of_text (hv : c.isVisibleFrom root node = true) {text : String}
    (h : c.doc.text? node = some text) (nodes : List Nat) :
    c.visibleTextOf root (node :: nodes) =
      c.plainText node text ++ c.visibleTextOf root nodes := by
  unfold visibleTextOf
  rw [List.filter_cons, if_pos hv, List.filterMap_cons, h, Option.map_some, String.join_cons]

/-- Nothing can be seen below a node that is no element, or ignored, or cannot be seen itself. -/
theorem visibleTextOf_nodesBelow_of_hidden (hl : c.doc.Linked) (hlt : root < node)
    (h : (c.doc.isElement node && !c.isIgnored node && c.isVisibleFrom root node) = false) :
    c.visibleTextOf root (c.doc.nodesBelow node) = "" := by
  induction node using hl.descends.induction with
  | node node ih =>
    rw [Document.nodesBelow_eq hl.descends]
    have hne : (node == root) = false := beq_eq_false_iff_ne.2 (Nat.ne_of_gt hlt)
    have hchild : ∀ child ∈ c.doc.children node,
        c.visibleTextOf root (child :: c.doc.nodesBelow child) = "" := by
      intro child hm
      have hhidden : c.isVisibleFrom root child = false := by
        rw [isVisibleFrom_of_parent? (hl node child hm), hne, h]
        rfl
      rw [visibleTextOf_cons_of_hidden hhidden]
      refine ih child hm (Nat.lt_trans hlt (hl.descends node child hm)) ?_
      rw [hhidden, Bool.and_false]
    generalize c.doc.children node = children at hchild
    induction children with
    | nil => rfl
    | cons child children ihc =>
      rw [List.flatMap_cons, visibleTextOf_append, hchild child List.mem_cons_self,
        ihc fun child hm => hchild child (List.mem_cons_of_mem _ hm)]
      rfl

/-- Nothing can be seen of a node that is no text, and no element or ignored. -/
theorem visibleTextOf_cons_of_skipped (hl : c.doc.Linked) (hlt : root < node)
    (htext : c.doc.text? node = none)
    (hskipped : (c.doc.isElement node && !c.isIgnored node) = false) :
    c.visibleTextOf root (node :: c.doc.nodesBelow node) = "" := by
  rw [visibleTextOf_cons_of_no_text htext]
  refine visibleTextOf_nodesBelow_of_hidden hl hlt ?_
  rw [hskipped, Bool.false_and]

/-! ## Texts that are kept -/

/-- A text is kept in another one: its characters are found there in their order; and if there are
no rules, the other one is the text itself. -/
structure Keeps (c : Conversion) (text other : String) : Prop where
  sublist : text.toList.Sublist other.toList
  eq_of_no_rules : c.registry.rules = [] → other = text

theorem keeps_refl (text : String) : c.Keeps text text :=
  ⟨List.Sublist.refl _, fun _ => rfl⟩

theorem Keeps.trans {text between other : String} (h₁ : c.Keeps text between)
    (h₂ : c.Keeps between other) : c.Keeps text other where
  sublist := h₁.sublist.trans h₂.sublist
  eq_of_no_rules h := by rw [h₂.eq_of_no_rules h, h₁.eq_of_no_rules h]

theorem Keeps.append {text₁ text₂ other₁ other₂ : String} (h₁ : c.Keeps text₁ other₁)
    (h₂ : c.Keeps text₂ other₂) : c.Keeps (text₁ ++ text₂) (other₁ ++ other₂) where
  sublist := by
    rw [String.toList_append, String.toList_append]
    exact h₁.sublist.append h₂.sublist
  eq_of_no_rules h := by rw [h₁.eq_of_no_rules h, h₂.eq_of_no_rules h]

end Conversion

/-! ## Rules that keep their content -/

/-- Whether a rule fills in a template in which its content stands. -/
def Rule.keepsContent (rule : Rule) : Bool :=
  match rule.transform with
  | .template template => template.segments.contains .content
  | .format _ => false

/-- Where the content stands in a template, it stands in what is filled in. -/
theorem Template.sublist_render {template : Template} (h : .content ∈ template.segments)
    (content : String) (dataset : Dataset) :
    content.toList.Sublist (template.render content dataset).toList := by
  rw [render, String.toList_join, List.flatMap_map, List.flatMap_def]
  refine List.sublist_flatten_of_mem (List.mem_map.2 ⟨.content, h, rfl⟩)

/-- A rule that keeps its content calls no formatter. -/
theorem Rule.formatter?_of_keepsContent {rule : Rule} (h : rule.keepsContent = true) :
    rule.formatter? = none := by
  obtain ⟨selector, template | formatter⟩ := rule
  · rfl
  · cases h

/-- Rules that keep their content make of every text one in which it is found. -/
theorem Rule.exists_foldlM_rewrite_sublist (doc : Document) (visit : Visit) {rules : List Rule}
    (h : ∀ rule ∈ rules, rule.keepsContent = true) (text : String) :
    ∃ changed, rules.foldlM (Rule.rewrite doc visit) text = .ok changed ∧
      text.toList.Sublist changed.toList := by
  induction rules generalizing text with
  | nil => exact ⟨text, rfl, List.Sublist.refl _⟩
  | cons rule rules ih =>
    have hfirst := h rule List.mem_cons_self
    obtain ⟨selector, template | formatter⟩ := rule
    · have hcontent : .content ∈ template.segments := List.contains_iff_mem.1 hfirst
      obtain ⟨changed, hchanged, hsublist⟩ :=
        ih (fun rule hm => h rule (List.mem_cons_of_mem _ hm)) (template.render text visit.dataset)
      have hrender := template.sublist_render hcontent text visit.dataset
      exact ⟨changed, hchanged, hrender.trans hsublist⟩
    · cases hfirst

namespace Conversion

variable {c : Conversion} {root node : Nat}

/-- An element keeps its text if all rules do, and there is no fallback. -/
theorem exists_eagerResolve_keeps (hr : ∀ rule ∈ c.registry.rules, rule.keepsContent = true)
    (hf : c.registry.fallback = none) (visit : Visit) (text : String) :
    ∃ changed, c.eagerResolve visit text = .ok changed ∧ c.Keeps text changed := by
  unfold eagerResolve
  cases hrules : c.rulesFor visit.node with
  | nil =>
    rw [hf]
    exact ⟨text, rfl, keeps_refl text⟩
  | cons first rules =>
    have hmember : ∀ rule ∈ first :: rules, rule ∈ c.registry.rules :=
      fun rule hm => (List.mem_filter.1 (hrules ▸ hm : rule ∈ c.rulesFor visit.node)).1
    obtain ⟨changed, hchanged, hsublist⟩ := Rule.exists_foldlM_rewrite_sublist c.doc visit
      (fun rule hm => hr rule (hmember rule hm)) text
    refine ⟨changed, hchanged, hsublist, fun hnone => ?_⟩
    -- There is a rule for the element, so it cannot be that there are none.
    have hfirst := hmember first List.mem_cons_self
    rw [hnone] at hfirst
    cases hfirst

/-! ## Trees -/

/-- Trees keep what can be seen of them if each of them does. -/
theorem exists_eagerText_keeps {depth : Nat} {children : List Nat}
    (h : ∀ child ∈ children, ∃ text, c.eagerContribution depth (c.doc.tree child) = .ok text ∧
      c.Keeps (c.visibleTextOf root (child :: c.doc.nodesBelow child)) text) :
    ∃ text, c.eagerText depth (children.map c.doc.tree) = .ok text ∧
      c.Keeps (c.visibleTextOf root (children.flatMap fun child => child :: c.doc.nodesBelow child))
        text := by
  induction children with
  | nil => exact ⟨"", rfl, keeps_refl ""⟩
  | cons child children ih =>
    obtain ⟨first, hfirst, hkeeps⟩ := h child List.mem_cons_self
    obtain ⟨rest, hrest, hothers⟩ := ih fun child hm => h child (List.mem_cons_of_mem _ hm)
    refine ⟨first ++ rest, ?_, ?_⟩
    · rw [List.map_cons, eagerText, hfirst, hrest]
      rfl
    · rw [List.flatMap_cons, visibleTextOf_append]
      exact hkeeps.append hothers

/-- A node below the root that can be seen keeps what can be seen of it and below it. -/
theorem exists_eagerContribution_keeps (hl : c.doc.Linked)
    (hr : ∀ rule ∈ c.registry.rules, rule.keepsContent = true)
    (hf : c.registry.fallback = none) (hlt : root < node)
    (hv : c.isVisibleFrom root node = true) (depth : Nat) :
    ∃ text, c.eagerContribution depth (c.doc.tree node) = .ok text ∧
      c.Keeps (c.visibleTextOf root (node :: c.doc.nodesBelow node)) text := by
  induction node using hl.descends.induction generalizing depth with
  | node node ih =>
    rw [Document.tree_eq hl.descends, eagerContribution]
    rcases hcontent : c.doc.content? node with _ | ⟨tag, dataset⟩ | text | _ <;> simp only
    · have hnone : c.doc.text? node = none := by simp [Document.text?, hcontent]
      have hskipped : (c.doc.isElement node && !c.isIgnored node) = false := by
        simp [Document.isElement, Document.tag?, hcontent]
      refine ⟨"", rfl, ?_⟩
      rw [visibleTextOf_cons_of_skipped hl hlt hnone hskipped]
      exact keeps_refl ""
    · have hnone : c.doc.text? node = none := by simp [Document.text?, hcontent]
      have helement : c.doc.isElement node = true := by
        simp [Document.isElement, Document.tag?, hcontent]
      by_cases hi : c.isIgnored node = true
      · have hskipped : (c.doc.isElement node && !c.isIgnored node) = false := by
          rw [hi, Bool.not_true, Bool.and_false]
        refine ⟨"", by rw [if_pos hi], ?_⟩
        rw [visibleTextOf_cons_of_skipped hl hlt hnone hskipped]
        exact keeps_refl ""
      · have hopen : c.isIgnored node = false := Bool.eq_false_iff.2 hi
        -- Its children can be seen, because it can be seen itself.
        have hchildren : ∀ child ∈ c.doc.children node, ∃ text,
            c.eagerContribution (depth + 1) (c.doc.tree child) = .ok text ∧
              c.Keeps (c.visibleTextOf root (child :: c.doc.nodesBelow child)) text := by
          intro child hm
          refine ih child hm (Nat.lt_trans hlt (hl.descends node child hm)) ?_ (depth + 1)
          rw [isVisibleFrom_of_parent? (hl node child hm), helement, hopen, hv]
          exact Bool.or_true _
        obtain ⟨body, hbody, hkeeps⟩ := exists_eagerText_keeps hchildren
        obtain ⟨changed, hchanged, hresolve⟩ :=
          exists_eagerResolve_keeps hr hf ⟨node, tag, dataset, depth + 1⟩ body
        refine ⟨changed, ?_, ?_⟩
        · rw [if_neg hi, hbody]
          exact hchanged
        · rw [visibleTextOf_cons_of_no_text hnone, Document.nodesBelow_eq hl.descends]
          exact hkeeps.trans hresolve
    · have htext : c.doc.text? node = some text := by simp [Document.text?, hcontent]
      have hbelow : c.visibleTextOf root (c.doc.nodesBelow node) = "" := by
        refine visibleTextOf_nodesBelow_of_hidden hl hlt ?_
        simp [Document.isElement, Document.tag?, hcontent]
      refine ⟨c.plainText node text, rfl, ?_⟩
      rw [visibleTextOf_cons_of_text hv htext, hbelow, String.append_empty]
      exact keeps_refl _
    · have hnone : c.doc.text? node = none := by simp [Document.text?, hcontent]
      have hskipped : (c.doc.isElement node && !c.isIgnored node) = false := by
        simp [Document.isElement, Document.tag?, hcontent]
      refine ⟨"", rfl, ?_⟩
      rw [visibleTextOf_cons_of_skipped hl hlt hnone hskipped]
      exact keeps_refl ""

end Conversion

/-! ## Engines -/

namespace Engine

/-- Let every rule fill in a template in which its content stands, and let there be no fallback, no
placeholders and no trimming. Then a conversion of a document that was built ends with a text, and
what can be seen below the root is found in it, in document order; without rules it is the text. -/
theorem convertNode_keeps_visibleText (engine : Engine)
    (hr : ∀ rule ∈ engine.registry.rules, rule.keepsContent = true)
    (hf : engine.registry.fallback = none) (hp : engine.registry.placeholders = .empty)
    (edits : List Document.Edit) (root : Nat) (options : ConversionOptions)
    (htrim : options.trim = false) :
    let doc := Document.build edits
    let c := engine.conversion doc options.normalizeWhitespace
    ∃ text, (engine.convertNode doc root options).result? = some (.ok text) ∧
      (c.visibleText root).toList.Sublist text.toList ∧
      (engine.registry.rules = [] → text = c.visibleText root) := by
  intro doc c
  have hl : doc.Linked := Document.linked_build edits
  have hchildren : ∀ child ∈ doc.children root, ∃ text,
      c.eagerContribution 0 (doc.tree child) = .ok text ∧
        c.Keeps (c.visibleTextOf root (child :: doc.nodesBelow child)) text := by
    intro child hm
    refine Conversion.exists_eagerContribution_keeps (c := c) hl hr hf
      (hl.descends root child hm) ?_ 0
    rw [Conversion.isVisibleFrom_of_parent? (c := c) (hl root child hm), beq_self_eq_true,
      Bool.true_or]
  obtain ⟨text, htext, hkeeps⟩ := Conversion.exists_eagerText_keeps (c := c) hchildren
  have heager : engine.eagerText doc root options.normalizeWhitespace = .ok text := by
    rw [eagerText, Document.tree_eq hl.descends]
    exact htext
  have hvisible : c.visibleText root = c.visibleTextOf root
      ((doc.children root).flatMap fun child => child :: doc.nodesBelow child) :=
    congrArg (c.visibleTextOf root) (Document.nodesBelow_eq hl.descends root)
  have hfinish : engine.finish options text = text := by
    simp only [finish, hp, htrim, Placeholders.apply_empty, Bool.false_eq_true, if_false]
  have hnever : engine.registry.NeverConverts := by
    intro formatter hm
    rcases List.mem_append.1 hm with hm | hm
    · obtain ⟨rule, hrule, hformatter⟩ := List.mem_filterMap.1 hm
      rw [Rule.formatter?_of_keepsContent (hr rule hrule)] at hformatter
      cases hformatter
    · rw [hf] at hm
      cases hm
  refine ⟨text, ?_, ?_, ?_⟩
  · rw [result?_convertNode (result?_rawText hnever hl.descends heager), hfinish]
  · rw [hvisible]
    exact hkeeps.sublist
  · rw [hvisible]
    exact hkeeps.eq_of_no_rules

/-- The quotation has texts in front of its emphasis and behind it, and is repeated. The script
cannot be seen, nor what was put below a comment or a text. The numbers are not in document order.
Without rules the text that can be seen is all that comes out. -/
theorem convertNode_keeps_visibleText_quotation :
    let edits : List Document.Edit :=
      [.element 1 "q" .empty, .element 1 "pre" .empty, .text 2 "a  b ", .element 2 "em" .empty,
        .text 3 " c  d", .text 5 "e", .text 2 "f", .element 2 "script" .empty, .text 9 "g",
        .other 2, .text 11 "h", .text 4 "i"]
    let rules : List Rule :=
      [.template "q" "<{content}>", .template "em" "*{content}*",
        .template "q" "{content}{content}"]
    let engine : Engine := ⟨.byTag, ⟨rules, .empty, ["script"], none⟩⟩
    let plain : Engine := ⟨.byTag, ⟨[], .empty, ["script"], none⟩⟩
    let doc := Document.build edits
    (∀ rule ∈ rules, rule.keepsContent = true) ∧
      (engine.conversion doc true).visibleText 1 = "a b ef c  d" ∧
      (engine.convertNode doc 1 .standard).result? =
        some (.ok "<a b *e*f><a b *e*f> c  d") ∧
      (∃ text, (engine.convertNode doc 1 .standard).result? = some (.ok text) ∧
        ((engine.conversion doc true).visibleText 1).toList.Sublist text.toList) ∧
      (plain.convertNode doc 1 .standard).result? =
        some (.ok ((plain.conversion doc true).visibleText 1)) := by
  intro edits rules engine plain doc
  have hrules : ∀ rule ∈ rules, rule.keepsContent = true := by decide +kernel
  have hvisible : (engine.conversion doc true).visibleText 1 = "a b ef c  d" := by decide +kernel
  have htext : (engine.convertNode doc 1 .standard).result? =
      some (.ok "<a b *e*f><a b *e*f> c  d") := by decide +kernel
  obtain ⟨text, hruled, hsublist, -⟩ :=
    convertNode_keeps_visibleText engine hrules rfl rfl edits 1 .standard rfl
  obtain ⟨bare, hbare, -, heq⟩ :=
    convertNode_keeps_visibleText plain (List.forall_mem_nil _) rfl rfl edits 1 .standard rfl
  refine ⟨hrules, hvisible, htext, ⟨text, hruled, hsublist⟩, ?_⟩
  rw [hbare, heq rfl]
  rfl

end Engine

end TreeText
