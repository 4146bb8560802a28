/-
# Normalizing changes blanks only

A conversion may collapse the blanks of the texts that it meets, or keep all texts as they are.
Without formatters, it makes no other difference: the two conversions end in the same way, and their
texts have one collapsed form. On the way there runs of blanks may reach from one text into the
next, into a template or into a text that keeps its blanks, so that they are longer in one of the
two conversions than in the other; what is carried along is that the collapsed forms are the same.

* `Run.collapsed` is how a run ends up to blanks, and `Run.collapsed_bind_congr` the law for one run
  after another.
* `Conversion.collapsed_textOf` compares the texts of a node, and
  `Engine.collapse_convertNode_normalized` whole conversions.
-/
import TreeText.Proofs.Conversion.Eager
import TreeText.Proofs.Text.Collapse

namespace TreeText

/-! ## Runs -/

namespace Run

/-- How a run ends, with the text collapsed that it ends with. -/
def collapsed (run : Run String) : Option (Except ConversionError String) :=
  run.result?.map (Except.map Text.collapse)

/-- A text that is there at once is collapsed. -/
theorem collapsed_pure (text : String) :
    (pure text : Run String).collapsed = some (.ok (Text.collapse text)) := rfl

/-- One run after another ends in the same way up to blanks, if the first ones do and the second
ones go on alike with texts that are the same up to blanks. -/
theorem collapsed_bind_congr {run₁ run₂ : Run String} {next₁ next₂ : String → Run String}
    (h : run₁.collapsed = run₂.collapsed)
    (hnext : ∀ text₁ text₂, Text.collapse text₁ = Text.collapse text₂ →
      (next₁ text₁).collapsed = (next₂ text₂).collapsed) :
    (run₁ >>= next₁).collapsed = (run₂ >>= next₂).collapsed := by
  unfold collapsed at h ⊢
  rw [result?_bind, result?_bind]
  generalize run₁.result? = end₁ at h ⊢
  generalize run₂.result? = end₂ at h ⊢
  rcases end₁ with _ | (error₁ | text₁) <;> rcases end₂ with _ | (error₂ | text₂)
  · rfl
  · cases h
  · cases h
  · cases h
  · cases h
    rfl
  · cases h
  · cases h
  · cases h
  · exact hnext text₁ text₂ (Except.ok.inj (Option.some.inj h))

/-- Joined texts end in the same way up to blanks if each of them does. -/
theorem collapsed_gather {ι : Type} {items : List ι} {contribute₁ contribute₂ : ι → Run String}
    (h : ∀ item ∈ items, (contribute₁ item).collapsed = (contribute₂ item).collapsed) :
    (gather (items.map contribute₁)).collapsed = (gather (items.map contribute₂)).collapsed := by
  induction items with
  | nil => rfl
  | cons item items ih =>
    have hrest := ih fun item hm => h item (List.mem_cons_of_mem _ hm)
    refine collapsed_bind_congr (h item List.mem_cons_self) fun first₁ first₂ hfirst => ?_
    refine collapsed_bind_congr hrest fun rest₁ rest₂ hlater => ?_
    rw [collapsed_pure, collapsed_pure, Text.collapse_append_congr hfirst hlater]

end Run

/-! ## Templates -/

/-- A template makes texts that are the same up to blanks of contents that are. -/
theorem Template.collapse_render (template : Template) {content₁ content₂ : String}
    (h : Text.collapse content₁ = Text.collapse content₂) (dataset : Dataset) :
    Text.collapse (template.render content₁ dataset) =
      Text.collapse (template.render content₂ dataset) := by
  unfold render
  induction template.segments with
  | nil => rfl
  | cons segment segments ih =>
    have hsegment : Text.collapse (segment.render content₁ dataset) =
        Text.collapse (segment.render content₂ dataset) := by
      cases segment with
      | content => exact h
      | _ => rfl
    rw [List.map_cons, List.map_cons, String.join_cons, String.join_cons]
    exact Text.collapse_append_congr hsegment ih

namespace Conversion

/-! ## One element -/

/-- The conversion that keeps the blanks of all texts. -/
def verbatim (c : Conversion) : Conversion :=
  { c with normalize := false }

variable {c : Conversion} {textOf₁ textOf₂ : Nat → Run String} {visit : Visit}

/-- A text contributes the same up to blanks, whether they are kept or not. -/
theorem collapse_plainText (c : Conversion) (node : Nat) (text : String) :
    Text.collapse (c.plainText node text) = Text.collapse (c.verbatim.plainText node text) := by
  show Text.collapse (c.plainText node text) = Text.collapse text
  unfold plainText
  by_cases h : (c.normalize && !c.isPreformatted node) = true
  · rw [if_pos h, Text.collapse_collapse]
  · rw [if_neg h]

/-- A rule with a template makes the same up to blanks of texts that are the same up to blanks. -/
theorem collapsed_applyRule (ht : (textOf₁ visit.node).collapsed = (textOf₂ visit.node).collapsed)
    {rule : Rule} (hr : rule.formatter? = none) {given₁ given₂ : Option String}
    (hg : given₁.map Text.collapse = given₂.map Text.collapse) :
    (c.applyRule textOf₁ visit given₁ rule).collapsed =
      (c.verbatim.applyRule textOf₂ visit given₂ rule).collapsed := by
  obtain ⟨selector, template | formatter⟩ := rule
  · have hrender : ∀ content₁ content₂, Text.collapse content₁ = Text.collapse content₂ →
        (pure (template.render content₁ visit.dataset) : Run String).collapsed =
          (pure (template.render content₂ visit.dataset) : Run String).collapsed := by
      intro content₁ content₂ hsame
      rw [Run.collapsed_pure, Run.collapsed_pure, template.collapse_render hsame]
    cases given₁ with
    | none =>
      cases given₂ with
      | none => exact Run.collapsed_bind_congr ht hrender
      | some text₂ => cases hg
    | some text₁ =>
      cases given₂ with
      | none => cases hg
      | some text₂ =>
        have hgiven : (pure text₁ : Run String).collapsed = (pure text₂ : Run String).collapsed :=
          congrArg (Option.map Except.ok) hg
        exact Run.collapsed_bind_congr hgiven hrender
  · cases hr

/-- Further rules make the same up to blanks of texts that are the same up to blanks. -/
theorem collapsed_applyRules (ht : (textOf₁ visit.node).collapsed = (textOf₂ visit.node).collapsed)
    {rules : List Rule} (hr : ∀ rule ∈ rules, rule.formatter? = none) {text₁ text₂ : String}
    (h : Text.collapse text₁ = Text.collapse text₂) :
    (c.applyRules textOf₁ visit rules text₁).collapsed =
      (c.verbatim.applyRules textOf₂ visit rules text₂).collapsed := by
  induction rules generalizing text₁ text₂ with
  | nil =>
    show some (Except.ok (Text.collapse text₁)) = some (Except.ok (Text.collapse text₂))
    rw [h]
  | cons rule rules ih =>
    have hgiven : (some text₁).map Text.collapse = (some text₂).map Text.collapse :=
      congrArg some h
    have hfirst := collapsed_applyRule (c := c) ht (hr rule List.mem_cons_self) hgiven
    refine Run.collapsed_bind_congr hfirst fun changed₁ changed₂ hchanged => ?_
    exact ih (fun rule hm => hr rule (List.mem_cons_of_mem _ hm)) hchanged

/-- Without formatters, the same becomes of an element up to blanks. -/
theorem collapsed_resolve (hc : c.registry.formatters = [])
    (ht : (textOf₁ visit.node).collapsed = (textOf₂ visit.node).collapsed) :
    (c.resolve textOf₁ visit).collapsed = (c.verbatim.resolve textOf₂ visit).collapsed := by
  have hnone : ∀ rule ∈ c.rulesFor visit.node, rule.formatter? = none :=
    fun rule hm => Registry.formatter?_eq_none hc (List.mem_filter.1 hm).1
  have hrules : c.verbatim.rulesFor visit.node = c.rulesFor visit.node := rfl
  unfold resolve
  rw [hrules]
  cases hlist : c.rulesFor visit.node with
  | nil =>
    have hfallback : c.registry.fallback = none := Registry.fallback_eq_none hc
    have hkept : c.verbatim.registry.fallback = none := hfallback
    simp only [applyFallback, hfallback, hkept]
    exact ht
  | cons first rules =>
    rw [hlist] at hnone
    have hnothing : (none : Option String).map Text.collapse = Option.map Text.collapse none := rfl
    have hfirst := collapsed_applyRule (c := c) ht (hnone first List.mem_cons_self) hnothing
    refine Run.collapsed_bind_congr hfirst fun text₁ text₂ htext => ?_
    exact collapsed_applyRules ht (fun rule hm => hnone rule (List.mem_cons_of_mem _ hm)) htext

/-! ## Whole trees -/

/-- Without formatters, a child contributes the same up to blanks. -/
theorem collapsed_contribution (hc : c.registry.formatters = [])
    {textAt₁ textAt₂ : Nat → Nat → Run String} {depth node : Nat}
    (ht : (textAt₁ (depth + 1) node).collapsed = (textAt₂ (depth + 1) node).collapsed) :
    (c.contribution textAt₁ depth node).collapsed =
      (c.verbatim.contribution textAt₂ depth node).collapsed := by
  have hcontent : c.verbatim.doc.content? node = c.doc.content? node := rfl
  have hignored : c.verbatim.isIgnored node = c.isIgnored node := rfl
  unfold contribution
  rw [hcontent, hignored]
  rcases c.doc.content? node with _ | ⟨tag, dataset⟩ | text | _ <;> simp only
  · by_cases hi : c.isIgnored node
    · rw [if_pos hi, if_pos hi]
    · rw [if_neg hi, if_neg hi]
      exact collapsed_resolve hc ht
  · rw [Run.collapsed_pure, Run.collapsed_pure, collapse_plainText]

/-- Without formatters, the text of a node is the same up to blanks whether those of texts are kept
or not, within any bound. -/
theorem collapsed_textOf (hc : c.registry.formatters = []) (bound depth node : Nat) :
    (c.textOf bound depth node).collapsed = (c.verbatim.textOf bound depth node).collapsed := by
  induction bound generalizing depth node with
  | zero => rfl
  | succ bound ih =>
    have hchildren : c.verbatim.doc.children node = c.doc.children node := rfl
    rw [textOf, textOf, hchildren]
    refine Run.collapsed_gather fun child _ => ?_
    exact collapsed_contribution hc (ih (depth + 1) child)

end Conversion

/-! ## Engines -/

namespace Engine

/-- Without placeholders, what is done at the end leaves texts the same up to blanks. -/
theorem collapse_finish {engine : Engine} (hp : engine.registry.placeholders = .empty)
    {options₁ options₂ : ConversionOptions} (htrim : options₁.trim = options₂.trim)
    {raw₁ raw₂ : String} (h : Text.collapse raw₁ = Text.collapse raw₂) :
    Text.collapse (engine.finish options₁ raw₁) = Text.collapse (engine.finish options₂ raw₂) := by
  unfold finish
  rw [hp, htrim]
  simp only [Placeholders.apply_empty]
  by_cases ht : options₂.trim = true
  · rw [if_pos ht, if_pos ht, Text.collapse_trim, Text.collapse_trim, h]
  · rw [if_neg ht, if_neg ht, h]

/-- Without formatters and placeholders, a conversion that collapses the blanks of its texts and one
that keeps them end in the same way up to blanks, on every document and below every root, trimmed or
not. Where numbers grow downward, as in every document that was built, both end with a text. -/
theorem collapse_convertNode_normalized (engine : Engine) (hf : engine.registry.formatters = [])
    (hp : engine.registry.placeholders = .empty) (doc : Document) (root : Nat)
    (wholeDocument trim : Bool) :
    let normalized := (engine.convertNode doc root ⟨wholeDocument, true, trim⟩).result?
    let kept := (engine.convertNode doc root ⟨wholeDocument, false, trim⟩).result?
    normalized.map (Except.map Text.collapse) = kept.map (Except.map Text.collapse) ∧
      (doc.Descends → ∃ text other, normalized = some (.ok text) ∧ kept = some (.ok other) ∧
        Text.collapse text = Text.collapse other) := by
  intro normalized kept
  have hraw : (engine.rawText doc root true).collapsed = (engine.rawText doc root false).collapsed :=
    Conversion.collapsed_textOf (c := engine.conversion doc true) hf (nesting doc) 0 root
  have hends : normalized.map (Except.map Text.collapse) = kept.map (Except.map Text.collapse) := by
    refine Run.collapsed_bind_congr hraw fun raw₁ raw₂ hsame => ?_
    have hfinish : Text.collapse (engine.finish ⟨wholeDocument, true, trim⟩ raw₁) =
        Text.collapse (engine.finish ⟨wholeDocument, false, trim⟩ raw₂) :=
      collapse_finish hp rfl hsame
    rw [Run.collapsed_pure, Run.collapsed_pure, hfinish]
  refine ⟨hends, fun hd => ?_⟩
  have htext : ∀ normalize, ∃ text,
      (engine.convertNode doc root ⟨wholeDocument, normalize, trim⟩).result? = some (.ok text) := by
    intro normalize
    have hnever := Registry.neverConverts_of_formatters_eq_nil hf
    obtain ⟨raw, heager⟩ : ∃ raw, engine.eagerText doc root normalize = .ok raw :=
      Conversion.exists_eagerText fun tree _ => Conversion.exists_eagerContribution hf 0 tree
    exact ⟨_, result?_convertNode (result?_rawText hnever hd heager)⟩
  obtain ⟨text, htrue⟩ := htext true
  obtain ⟨other, hfalse⟩ := htext false
  refine ⟨text, other, htrue, hfalse, ?_⟩
  rw [show normalized = some (.ok text) from htrue, show kept = some (.ok other) from hfalse] at hends
  exact Except.ok.inj (Option.some.inj hends)

/-- Runs of blanks reach from a text into the template of an emphasis, and out of a text that keeps
its blanks; the template of the paragraph repeats its content, and outer blanks are cut off. -/
theorem collapse_convertNode_normalized_paragraph :
    let edits : List Document.Edit :=
      [.element 1 "p" .empty, .text 2 " \n a \t", .element 2 "em" .empty, .text 4 " b  c",
        .element 2 "pre" .empty, .text 6 "  d\n\n", .text 1 "  e "]
    let engine : Engine :=
      ⟨.byTag, [.template "em" "  {content}\n", .template "p" "{content}|{content}"], .empty, [],
        none⟩
    let doc := Document.build edits
    engine.registry.formatters = [] ∧ engine.registry.placeholders = .empty ∧ doc.Descends ∧
      (engine.convertNode doc 1 ⟨false, true, true⟩).result? =
        some (.ok "a    b c\n  d\n\n| a    b c\n  d\n\n e") ∧
      (engine.convertNode doc 1 ⟨false, false, true⟩).result? =
        some (.ok "a \t   b  c\n  d\n\n| \n a \t   b  c\n  d\n\n  e") ∧
      ∃ text other,
        (engine.convertNode doc 1 ⟨false, true, true⟩).result? = some (.ok text) ∧
        (engine.convertNode doc 1 ⟨false, false, true⟩).result? = some (.ok other) ∧
        Text.collapse text = Text.collapse other := by
  intro edits engine doc
  have hd : doc.Descends := Document.descends_build edits
  have hsame := (collapse_convertNode_normalized engine rfl rfl doc 1 false true).2 hd
  exact ⟨rfl, rfl, hd, by decide +kernel, by decide +kernel, hsame⟩

end Engine

end TreeText
