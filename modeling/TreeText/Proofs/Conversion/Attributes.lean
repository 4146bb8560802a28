/-
# Attributes that are not named

A conversion by templates looks at attributes in two places: a template takes values for its tokens,
and a selector tests an element and the elements above it. Both ask for keys that are written down
in the registry, and both are given the last attribute of a key. So two documents that are the same
tree, with the same last attribute for each key of the registry at every element, are converted
alike: which rules apply and what is ignored is the same everywhere, and so is every text.

* `Descent.selects_of_mirrors` says that selectors select the same elements.
* `Conversion.Mirrors` says that two conversions work on such documents, and
  `Conversion.Mirrors.textOf_eq` that they are the same run.
-/
import TreeText.Proofs.Conversion.Eager
import TreeText.Proofs.Document.Mirror
import TreeText.Proofs.Registry.Keys

namespace TreeText

/-! ## Selectors -/

namespace Descent

variable {keys : List String} {rename : Nat → Nat} {doc₁ doc₂ : Document}

/-- A compound whose keys are among those on which attributes agree holds on the same elements. -/
theorem Compound.holds_of_mirrors (h : doc₁.Mirrors (Dataset.Agrees keys) rename doc₂)
    {compound : Compound} (hkeys : compound.keys ⊆ keys) (node : Nat) :
    compound.holds doc₂ (rename node) = compound.holds doc₁ node := by
  unfold Compound.holds
  rcases h.content_cases node with ⟨h₁, h₂⟩ | ⟨tag, _, _, h₁, h₂, hdataset⟩ | ⟨text, h₁, h₂⟩ |
    ⟨h₁, h₂⟩ <;> rw [h₁, h₂]
  simp only
  rw [Compound.qualifiers_of_agrees (hdataset.of_subset hkeys)]

/-- An alternative whose keys are among those on which attributes agree selects the same elements. -/
theorem Alternative.selects_of_mirrors (h : doc₁.Mirrors (Dataset.Agrees keys) rename doc₂)
    {alternative : Alternative} (hkeys : ∀ compound ∈ alternative, compound.keys ⊆ keys)
    (node : Nat) : alternative.selects doc₂ (rename node) = alternative.selects doc₁ node := by
  have hholds : ∀ compound ∈ alternative.reverse, ∀ node,
      compound.holds doc₂ (rename node) = compound.holds doc₁ node :=
    fun compound hm => Compound.holds_of_mirrors h (hkeys compound (List.mem_reverse.1 hm))
  have hways : List.Forall₂ (fun node₂ node₁ => node₂ = rename node₁)
      (doc₂.elementAncestors (rename node)) (doc₁.elementAncestors node) := by
    rw [h.elementAncestors_eq, List.forall₂_map_left_iff, List.forall₂_same]
    exact fun _ _ => rfl
  unfold Alternative.selects
  cases hreverse : alternative.reverse with
  | nil => rfl
  | cons last outer =>
    -- The last compound tests the node itself, the others are taken on the way up.
    rw [hreverse] at hholds
    simp only
    rw [hholds last List.mem_cons_self node, climbs_congr_of_forall₂ hways outer]
    rintro compound hm _ node₁ rfl
    exact hholds compound (List.mem_cons_of_mem _ hm) node₁

/-- A selector whose keys are among those on which attributes agree selects the same elements. -/
theorem selects_of_mirrors (h : doc₁.Mirrors (Dataset.Agrees keys) rename doc₂) {selector : String}
    (hkeys : selectorKeys selector ⊆ keys) (node : Nat) :
    matcher.selects doc₂ (rename node) selector = matcher.selects doc₁ node selector := by
  show selects doc₂ (rename node) selector = selects doc₁ node selector
  unfold selects
  unfold selectorKeys at hkeys
  cases hread : read selector with
  | error fault => rfl
  | ok alternatives =>
    rw [hread] at hkeys
    have hcompound : ∀ alternative ∈ alternatives, ∀ compound ∈ alternative,
        compound.keys ⊆ keys := by
      intro alternative ha compound hc key hkey
      exact hkeys (List.mem_flatMap.2 ⟨compound, List.mem_flatten.2 ⟨alternative, ha, hc⟩, hkey⟩)
    simp only
    rw [Bool.eq_iff_iff, List.any_eq_true, List.any_eq_true]
    refine exists_congr fun alternative => and_congr_right fun ha => ?_
    rw [Alternative.selects_of_mirrors h (hcompound alternative ha)]

end Descent

/-! ## Conversions -/

namespace Conversion

/-- Two conversions by the same templates, of documents which are one tree with the same last
attribute for each key of the registry. -/
structure Mirrors (rename : Nat → Nat) (c₁ c₂ : Conversion) : Prop where
  doc_mirrors : c₁.doc.Mirrors (Dataset.Agrees c₁.registry.keys) rename c₂.doc
  matcher_eq₁ : c₁.matcher = Descent.matcher
  matcher_eq₂ : c₂.matcher = Descent.matcher
  registry_eq : c₂.registry = c₁.registry
  normalize_eq : c₂.normalize = c₁.normalize
  noFormatters : c₁.registry.formatters = []

namespace Mirrors

variable {rename : Nat → Nat} {c₁ c₂ : Conversion}

/-- Blanks are kept at the same texts. -/
theorem plainText_eq (h : c₁.Mirrors rename c₂) (node : Nat) (text : String) :
    c₂.plainText (rename node) text = c₁.plainText node text := by
  have hparent : c₂.doc.parentElement? (rename node) =
      (c₁.doc.parentElement? node).map rename := by
    rw [Document.parentElement?, h.doc_mirrors.elementAncestors_eq, List.head?_map]
    rfl
  have htag : (c₂.doc.parentElement? (rename node)).bind c₂.doc.tag? =
      (c₁.doc.parentElement? node).bind c₁.doc.tag? := by
    rw [hparent, Option.bind_map]
    exact congrArg _ (funext h.doc_mirrors.tag?_eq)
  rw [plainText, plainText, isPreformatted, isPreformatted, htag, h.normalize_eq]

/-- The same elements are ignored. -/
theorem isIgnored_eq (h : c₁.Mirrors rename c₂) (node : Nat) :
    c₂.isIgnored (rename node) = c₁.isIgnored node := by
  rw [isIgnored, isIgnored, h.registry_eq, h.matcher_eq₁, h.matcher_eq₂, Bool.eq_iff_iff,
    List.any_eq_true, List.any_eq_true]
  refine exists_congr fun selector => and_congr_right fun hm => ?_
  rw [Descent.selects_of_mirrors h.doc_mirrors
    (Registry.selectorKeys_subset (List.mem_append_left _ hm))]

/-- The same rules select an element. -/
theorem rulesFor_eq (h : c₁.Mirrors rename c₂) (node : Nat) :
    c₂.rulesFor (rename node) = c₁.rulesFor node := by
  rw [rulesFor, rulesFor, h.registry_eq, h.matcher_eq₁, h.matcher_eq₂]
  refine List.filter_congr fun rule hm => ?_
  have hselector : rule.selector ∈ c₁.registry.selectors :=
    List.mem_append_right _ (List.mem_map_of_mem hm)
  exact Descent.selects_of_mirrors h.doc_mirrors (Registry.selectorKeys_subset hselector) node

variable {textOf₁ textOf₂ : Nat → Run String} {visit₁ visit₂ : Visit}

/-- A rule makes the same of two elements with the same text, if their attributes agree on the keys
of the registry. -/
theorem applyRule_eq (h : c₁.Mirrors rename c₂)
    (hdataset : Dataset.Agrees c₁.registry.keys visit₁.dataset visit₂.dataset)
    (htext : textOf₂ visit₂.node = textOf₁ visit₁.node) (given : Option String) {rule : Rule}
    (hm : rule ∈ c₁.registry.rules) :
    c₂.applyRule textOf₂ visit₂ given rule = c₁.applyRule textOf₁ visit₁ given rule := by
  have hagrees : Dataset.Agrees rule.keys visit₁.dataset visit₂.dataset :=
    hdataset.of_subset (Registry.rule_keys_subset hm)
  have hnone := Registry.formatter?_eq_none h.noFormatters hm
  obtain ⟨selector, template | formatter⟩ := rule
  · have hrender : ∀ content, template.render content visit₂.dataset =
        template.render content visit₁.dataset :=
      fun content => (Template.render_of_agrees hagrees content).symm
    simp only [applyRule, hrender, htext]
  · cases hnone

/-- Further rules make the same of a text. -/
theorem applyRules_eq (h : c₁.Mirrors rename c₂)
    (hdataset : Dataset.Agrees c₁.registry.keys visit₁.dataset visit₂.dataset)
    (htext : textOf₂ visit₂.node = textOf₁ visit₁.node) {rules : List Rule}
    (hm : ∀ rule ∈ rules, rule ∈ c₁.registry.rules) (text : String) :
    c₂.applyRules textOf₂ visit₂ rules text = c₁.applyRules textOf₁ visit₁ rules text := by
  induction rules generalizing text with
  | nil => rfl
  | cons rule rules ih =>
    rw [applyRules, applyRules, h.applyRule_eq hdataset htext _ (hm rule List.mem_cons_self)]
    exact congrArg _ (funext fun changed =>
      ih (fun other ho => hm other (List.mem_cons_of_mem _ ho)) changed)

/-- The same becomes of an element in both conversions. -/
theorem resolve_eq (h : c₁.Mirrors rename c₂) (hnode : visit₂.node = rename visit₁.node)
    (hdataset : Dataset.Agrees c₁.registry.keys visit₁.dataset visit₂.dataset)
    (htext : textOf₂ visit₂.node = textOf₁ visit₁.node) :
    c₂.resolve textOf₂ visit₂ = c₁.resolve textOf₁ visit₁ := by
  have hmember : ∀ rule ∈ c₁.rulesFor visit₁.node, rule ∈ c₁.registry.rules :=
    fun rule hm => (List.mem_filter.1 hm).1
  unfold resolve
  rw [hnode, h.rulesFor_eq]
  cases hrules : c₁.rulesFor visit₁.node with
  | nil =>
    have hfallback := Registry.fallback_eq_none h.noFormatters
    simp only [applyFallback, h.registry_eq, hfallback, htext]
  | cons first rules =>
    rw [hrules] at hmember
    simp only
    rw [h.applyRule_eq hdataset htext none (hmember first List.mem_cons_self)]
    exact congrArg _ (funext fun text =>
      h.applyRules_eq hdataset htext (fun rule hm => hmember rule (List.mem_cons_of_mem _ hm)) text)

/-- A node contributes the same in both conversions, if the text of an element is the same. -/
theorem contribution_eq (h : c₁.Mirrors rename c₂) {textAt₁ textAt₂ : Nat → Nat → Run String}
    {depth node : Nat}
    (htext : textAt₂ (depth + 1) (rename node) = textAt₁ (depth + 1) node) :
    c₂.contribution textAt₂ depth (rename node) = c₁.contribution textAt₁ depth node := by
  unfold contribution
  -- A node is of one kind in both documents, so both sides branch alike.
  rcases h.doc_mirrors.content_cases node with ⟨h₁, h₂⟩ | ⟨tag, dataset₁, dataset₂, h₁, h₂, hdataset⟩ |
    ⟨text, h₁, h₂⟩ | ⟨h₁, h₂⟩ <;> rw [h₁, h₂] <;> simp only
  · rw [h.isIgnored_eq]
    by_cases hi : c₁.isIgnored node
    · rw [if_pos hi, if_pos hi]
    · rw [if_neg hi, if_neg hi]
      exact h.resolve_eq rfl hdataset htext
  · rw [h.plainText_eq]

/-- A node has the same text in both conversions. -/
theorem textOf_eq (h : c₁.Mirrors rename c₂) (bound depth node : Nat) :
    c₂.textOf bound depth (rename node) = c₁.textOf bound depth node := by
  induction bound generalizing depth node with
  | zero => rfl
  | succ bound ih =>
    -- The children in the second document are those in the first, renamed and in the same order.
    have hchild : c₂.contribution (c₂.textOf bound) depth ∘ rename =
        c₁.contribution (c₁.textOf bound) depth :=
      funext fun child => h.contribution_eq (ih (depth + 1) child)
    rw [textOf, textOf, h.doc_mirrors.children_eq, List.map_map, hchild]

end Mirrors

end Conversion

/-! ## Engines -/

/-- Two runs end with the same text. -/
def Run.SameText (run₁ run₂ : Run String) : Prop :=
  ∃ text, run₁.result? = some (.ok text) ∧ run₂.result? = some (.ok text)

namespace Engine

/-- Two documents, the nodes of which are renamed, are converted to the same texts, whatever is asked
for: at every root, and as a whole. -/
def SameTexts (engine : Engine) (rename : Nat → Nat) (doc₁ doc₂ : Document) : Prop :=
  ∀ options : ConversionOptions,
    (∀ root, Run.SameText (engine.convertNode doc₁ root options)
      (engine.convertNode doc₂ (rename root) options)) ∧
    Run.SameText (engine.convert doc₁ options) (engine.convert doc₂ options)

variable {engine : Engine} {rename : Nat → Nat} {doc₁ doc₂ : Document}

/-- A conversion starts at the same node in a document and in one that mirrors it. -/
theorem startOf_of_mirrors {related : Dataset → Dataset → Prop}
    (h : doc₁.Mirrors related rename doc₂) (options : ConversionOptions) :
    startOf doc₂ options = rename (startOf doc₁ options) := by
  unfold startOf
  rw [h.body_eq]
  cases options.wholeDocument with
  | true => exact h.root_eq.symm
  | false =>
    cases doc₁.body with
    | none => exact h.root_eq.symm
    | some body => rfl

/-- Without formatters, a document is converted as one that mirrors it, with attributes that agree
on the keys of the registry. -/
theorem convertNode_of_mirrors (hm : engine.matcher = Descent.matcher)
    (hf : engine.registry.formatters = [])
    (h : doc₁.Mirrors (Dataset.Agrees engine.registry.keys) rename doc₂) (root : Nat)
    (options : ConversionOptions) :
    engine.convertNode doc₂ (rename root) options = engine.convertNode doc₁ root options := by
  have hmirrors : (engine.conversion doc₁ options.normalizeWhitespace).Mirrors rename
      (engine.conversion doc₂ options.normalizeWhitespace) := ⟨h, hm, hm, rfl, rfl, hf⟩
  have hnesting : nesting doc₂ = nesting doc₁ := congrArg (· + 1) h.size_eq
  have hraw : engine.rawText doc₂ (rename root) options.normalizeWhitespace =
      engine.rawText doc₁ root options.normalizeWhitespace := by
    rw [rawText, rawText, hnesting]
    exact hmirrors.textOf_eq (nesting doc₁) 0 root
  rw [convertNode, convertNode, hraw]

/-- Without formatters, a document whose numbers are in order and one that mirrors it, with
attributes that agree on the keys of the registry, are converted to the same texts. -/
theorem sameTexts_of_mirrors (hm : engine.matcher = Descent.matcher)
    (hf : engine.registry.formatters = []) (hd : doc₁.Descends)
    (h : doc₁.Mirrors (Dataset.Agrees engine.registry.keys) rename doc₂) :
    engine.SameTexts rename doc₁ doc₂ := by
  intro options
  have hroots : ∀ root, Run.SameText (engine.convertNode doc₁ root options)
      (engine.convertNode doc₂ (rename root) options) := by
    -- The first run ends because numbers grow downward, and the second is the same run.
    intro root
    obtain ⟨text, htext⟩ := exists_result?_convertNode hf hd root options
    exact ⟨text, htext, (convertNode_of_mirrors hm hf h root options).symm ▸ htext⟩
  refine ⟨hroots, ?_⟩
  rw [convert, convert, startOf_of_mirrors h]
  exact hroots (startOf doc₁ options)

/-- Without formatters, attributes matter through the last attribute of each key that is named in a
template or a selector. Documents that were built and are the same tree, however it is numbered, with
the same last attribute for each of these keys at every element, are converted to the same texts at
all roots and with all options. So are documents that were built by the same edits but for the order
of attributes, attributes that later ones replace, and attributes that are not named. -/
theorem sameTexts_of_agrees (engine : Engine) (hm : engine.matcher = Descent.matcher)
    (hf : engine.registry.formatters = []) :
    let keys := engine.registry.keys
    (∀ edits₁ edits₂ rename,
      (Document.build edits₁).Mirrors (Dataset.Agrees keys) rename (Document.build edits₂) →
        engine.SameTexts rename (.build edits₁) (.build edits₂)) ∧
    ∀ edits₁ edits₂,
      List.Forall₂ (Document.Edit.Alike (Relation.EqvGen (Dataset.Idle keys))) edits₁ edits₂ →
        engine.SameTexts id (.build edits₁) (.build edits₂) := by
  intro keys
  have hmirrors : ∀ edits₁ edits₂ rename,
      (Document.build edits₁).Mirrors (Dataset.Agrees keys) rename (Document.build edits₂) →
        engine.SameTexts rename (.build edits₁) (.build edits₂) :=
    fun edits₁ edits₂ rename h => sameTexts_of_mirrors hm hf (Document.descends_build edits₁) h
  refine ⟨hmirrors, fun edits₁ edits₂ h => hmirrors edits₁ edits₂ id ?_⟩
  exact (Document.mirrors_build (fun dataset => .refl dataset) h).imp Dataset.agrees_of_eqvGen

/-- A note, whose language is given twice in two of three documents, and a line that is hidden. In the
second document, the text was put in last; in the third, the attributes differ only. -/
theorem sameTexts_of_agrees_note :
    let engine : Engine := ⟨Descent.matcher, [.template "p.note" "<{dataset.lang}:{content}>"],
      .empty, ["[hidden]"], none⟩
    let edits₁ : List Document.Edit := [.element 1 "p" ⟨[("class", "note"), ("lang", "en")]⟩,
      .text 2 "a", .element 1 "hr" ⟨[("hidden", "")]⟩]
    let edits₂ : List Document.Edit :=
      [.element 1 "p" ⟨[("lang", "de"), ("lang", "en"), ("class", "note"), ("id", "x")]⟩,
        .element 1 "hr" ⟨[("hidden", "")]⟩, .text 2 "a"]
    let edits₃ : List Document.Edit :=
      [.element 1 "p" ⟨[("lang", "de"), ("id", "x"), ("lang", "en"), ("class", "note")]⟩,
        .text 2 "a", .element 1 "hr" ⟨[("hidden", "")]⟩]
    let rename : Nat → Nat := fun node => if node = 3 then 4 else if node = 4 then 3 else node
    (Document.build edits₁).Mirrors (Dataset.Agrees engine.registry.keys) rename
      (Document.build edits₂) ∧
    engine.SameTexts rename (.build edits₁) (.build edits₂) ∧
    List.Forall₂ (Document.Edit.Alike (Relation.EqvGen (Dataset.Idle engine.registry.keys)))
      edits₁ edits₃ ∧
    engine.SameTexts id (.build edits₁) (.build edits₃) ∧
    (engine.convert (.build edits₁) .standard).result? = some (.ok "<en:a>") := by
  intro engine edits₁ edits₂ edits₃ rename
  obtain ⟨hnumbers, hattributes⟩ := sameTexts_of_agrees engine rfl rfl
  have hkeys : engine.registry.keys = ["lang", "hidden", "class"] := by decide +kernel
  have hmirrors : (Document.build edits₁).Mirrors (Dataset.Agrees engine.registry.keys) rename
      (Document.build edits₂) := by
    rw [hkeys]
    have hnote : Dataset.Agrees ["lang", "hidden", "class"] ⟨[("class", "note"), ("lang", "en")]⟩
        ⟨[("lang", "de"), ("lang", "en"), ("class", "note"), ("id", "x")]⟩ := by
      unfold Dataset.Agrees
      decide +kernel
    refine Document.mirrors_of_forall_lt rfl rfl rfl (fun node hle => ?_) (by decide +kernel)
      (by decide +kernel) fun node hlt => ?_
    · have hbeyond : 5 ≤ node := hle
      show 5 ≤ rename node
      have hsame : rename node = node := by
        simp only [rename]
        rw [if_neg (by omega), if_neg (by omega)]
      rw [hsame]
      exact hbeyond
    · match node, hlt with
      | 0, _ => exact .some (.element "html" fun _ _ => rfl)
      | 1, _ => exact .some (.element "body" fun _ _ => rfl)
      | 2, _ => exact .some (.element "p" hnote)
      | 3, _ => exact .some (.text "a")
      | 4, _ => exact .some (.element "hr" fun _ _ => rfl)
  have hedits : List.Forall₂
      (Document.Edit.Alike (Relation.EqvGen (Dataset.Idle engine.registry.keys)))
      edits₁ edits₃ := by
    rw [hkeys]
    refine .cons (.element 1 "p" (.symm _ _ ?_))
      (.cons (.text 2 "a") (.cons (.element 1 "hr" (.refl _)) .nil))
    refine .trans _ _ _ (.rel _ _ (.overwritten [] _ (by decide))) ?_
    refine .trans _ _ _ (.rel _ _ (.unnamed [] _ (by decide))) ?_
    exact .rel _ _ (.swapped [] [] (by decide))
  exact ⟨hmirrors, hnumbers edits₁ edits₂ rename hmirrors, hedits,
    hattributes edits₁ edits₃ hedits, by decide +kernel⟩

end Engine

end TreeText
