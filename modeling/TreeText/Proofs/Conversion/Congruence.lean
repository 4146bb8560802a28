/-
# Conversions as compositions of runs

Whatever holds of texts that are there at once, and is kept where one run follows another, holds of
what a conversion makes of an element, if it holds of the text of the element and of the calls that
may be made for it. This is said of relations between two conversions; a property of one conversion
is a relation of it with itself.

* `Run.Congruence` is what is asked of a relation, and `Conversion.MayCall` says which calls may be
  made for an element.
* `Conversion.congruence_resolve` says that what becomes of two elements is related, and
  `Conversion.closed_resolve` that what becomes of one element has a property.
* `Conversion.contribution_cases` says that a child contributes a text or what becomes of it.
* `Conversion.Agrees` says that two conversions treat every node of one document alike; then
  `Conversion.Agrees.congruence_contribution` says that what a child contributes is related.
-/
import TreeText.Proofs.Registry.Formatters

namespace TreeText

/-- A relation between runs that holds of values which are there at once, and is kept where one run
follows another. -/
structure Run.Congruence (related : Run String → Run String → Prop) : Prop where
  pure : ∀ text, related (pure text) (pure text)
  bind : ∀ {run₁ run₂ : Run String} {next₁ next₂ : String → Run String}, related run₁ run₂ →
    (∀ text, related (next₁ text) (next₂ text)) → related (run₁ >>= next₁) (run₂ >>= next₂)

/-- Joined texts are related if each of them is. -/
theorem Run.Congruence.gather {related : Run String → Run String → Prop}
    (hr : Run.Congruence related) {ι : Type} {items : List ι}
    {contribute₁ contribute₂ : ι → Run String}
    (h : ∀ item ∈ items, related (contribute₁ item) (contribute₂ item)) :
    related (Run.gather (items.map contribute₁)) (Run.gather (items.map contribute₂)) := by
  induction items with
  | nil => exact hr.pure ""
  | cons item items ih =>
    refine hr.bind (h item List.mem_cons_self) fun text => ?_
    exact hr.bind (ih fun item hm => h item (List.mem_cons_of_mem _ hm)) fun rest => hr.pure _

/-- A property of runs that values have which are there at once, and which is kept where one run
follows another. -/
def Run.Closed (holds : Run String → Prop) : Prop :=
  Run.Congruence fun run _ => holds run

/-- Joined texts have a property if each of them has. -/
theorem Run.Closed.gather {holds : Run String → Prop} (hp : Run.Closed holds) {ι : Type}
    {items : List ι} {contribute : ι → Run String} (h : ∀ item ∈ items, holds (contribute item)) :
    holds (Run.gather (items.map contribute)) :=
  @Run.Congruence.gather _ hp ι items contribute contribute h

namespace Conversion

/-! ## Calls that may be made -/

/-- A formatter may be called for an element, where an answer without text is the given failure. -/
inductive MayCall (c : Conversion) (visit : Visit) : Formatter → ConversionError → Prop where
  | rule {rule : Rule} {formatter : Formatter} (selects : rule ∈ c.rulesFor visit.node)
      (calls : rule.formatter? = some formatter) :
      MayCall c visit formatter (.ruleWithoutAnswer rule.selector)
  | fallback {formatter : Formatter} (unselected : c.rulesFor visit.node = [])
      (calls : c.registry.fallback = some formatter) :
      MayCall c visit formatter (.fallbackWithoutAnswer visit.tag)

/-- Formatters that may be called are among those that the element may go to. -/
theorem MayCall.mem_formattersFor {c : Conversion} {visit : Visit} {formatter : Formatter}
    {unanswered : ConversionError} (h : c.MayCall visit formatter unanswered) :
    formatter ∈ c.formattersFor visit.node := by
  unfold formattersFor
  cases h with
  | rule selects calls =>
    cases hrules : c.rulesFor visit.node with
    | nil =>
      rw [hrules] at selects
      exact absurd selects List.not_mem_nil
    | cons first rules => exact List.mem_filterMap.2 ⟨_, hrules ▸ selects, calls⟩
  | fallback unselected calls =>
    rw [unselected]
    exact Option.mem_toList.2 calls

/-- Formatters that may be called are formatters of the registry. -/
theorem MayCall.mem_formatters {c : Conversion} {visit : Visit} {formatter : Formatter}
    {unanswered : ConversionError} (h : c.MayCall visit formatter unanswered) :
    formatter ∈ c.registry.formatters :=
  mem_formatters_of_mem_formattersFor h.mem_formattersFor

/-! ## One element -/

variable {related : Run String → Run String → Prop} {c₁ c₂ : Conversion}
  {textOf₁ textOf₂ : Nat → Run String} {visit₁ visit₂ : Visit}

/-- A rule makes related runs of two elements with the same attributes. -/
theorem congruence_applyRule (hr : Run.Congruence related)
    (ht : related (textOf₁ visit₁.node) (textOf₂ visit₂.node))
    (hdataset : visit₁.dataset = visit₂.dataset) {rule : Rule} (given : Option String)
    (hcall : ∀ formatter, rule.formatter? = some formatter →
      related (formatter.textFor c₁.doc textOf₁ visit₁ given (.ruleWithoutAnswer rule.selector))
        (formatter.textFor c₂.doc textOf₂ visit₂ given (.ruleWithoutAnswer rule.selector))) :
    related (c₁.applyRule textOf₁ visit₁ given rule) (c₂.applyRule textOf₂ visit₂ given rule) := by
  obtain ⟨selector, template | formatter⟩ := rule
  · unfold applyRule
    rw [hdataset]
    cases given with
    | some text => exact hr.bind (hr.pure text) fun _ => hr.pure _
    | none => exact hr.bind ht fun _ => hr.pure _
  · exact hcall formatter rfl

/-- Further rules make related runs of a text. -/
theorem congruence_applyRules (hr : Run.Congruence related)
    (ht : related (textOf₁ visit₁.node) (textOf₂ visit₂.node))
    (hdataset : visit₁.dataset = visit₂.dataset) {rules : List Rule}
    (hcall : ∀ rule ∈ rules, ∀ formatter given, rule.formatter? = some formatter →
      related (formatter.textFor c₁.doc textOf₁ visit₁ given (.ruleWithoutAnswer rule.selector))
        (formatter.textFor c₂.doc textOf₂ visit₂ given (.ruleWithoutAnswer rule.selector)))
    (text : String) :
    related (c₁.applyRules textOf₁ visit₁ rules text)
      (c₂.applyRules textOf₂ visit₂ rules text) := by
  induction rules generalizing text with
  | nil => exact hr.pure text
  | cons rule rules ih =>
    refine hr.bind (congruence_applyRule hr ht hdataset (some text) fun formatter =>
      hcall rule List.mem_cons_self formatter (some text)) fun changed => ?_
    exact ih (fun rule hm => hcall rule (List.mem_cons_of_mem _ hm)) changed

/-- What becomes of two elements is related, if their texts are and the calls that may be made for
them. The elements have the same tag and the same attributes, and go to the same rules or to the
same fallback. -/
theorem congruence_resolve (hr : Run.Congruence related)
    (ht : related (textOf₁ visit₁.node) (textOf₂ visit₂.node))
    (htag : visit₁.tag = visit₂.tag) (hdataset : visit₁.dataset = visit₂.dataset)
    (hrules : c₁.rulesFor visit₁.node = c₂.rulesFor visit₂.node)
    (hfallback : c₁.registry.fallback = c₂.registry.fallback)
    (hcall : ∀ formatter unanswered given, c₂.MayCall visit₂ formatter unanswered →
      related (formatter.textFor c₁.doc textOf₁ visit₁ given unanswered)
        (formatter.textFor c₂.doc textOf₂ visit₂ given unanswered)) :
    related (c₁.resolve textOf₁ visit₁) (c₂.resolve textOf₂ visit₂) := by
  unfold resolve
  rw [hrules]
  cases hlist : c₂.rulesFor visit₂.node with
  | nil =>
    simp only [applyFallback]
    rw [hfallback, htag]
    cases hf : c₂.registry.fallback with
    | none => exact ht
    | some formatter => exact hcall formatter _ none (.fallback hlist hf)
  | cons first rules =>
    have hmember : ∀ rule ∈ first :: rules, ∀ formatter given, rule.formatter? = some formatter →
        related (formatter.textFor c₁.doc textOf₁ visit₁ given (.ruleWithoutAnswer rule.selector))
          (formatter.textFor c₂.doc textOf₂ visit₂ given (.ruleWithoutAnswer rule.selector)) :=
      fun rule hm formatter given hformatter =>
        hcall formatter _ given (.rule (hlist ▸ hm) hformatter)
    refine hr.bind (congruence_applyRule hr ht hdataset none fun formatter =>
      hmember first List.mem_cons_self formatter none) fun text => ?_
    exact congruence_applyRules hr ht hdataset
      (fun rule hm => hmember rule (List.mem_cons_of_mem _ hm)) text

/-- What becomes of an element has a property, if its text has it and the calls that may be made for
it. -/
theorem closed_resolve {holds : Run String → Prop} (hp : Run.Closed holds) {c : Conversion}
    {textOf : Nat → Run String} {visit : Visit} (ht : holds (textOf visit.node))
    (hcall : ∀ formatter unanswered given, c.MayCall visit formatter unanswered →
      holds (formatter.textFor c.doc textOf visit given unanswered)) :
    holds (c.resolve textOf visit) :=
  @congruence_resolve _ c c textOf textOf visit visit hp ht rfl rfl rfl rfl hcall

/-! ## One child -/

/-- A child contributes a text that is there at once, or what becomes of it if it is an element that
is not ignored. -/
theorem contribution_cases (c : Conversion) (textAt : Nat → Nat → Run String) (depth node : Nat) :
    (∃ text, c.contribution textAt depth node = pure text) ∨
      ∃ tag dataset, c.doc.content? node = some (.element tag dataset) ∧
        c.isIgnored node = false ∧
        c.contribution textAt depth node =
          c.resolve (textAt (depth + 1)) ⟨node, tag, dataset, depth + 1⟩ := by
  unfold contribution
  rcases c.doc.content? node with _ | ⟨tag, dataset⟩ | text | _
  · exact Or.inl ⟨"", rfl⟩
  · cases hi : c.isIgnored node with
    | true => exact Or.inl ⟨"", rfl⟩
    | false => exact Or.inr ⟨tag, dataset, rfl, rfl, rfl⟩
  · exact Or.inl ⟨_, rfl⟩
  · exact Or.inl ⟨"", rfl⟩

/-! ## Conversions that agree -/

/-- Two conversions of one document that ignore the same elements and send each of the others to the
same rules or to the same fallback. -/
structure Agrees (c₁ c₂ : Conversion) : Prop where
  doc_eq : c₁.doc = c₂.doc
  normalize_eq : c₁.normalize = c₂.normalize
  fallback_eq : c₁.registry.fallback = c₂.registry.fallback
  isIgnored_eq : ∀ node, c₁.doc.isElement node = true → c₁.isIgnored node = c₂.isIgnored node
  rulesFor_eq : ∀ node, c₁.doc.isElement node = true → c₁.rulesFor node = c₂.rulesFor node

/-- A conversion agrees with itself. -/
theorem agrees_refl (c : Conversion) : c.Agrees c :=
  ⟨rfl, rfl, rfl, fun _ _ => rfl, fun _ _ => rfl⟩

/-- A text is treated alike by conversions that agree. -/
theorem Agrees.plainText_eq (h : c₁.Agrees c₂) (node : Nat) (text : String) :
    c₁.plainText node text = c₂.plainText node text := by
  unfold plainText isPreformatted
  rw [h.doc_eq, h.normalize_eq]

/-- A child contributes related runs to conversions that agree, if all texts are related that are
nested in it, and so are the calls that may be made for it. -/
theorem Agrees.congruence_contribution (h : c₁.Agrees c₂) (hr : Run.Congruence related)
    {textAt₁ textAt₂ : Nat → Nat → Run String} {depth node : Nat}
    (ht : related (textAt₁ (depth + 1) node) (textAt₂ (depth + 1) node))
    (hcall : ∀ (formatter : Formatter) visit given unanswered,
      related (formatter.textFor c₁.doc (textAt₁ (depth + 1)) visit given unanswered)
        (formatter.textFor c₂.doc (textAt₂ (depth + 1)) visit given unanswered)) :
    related (c₁.contribution textAt₁ depth node) (c₂.contribution textAt₂ depth node) := by
  have hcontent : c₁.doc.content? node = c₂.doc.content? node := by rw [h.doc_eq]
  unfold contribution
  rw [hcontent]
  rcases hkind : c₂.doc.content? node with _ | ⟨tag, dataset⟩ | text | _ <;> simp only
  · exact hr.pure ""
  · have helement : c₁.doc.isElement node = true := by
      rw [hkind] at hcontent
      simp [Document.isElement, Document.tag?, hcontent]
    rw [h.isIgnored_eq node helement]
    by_cases hi : c₂.isIgnored node
    · rw [if_pos hi, if_pos hi]
      exact hr.pure ""
    · rw [if_neg hi, if_neg hi]
      exact congruence_resolve hr ht rfl rfl (h.rulesFor_eq node helement) h.fallback_eq
        fun formatter unanswered given _ => hcall formatter _ given unanswered
  · rw [h.plainText_eq]
    exact hr.pure _
  · exact hr.pure ""

end Conversion

end TreeText
