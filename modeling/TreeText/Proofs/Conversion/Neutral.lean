/-
# Neutral rules and fallbacks

A rule whose template is the content and nothing else gives back the text that it works on. A
fallback that answers with its content makes of an element what becomes of it without a fallback.
Where all other rules are templates, such rules may be put in anywhere, as often as one likes, and
such a fallback may be set: conversions end as they did before.

* `Formatter.ReturnsContent` is what is asked of the fallback, and `Registry.Pads` says which
  registries come from one another by putting in and setting.
* `Conversion.endsAlike_resolve` says what becomes of an element without other formatters.
* `Engine.convertNode_of_pads` says that conversions end as before.
-/
import TreeText.Formatter.Piece
import TreeText.Proofs.Conversion.Eager
import TreeText.Proofs.Conversion.Reached

namespace TreeText

/-! ## Formatters that answer with the content -/

/-- A formatter that asks for nothing but the content of its element and answers with it, or with
the failure if it is given one. -/
structure Formatter.ReturnsContent (formatter : Formatter) : Prop where
  neverConverts : formatter.NeverConverts
  propagates : formatter.Propagates
  answer_eq : ∀ doc visit text, (formatter.script doc visit).answer text = .ok (some text)

namespace Formatter.ReturnsContent

variable {formatter : Formatter} {textOf : Nat → Run String}

/-- Such a formatter asks for the content before it does anything else. -/
theorem exists_script (h : formatter.ReturnsContent) (doc : Document) (visit : Visit) :
    ∃ next, formatter.script doc visit = .content next ∧
      ∀ error, next (.error error) = .done (.error error) := by
  have hnever := h.neverConverts doc visit
  have hpropagates := h.propagates doc visit
  have hanswer := h.answer_eq doc visit
  cases hscript : formatter.script doc visit with
  | done answer =>
    -- An answer that is there at once is the same for all contents.
    rw [hscript] at hanswer
    have hsame : (.ok (some "") : Answer) = .ok (some " ") := (hanswer "").symm.trans (hanswer " ")
    exact absurd hsame (by decide)
  | content next =>
    rw [hscript] at hpropagates
    exact ⟨next, rfl, hpropagates.1⟩
  | convert target next =>
    rw [hscript] at hnever
    exact absurd hnever.1 id

/-- What it makes of an element ends as the text of the element does. -/
theorem endsAlike_textFor (h : formatter.ReturnsContent) (doc : Document) (visit : Visit)
    (unanswered : ConversionError) :
    (formatter.textFor doc textOf visit none unanswered).EndsAlike (textOf visit.node) := by
  obtain ⟨next, hscript, hfail⟩ := h.exists_script doc visit
  have hcall : (formatter.call doc textOf visit none).result? =
      (textOf visit.node).result?.map (Except.map some) := by
    rcases htext : (textOf visit.node).result? with _ | error | text
    · rw [call, Run.result?_note_bind, hscript, Script.run, Run.result?_bind, Run.result?_attempt,
        htext]
      rfl
    · rw [call, Run.result?_note_bind, hscript, Script.run, Run.result?_attempt_bind htext,
        Run.result?_note_bind, hfail]
      rfl
    · have hoffers : Script.Offers textOf visit.node text none := htext
      rw [Formatter.result?_call h.neverConverts hoffers doc, h.answer_eq]
      rfl
  unfold Run.EndsAlike
  rw [textFor, Run.result?_bind, hcall]
  rcases (textOf visit.node).result? with _ | error | text <;> rfl

end Formatter.ReturnsContent

/-- The formatter whose only piece is the content is one of them. -/
theorem Formatter.returnsContent_ofPieces (label : String) :
    (ofPieces label [.content]).ReturnsContent where
  neverConverts := by
    rintro doc visit (error | text) <;> trivial
  propagates _ _ := ⟨fun _ => rfl, fun _ => trivial⟩
  answer_eq _ _ _ := congrArg (fun text => Except.ok (some text)) String.empty_append

/-! ## Registries -/

/-- A registry whose rules all are templates and which has no fallback but one that answers with the
content. -/
structure Registry.FillsOnly (registry : Registry) : Prop where
  rules : ∀ rule ∈ registry.rules, rule.formatter? = none
  fallback : ∀ formatter, registry.fallback = some formatter → formatter.ReturnsContent

/-- A registry without formatters is of that kind. -/
theorem Registry.fillsOnly_of_formatters_eq_nil {registry : Registry}
    (h : registry.formatters = []) : registry.FillsOnly where
  rules rule hm := formatter?_eq_none h hm
  fallback formatter hf := by
    rw [fallback_eq_none h] at hf
    cases hf

/-- A registry of which another one comes by putting in rules whose template is the content, each
anywhere, and by setting fallbacks that answer with the content. -/
inductive Registry.Pads : Registry → Registry → Prop where
  | refl (registry : Registry) : Pads registry registry
  | rule {registry : Registry} (front back : List Rule) (rules_eq : registry.rules = front ++ back)
      (selector : String) :
      Pads registry { registry with rules := front ++ .template selector "{content}" :: back }
  | fallback (registry : Registry) {formatter : Formatter} (returns : formatter.ReturnsContent) :
      Pads registry (registry.setFallback formatter)
  | trans {registry between padded : Registry} (first : Pads registry between)
      (second : Pads between padded) : Pads registry padded

/-- A rule whose template is the content gives back every text. -/
theorem Rule.rewrite_template_content (doc : Document) (visit : Visit) (text selector : String) :
    (Rule.template selector "{content}").rewrite doc visit text = .ok text := by
  have htoken : Segment.token? "{content}".toList = some (.content, []) := by decide +kernel
  have hscan : Segment.scan "{content}".toList = [.content] := by
    rw [Segment.scan_token htoken, Segment.scan]
  show Except.ok (String.join ((Segment.scan "{content}".toList).map (Segment.render text _))) = _
  rw [hscan]
  exact congrArg Except.ok (String.empty_append)

namespace Registry.Pads

variable {registry padded : Registry}

/-- What is ignored stays the same. -/
theorem ignored_eq (h : registry.Pads padded) : padded.ignored = registry.ignored := by
  induction h with
  | refl registry => rfl
  | rule front back rules_eq selector => rfl
  | fallback registry returns => rfl
  | trans first second ih₁ ih₂ => exact ih₂.trans ih₁

/-- The placeholders stay the same. -/
theorem placeholders_eq (h : registry.Pads padded) :
    padded.placeholders = registry.placeholders := by
  induction h with
  | refl registry => rfl
  | rule front back rules_eq selector => rfl
  | fallback registry returns => rfl
  | trans first second ih₁ ih₂ => exact ih₂.trans ih₁

/-- All rules are templates as before, and there is no other fallback. -/
theorem fillsOnly (h : registry.Pads padded) (hfills : registry.FillsOnly) : padded.FillsOnly := by
  induction h with
  | refl registry => exact hfills
  | rule front back rules_eq selector =>
    refine ⟨fun rule hm => ?_, hfills.fallback⟩
    rcases List.mem_append.1 hm with hfront | hback
    · exact hfills.rules rule (rules_eq ▸ List.mem_append_left _ hfront)
    · rcases List.mem_cons.1 hback with rfl | hback
      · rfl
      · exact hfills.rules rule (rules_eq ▸ List.mem_append_right _ hback)
  | fallback registry returns =>
    refine ⟨hfills.rules, fun formatter hf => ?_⟩
    cases hf
    exact returns
  | trans first second ih₁ ih₂ => exact ih₂ (ih₁ hfills)

/-- The rules of an element make the same of every text as before. -/
theorem foldlM_rewrite_eq (h : registry.Pads padded) (isSelected : Rule → Bool) (doc : Document)
    (visit : Visit) (text : String) :
    (padded.rules.filter isSelected).foldlM (Rule.rewrite doc visit) text =
      (registry.rules.filter isSelected).foldlM (Rule.rewrite doc visit) text := by
  induction h with
  | refl registry => rfl
  | rule front back rules_eq selector =>
    rw [rules_eq, List.filter_append, List.filter_append, List.foldlM_append, List.foldlM_append]
    congr 1
    funext changed
    -- The new rule works on what the rules in front of it have left, if it is selected at all.
    rw [List.filter_cons]
    split
    · rw [List.foldlM_cons, Rule.rewrite_template_content]
      rfl
    · rfl
  | fallback registry returns => rfl
  | trans first second ih₁ ih₂ => exact ih₂.trans ih₁

end Registry.Pads

/-! ## Conversions -/

namespace Conversion

/-- What becomes of an element ends as its text does, with all of its rules at work on it. -/
theorem endsAlike_resolve {c : Conversion} (h : c.registry.FillsOnly) (textOf : Nat → Run String)
    (visit : Visit) :
    (c.resolve textOf visit).EndsAlike (textOf visit.node >>= fun text =>
      Run.ofExcept ((c.rulesFor visit.node).foldlM (Rule.rewrite c.doc visit) text)) := by
  unfold resolve
  cases hrules : c.rulesFor visit.node with
  | nil =>
    have hplain : (textOf visit.node >>= fun text =>
        Run.ofExcept (List.foldlM (Rule.rewrite c.doc visit) text [])) = textOf visit.node :=
      Run.bind_pure _
    rw [hplain]
    simp only [applyFallback]
    cases hf : c.registry.fallback with
    | none => rfl
    | some formatter => exact (h.fallback formatter hf).endsAlike_textFor c.doc visit _
  | cons first rules =>
    have hnone : ∀ rule ∈ first :: rules, rule.formatter? = none :=
      fun rule hm => h.rules rule (List.mem_filter.1 (hrules ▸ hm)).1
    obtain ⟨selector, template | formatter⟩ := first
    · -- The first rule computes the text; all rules then work on what there is by then.
      have hrest : ∀ rule ∈ rules, ∀ formatter ∈ rule.formatter?, formatter.NeverConverts := by
        intro rule hm formatter hformatter
        rw [hnone rule (List.mem_cons_of_mem _ hm)] at hformatter
        cases hformatter
      simp only [applyRule, Run.bind_assoc, Run.pure_bind]
      refine Run.EndsAlike.bind rfl fun text => ?_
      exact result?_applyRules hrest
    · cases hnone _ List.mem_cons_self

/-- The text of a node ends in the same way, within any bound, if a registry is padded. -/
theorem endsAlike_textOf_of_pads {registry padded : Registry} (h : registry.Pads padded)
    (hfills : registry.FillsOnly) (doc : Document) (matcher : Matcher) (normalize : Bool)
    (bound depth node : Nat) :
    (textOf ⟨doc, matcher, padded, normalize⟩ bound depth node).EndsAlike
      (textOf ⟨doc, matcher, registry, normalize⟩ bound depth node) := by
  induction bound generalizing depth node with
  | zero => rfl
  | succ bound ih =>
    refine Run.congruence_endsAlike.gather fun child _ => ?_
    have hignored : isIgnored ⟨doc, matcher, padded, normalize⟩ child =
        isIgnored ⟨doc, matcher, registry, normalize⟩ child := by
      unfold isIgnored
      rw [h.ignored_eq]
    unfold contribution
    rw [hignored]
    rcases doc.content? child with _ | ⟨tag, dataset⟩ | text | _ <;> simp only
    · rfl
    · split
      · rfl
      · refine (endsAlike_resolve (h.fillsOnly hfills) _ _).trans ?_
        refine Eq.trans ?_ (endsAlike_resolve hfills _ _).symm
        refine (ih (depth + 1) child).bind fun text => ?_
        have hrules := h.foldlM_rewrite_eq
          (fun rule => matcher.selects doc child rule.selector) doc
          ⟨child, tag, dataset, depth + 1⟩ text
        exact congrArg some hrules
    · rfl
    · rfl

end Conversion

/-! ## Engines -/

namespace Engine

/-- If an engine has templates alone and no fallback, its conversions end as before once rules whose
template is the content have been put in, each anywhere, and fallbacks have been set that answer
with the content. Where numbers grow downward, both end with a text. -/
theorem convertNode_of_pads {matcher : Matcher} {registry padded : Registry}
    (hf : registry.formatters = []) (h : registry.Pads padded) (doc : Document) (root : Nat)
    (options : ConversionOptions) :
    let engine : Engine := ⟨matcher, registry⟩
    let extended : Engine := ⟨matcher, padded⟩
    (extended.convertNode doc root options).result? =
        (engine.convertNode doc root options).result? ∧
      (doc.Descends →
        ∃ text, (extended.convertNode doc root options).result? = some (.ok text)) := by
  intro engine extended
  have hfills := Registry.fillsOnly_of_formatters_eq_nil hf
  have hraw := Conversion.endsAlike_textOf_of_pads h hfills doc matcher options.normalizeWhitespace
    (nesting doc) 0 root
  have hsame : (extended.convertNode doc root options).result? =
      (engine.convertNode doc root options).result? := by
    refine hraw.bind fun raw => ?_
    have hfinish : extended.finish options raw = engine.finish options raw := by
      unfold finish
      rw [show extended.registry.placeholders = engine.registry.placeholders from
        h.placeholders_eq]
    rw [hfinish]
    rfl
  refine ⟨hsame, fun hd => ?_⟩
  rw [hsame]
  exact exists_result?_convertNode hf hd root options

/-- Between the two rules of paragraphs, a third one is put in that gives back the content, and the
emphasis in a paragraph goes to a fallback; the text is that of the two rules. -/
theorem convertNode_of_pads_paragraph :
    let edits : List Document.Edit :=
      [.element 1 "p" .empty, .text 2 "a ", .element 2 "em" .empty, .text 4 "b"]
    let inner := Rule.template "p" "<{content}>"
    let outer := Rule.template "p" "[{content}]"
    let registry : Registry := ⟨[inner, outer], .empty, [], none⟩
    let padded : Registry :=
      ⟨[inner, .template "p" "{content}", outer], .empty, [],
        some (.ofPieces "same" [.content])⟩
    registry.formatters = [] ∧ registry.Pads padded ∧
      ((⟨.byTag, padded⟩ : Engine).convertNode (.build edits) 1 .standard).result? =
        ((⟨.byTag, registry⟩ : Engine).convertNode (.build edits) 1 .standard).result? ∧
      ((⟨.byTag, registry⟩ : Engine).convertNode (.build edits) 1 .standard).result? =
        some (.ok "[<a b>]") := by
  intro edits inner outer registry padded
  have hpads : registry.Pads padded :=
    .trans (.rule [inner] [outer] rfl "p") (.fallback _ (Formatter.returnsContent_ofPieces "same"))
  exact ⟨rfl, hpads, (convertNode_of_pads rfl hpads (.build edits) 1 .standard).1,
    by decide +kernel⟩

end Engine

end TreeText
