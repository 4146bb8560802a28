/-
# Which formatters are called

Where formatters never ask for the text of a node and make the failures that they are given their
own, the content of an element is computed when its first formatter asks for it, and never again.
So a conversion calls, for each element, the formatters of its rules one after the other and each of
them once at most; and where the first of them does not ask for the content, nothing is called for
the elements below.

* `Conversion.exists_calls_resolve` says which calls are made for one element.
* `Conversion.Orderly` is what holds of the calls for a part of a document;
  `Conversion.orderly_textOf` says it of what lies below a node, and
  `Engine.convertNode_calls_in_order` of whole conversions.
-/
import TreeText.Formatter.Piece
import TreeText.Proofs.Conversion.Congruence
import TreeText.Proofs.Conversion.Ends
import TreeText.Proofs.Document.Kin

namespace TreeText

/-! ## Content that is read at most once -/

/-- The calls made for a content: none if it is not read, or those along one computing of it. -/
def Run.ReadAtMostOnce (run : Run String) (calls : List Call) : Prop :=
  calls = [] ∨ ∃ events result, run = some (events, result) ∧ calls = Event.calls events

namespace Script

variable {textOf : Nat → Run String} {self : Nat} {script : Script} {events : List Event}
  {result : Answer}

/-- A script that was given its content calls nothing. -/
theorem calls_run_given (hs : script.NeverConverts) {text : String}
    (h : script.run textOf self (some text) = some (events, result)) : Event.calls events = [] := by
  induction script generalizing events with
  | done answer =>
    obtain ⟨rfl, -⟩ := run_done_eq_some.1 h
    rfl
  | content next ih =>
    obtain ⟨after, hafter, rfl⟩ := run_content_given_eq_some.1 h
    rw [Event.calls_content]
    exact ih (.ok text) (hs (.ok text)) hafter
  | convert target next ih => exact absurd hs.1 id

/-- A script that was not given its content reads it at most once, and never if it does not ask. -/
theorem calls_run (hs : script.NeverConverts) (hp : script.Propagates)
    (h : script.run textOf self none = some (events, result)) :
    (textOf self).ReadAtMostOnce (Event.calls events) ∧
      (script.ReadsNothing → Event.calls events = []) := by
  cases script with
  | done answer =>
    obtain ⟨rfl, -⟩ := run_done_eq_some.1 h
    exact ⟨Or.inl rfl, fun _ => rfl⟩
  | content next =>
    obtain ⟨before, taken, after, htaken, hafter, rfl⟩ := run_content_eq_some.1 h
    -- A text is kept, and a failure is answered with at once: nothing is computed a second time.
    have hnone : Event.calls after = [] := by
      cases taken with
      | ok text => exact calls_run_given (hs (.ok text)) hafter
      | error error =>
        rw [hp.1 error] at hafter
        obtain ⟨rfl, -⟩ := run_done_eq_some.1 hafter
        rfl
    refine ⟨Or.inr ⟨before, taken, htaken, ?_⟩, False.elim⟩
    rw [Event.calls_append, Event.calls_content, hnone, List.append_nil]
  | convert target next => exact absurd hs.1 id

end Script

/-! ## One element -/

namespace Conversion

variable {c : Conversion} {textOf : Nat → Run String} {visit : Visit} {events : List Event}
  {result : Except ConversionError String}

/-- The call that a rule makes for an element, if it calls a formatter. -/
def callsOf (visit : Visit) (rule : Rule) : List Call :=
  rule.formatter?.toList.map visit.callOf

/-- The calls of rules are those of the first and those of the others. -/
theorem map_callOf_filterMap_cons (visit : Visit) (rule : Rule) (rules : List Rule) :
    ((rule :: rules).filterMap Rule.formatter?).map visit.callOf =
      callsOf visit rule ++ (rules.filterMap Rule.formatter?).map visit.callOf := by
  rw [List.filterMap_cons, callsOf]
  cases rule.formatter? <;> rfl

/-- A rule that was given its content makes its own call and no other. -/
theorem calls_applyRule_given {rule : Rule}
    (hr : ∀ formatter, rule.formatter? = some formatter → formatter.NeverConverts) {text : String}
    (h : c.applyRule textOf visit (some text) rule = some (events, result)) :
    Event.calls events = callsOf visit rule := by
  obtain ⟨selector, template | formatter⟩ := rule
  · cases h
    rfl
  · obtain ⟨inner, answer, hrun, rfl, -⟩ := Formatter.textFor_eq_some.1 h
    rw [Event.calls_called, Script.calls_run_given (hr formatter rfl c.doc visit) hrun]
    rfl

/-- A rule that was not given its content makes its own call first, and then reads the text of the
element at most once. -/
theorem exists_calls_applyRule {rule : Rule}
    (hr : ∀ formatter, rule.formatter? = some formatter →
      formatter.NeverConverts ∧ formatter.Propagates)
    (h : c.applyRule textOf visit none rule = some (events, result)) :
    ∃ inner, Event.calls events = callsOf visit rule ++ inner ∧
      (textOf visit.node).ReadAtMostOnce inner ∧
      ∀ formatter, rule.formatter? = some formatter →
        (formatter.script c.doc visit).ReadsNothing → inner = [] := by
  obtain ⟨selector, template | formatter⟩ := rule
  · refine ⟨Event.calls events, rfl, ?_, fun formatter hnone => by cases hnone⟩
    rcases Run.bind_eq_some.1 h with ⟨error, htext, -⟩ | ⟨before, text, after, htext, hafter, rfl⟩
    · exact Or.inr ⟨_, _, htext, rfl⟩
    · rw [(Run.pure_eq_some.1 hafter).1, List.append_nil]
      exact Or.inr ⟨_, _, htext, rfl⟩
  · obtain ⟨inner, answer, hrun, rfl, -⟩ := Formatter.textFor_eq_some.1 h
    obtain ⟨hnever, hpropagates⟩ := hr formatter rfl
    obtain ⟨honce, hnothing⟩ :=
      Script.calls_run (hnever c.doc visit) (hpropagates c.doc visit) hrun
    refine ⟨Event.calls inner, rfl, honce, ?_⟩
    rintro other hother
    cases hother
    exact hnothing

/-- Further rules make their own calls in their order, up to the one that fails. -/
theorem calls_applyRules {rules : List Rule}
    (hr : ∀ rule ∈ rules, ∀ formatter, rule.formatter? = some formatter → formatter.NeverConverts)
    {text : String} (h : c.applyRules textOf visit rules text = some (events, result)) :
    Event.calls events <+: (rules.filterMap Rule.formatter?).map visit.callOf := by
  induction rules generalizing text events with
  | nil =>
    rw [(Run.pure_eq_some.1 h).1]
    exact List.nil_prefix
  | cons rule rules ih =>
    rw [map_callOf_filterMap_cons]
    have hfirst := hr rule List.mem_cons_self
    rcases Run.bind_eq_some.1 h with ⟨error, hrun, -⟩ | ⟨before, changed, after, hrun, hrest, rfl⟩
    · rw [calls_applyRule_given hfirst hrun]
      exact List.prefix_append _ _
    · rw [Event.calls_append, calls_applyRule_given hfirst hrun]
      refine (List.prefix_append_right_inj _).2 ?_
      exact ih (fun rule hm => hr rule (List.mem_cons_of_mem _ hm)) hrest

/-- The calls made for an element: its own formatters in their order, up to one that fails, and
behind the first of them what is called for the content, if that is read. -/
theorem exists_calls_resolve (hn : c.registry.NeverConverts) (hp : c.registry.Propagates)
    (h : c.resolve textOf visit = some (events, result)) :
    ∃ first inner rest, Event.calls events = first ++ inner ++ rest ∧
      first ++ rest <+: (c.formattersFor visit.node).map visit.callOf ∧
      (textOf visit.node).ReadAtMostOnce inner ∧
      ∀ formatter, c.firstFormatter? visit.node = some formatter →
        (formatter.script c.doc visit).ReadsNothing → inner = [] := by
  unfold resolve at h
  unfold formattersFor firstFormatter?
  cases hrules : c.rulesFor visit.node with
  | nil =>
    simp only [hrules, applyFallback] at h
    cases hf : c.registry.fallback with
    | none =>
      simp only [hf] at h
      exact ⟨[], Event.calls events, [], (List.append_nil _).symm, List.nil_prefix,
        Or.inr ⟨events, result, h, rfl⟩, fun formatter hnone => by cases hnone⟩
    | some formatter =>
      simp only [hf] at h
      have hmem := Registry.mem_formatters_of_fallback hf
      obtain ⟨inner, answer, hrun, rfl, -⟩ := Formatter.textFor_eq_some.1 h
      obtain ⟨honce, hnothing⟩ :=
        Script.calls_run (hn formatter hmem c.doc visit) (hp formatter hmem c.doc visit) hrun
      refine ⟨[visit.callOf formatter], Event.calls inner, [], (List.append_nil _).symm,
        List.prefix_rfl, honce, ?_⟩
      rintro other hother
      cases hother
      exact hnothing
  | cons first rules =>
    simp only [hrules] at h
    have hr : ∀ rule ∈ first :: rules, ∀ formatter, rule.formatter? = some formatter →
        formatter.NeverConverts ∧ formatter.Propagates := by
      intro rule hm formatter hformatter
      have hmem := mem_formatters_of_mem_rulesFor (hrules ▸ hm) hformatter
      exact ⟨hn formatter hmem, hp formatter hmem⟩
    have hfirst := hr first List.mem_cons_self
    simp only [map_callOf_filterMap_cons]
    rcases Run.bind_eq_some.1 h with ⟨error, hrun, -⟩ | ⟨before, text, after, hrun, hrest, rfl⟩
    · obtain ⟨inner, hcalls, honce, hnothing⟩ := exists_calls_applyRule hfirst hrun
      refine ⟨callsOf visit first, inner, [], ?_, ?_, honce, hnothing⟩
      · rw [hcalls, List.append_nil]
      · rw [List.append_nil]
        exact List.prefix_append _ _
    · obtain ⟨inner, hcalls, honce, hnothing⟩ := exists_calls_applyRule hfirst hrun
      refine ⟨callsOf visit first, inner, Event.calls after, ?_, ?_, honce, hnothing⟩
      · rw [Event.calls_append, hcalls]
      · refine (List.prefix_append_right_inj _).2 (calls_applyRules (fun rule hm => ?_) hrest)
        exact fun formatter hf => (hr rule (List.mem_cons_of_mem _ hm) formatter hf).1

/-! ## Parts of a document -/

/-- The formatter that an element goes to first does not ask for the content of the element. -/
def SkipsContent (c : Conversion) (node : Nat) : Prop :=
  ∃ formatter, c.firstFormatter? node = some formatter ∧
    ∀ tag dataset depth, c.doc.content? node = some (.element tag dataset) →
      (formatter.script c.doc ⟨node, tag, dataset, depth⟩).ReadsNothing

/-- The calls made for the nodes of a part of a document: each is for such a node, those for one
node are of its formatters in their order, and none is for a node below one that goes first to a
formatter which does not ask for the content. -/
structure Orderly (c : Conversion) (part : Nat → Prop) (calls : List Call) : Prop where
  inside : ∀ call ∈ calls, part call.node
  inOrder : ∀ node, (calls.filter (·.node = node)).map Call.label <+:
    (c.formattersFor node).map Formatter.label
  skipped : ∀ node, part node → c.SkipsContent node → ∀ call ∈ calls, ¬c.doc.Below node call.node

variable {part other : Nat → Prop} {calls later : List Call}

theorem orderly_nil (part : Nat → Prop) : c.Orderly part [] where
  inside _ hm := absurd hm List.not_mem_nil
  inOrder _ := List.nil_prefix
  skipped _ _ _ _ hm := absurd hm List.not_mem_nil

theorem Orderly.congr (h : c.Orderly part calls) (he : ∀ node, part node ↔ other node) :
    c.Orderly other calls := by
  obtain rfl : part = other := funext fun node => propext (he node)
  exact h

/-- There are no calls for nodes outside. -/
theorem Orderly.filter_eq_nil (h : c.Orderly part calls) {node : Nat} (hn : ¬part node) :
    calls.filter (·.node = node) = [] := by
  refine List.filter_eq_nil_iff.2 fun call hm hnode => hn ?_
  rw [← of_decide_eq_true hnode]
  exact h.inside call hm

/-- The calls for one part may be followed by those for another, if the parts have no node in common
and each holds what lies below its nodes. -/
theorem Orderly.append (h₁ : c.Orderly part calls) (h₂ : c.Orderly other later)
    (hdisjoint : ∀ node, part node → ¬other node)
    (hpart : ∀ {above below}, part above → c.doc.Below above below → part below)
    (hother : ∀ {above below}, other above → c.doc.Below above below → other below) :
    c.Orderly (fun node => part node ∨ other node) (calls ++ later) where
  inside := by
    intro call hm
    rcases List.mem_append.1 hm with hm | hm
    · exact Or.inl (h₁.inside call hm)
    · exact Or.inr (h₂.inside call hm)
  inOrder := by
    intro node
    rw [List.filter_append, List.map_append]
    by_cases hn : part node
    · rw [h₂.filter_eq_nil (hdisjoint node hn), List.map_nil, List.append_nil]
      exact h₁.inOrder node
    · rw [h₁.filter_eq_nil hn, List.map_nil, List.nil_append]
      exact h₂.inOrder node
  skipped := by
    intro node hn hskips call hm hbelow
    rcases List.mem_append.1 hm with hm | hm <;> rcases hn with hn | hn
    · exact h₁.skipped node hn hskips call hm hbelow
    · exact hdisjoint _ (h₁.inside call hm) (hother hn hbelow)
    · exact hdisjoint _ (hpart hn hbelow) (h₂.inside call hm)
    · exact h₂.skipped node hn hskips call hm hbelow

/-- The calls for an element and what lies below it, from those for what lies below it. -/
theorem Orderly.around (hd : c.doc.Descends) {first inner rest : List Call}
    (hinner : c.Orderly (c.doc.Below visit.node) inner)
    (hown : first ++ rest <+: (c.formattersFor visit.node).map visit.callOf)
    (hskips : c.SkipsContent visit.node → inner = []) :
    c.Orderly (c.doc.AtOrBelow visit.node) (first ++ inner ++ rest) := by
  have hat : ∀ call ∈ first ++ rest, call.node = visit.node := by
    intro call hm
    obtain ⟨formatter, -, rfl⟩ := List.mem_map.1 (hown.subset hm)
    rfl
  have hirrefl : ¬c.doc.Below visit.node visit.node := fun h => Nat.lt_irrefl _ (hd.lt_of_below h)
  have hmem : ∀ call ∈ first ++ inner ++ rest, call ∈ inner ∨ call.node = visit.node := by
    intro call hm
    rcases List.mem_append.1 hm with hm | hm
    · rcases List.mem_append.1 hm with hm | hm
      · exact Or.inr (hat call (List.mem_append_left _ hm))
      · exact Or.inl hm
    · exact Or.inr (hat call (List.mem_append_right _ hm))
  refine ⟨fun call hm => ?_, fun node => ?_, fun node hn hs call hm hbelow => ?_⟩
  · rcases hmem call hm with hm | he
    · exact (hinner.inside call hm).to_reflTransGen
    · rw [he]
      exact Relation.ReflTransGen.refl
  · rw [List.filter_append, List.filter_append]
    by_cases hn : node = visit.node
    · subst hn
      have hall : ∀ {own : List Call}, (∀ call ∈ own, call.node = visit.node) →
          own.filter (·.node = visit.node) = own := by
        intro own ho
        exact List.filter_eq_self.2 fun call hm => decide_eq_true (ho call hm)
      rw [hinner.filter_eq_nil hirrefl, List.append_nil,
        hall fun call hm => hat call (List.mem_append_left _ hm),
        hall fun call hm => hat call (List.mem_append_right _ hm)]
      have hlabels := hown.map Call.label
      rw [List.map_map] at hlabels
      exact hlabels
    · have hnone : ∀ {own : List Call}, (∀ call ∈ own, call.node = visit.node) →
          own.filter (·.node = node) = [] := by
        intro own ho
        refine List.filter_eq_nil_iff.2 fun call hm he => hn ?_
        rw [← of_decide_eq_true he, ho call hm]
      rw [hnone fun call hm => hat call (List.mem_append_left _ hm),
        hnone fun call hm => hat call (List.mem_append_right _ hm), List.nil_append,
        List.append_nil]
      exact hinner.inOrder node
  · rcases hmem call hm with hm | he
    · rcases Relation.reflTransGen_iff_eq_or_transGen.1 hn with rfl | hn
      · rw [hskips hs] at hm
        cases hm
      · exact hinner.skipped node hn hs call hm hbelow
    · -- What lies at or below the element has no smaller number than it.
      have hlt := hd.lt_of_below hbelow
      have hle := hd.le_of_atOrBelow hn
      omega

/-! ## Whole trees -/

/-- The calls made for a child and what lies below it. -/
theorem orderly_contribution (hn : c.registry.NeverConverts) (hp : c.registry.Propagates)
    (hd : c.doc.Descends) {textAt : Nat → Nat → Run String} {depth node : Nat}
    (ht : ∀ {events result}, textAt (depth + 1) node = some (events, result) →
      c.Orderly (c.doc.Below node) (Event.calls events))
    (h : c.contribution textAt depth node = some (events, result)) :
    c.Orderly (c.doc.AtOrBelow node) (Event.calls events) := by
  rcases c.contribution_cases textAt depth node with
    ⟨text, hcontributes⟩ | ⟨tag, dataset, hcontent, -, hcontributes⟩
  · rw [hcontributes] at h
    rw [(Run.pure_eq_some.1 h).1]
    exact orderly_nil _
  · rw [hcontributes] at h
    obtain ⟨first, inner, rest, hcalls, hown, honce, hnothing⟩ := exists_calls_resolve hn hp h
    rw [hcalls]
    have hinner : c.Orderly (c.doc.Below node) inner := by
      rcases honce with rfl | ⟨along, last, htext, rfl⟩
      · exact orderly_nil _
      · exact ht htext
    refine hinner.around hd hown ?_
    rintro ⟨formatter, hfirst, hreads⟩
    exact hnothing formatter hfirst (hreads tag dataset (depth + 1) hcontent)

/-- The calls made for some children of a node and what lies below them, one child after another. -/
theorem orderly_gather (hd : c.doc.IsTree) {contribute : Nat → Run String} {node : Nat}
    {children : List Nat} (hnodup : children.Nodup)
    (hlists : ∀ child ∈ children, c.doc.Lists node child)
    (hc : ∀ child ∈ children, ∀ {events result}, contribute child = some (events, result) →
      c.Orderly (c.doc.AtOrBelow child) (Event.calls events))
    (h : Run.gather (children.map contribute) = some (events, result)) :
    c.Orderly (fun below => ∃ child ∈ children, c.doc.AtOrBelow child below)
      (Event.calls events) := by
  induction children generalizing events result with
  | nil =>
    rw [(Run.pure_eq_some.1 h).1]
    exact orderly_nil _
  | cons child children ih =>
    obtain ⟨hfresh, hnodup⟩ := List.nodup_cons.1 hnodup
    have hfirst : ∀ {events result}, contribute child = some (events, result) →
        c.Orderly (c.doc.AtOrBelow child) (Event.calls events) := hc child List.mem_cons_self
    have hrest : ∀ {events result}, Run.gather (children.map contribute) = some (events, result) →
        c.Orderly (fun below => ∃ child ∈ children, c.doc.AtOrBelow child below)
          (Event.calls events) :=
      ih hnodup (fun child hm => hlists child (List.mem_cons_of_mem _ hm))
        (fun child hm => hc child (List.mem_cons_of_mem _ hm))
    -- No node lies below the first child and below another one.
    have hjoin : ∀ {calls later : List Call}, c.Orderly (c.doc.AtOrBelow child) calls →
        c.Orderly (fun below => ∃ child ∈ children, c.doc.AtOrBelow child below) later →
        c.Orderly (fun below => ∃ sibling ∈ child :: children, c.doc.AtOrBelow sibling below)
          (calls ++ later) := by
      intro calls later h₁ h₂
      refine (h₁.append h₂ ?_ ?_ ?_).congr fun below => ?_
      · rintro below hchild ⟨sibling, hm, hsibling⟩
        have hsame := hd.eq_of_atOrBelow (hlists child List.mem_cons_self)
          (hlists sibling (List.mem_cons_of_mem _ hm)) hchild hsibling
        exact hfresh (hsame ▸ hm)
      · exact fun h hb => h.trans hb.to_reflTransGen
      · rintro above below ⟨sibling, hm, h⟩ hb
        exact ⟨sibling, hm, h.trans hb.to_reflTransGen⟩
      · simp only [List.mem_cons, exists_eq_or_imp]
    rcases Run.bind_eq_some.1 h with ⟨error, hrun, -⟩ | ⟨before, text, after, hrun, hlater, rfl⟩
    · have hall := hjoin (hfirst hrun) (orderly_nil _)
      rwa [List.append_nil] at hall
    · rw [Event.calls_append]
      refine hjoin (hfirst hrun) ?_
      rcases Run.bind_eq_some.1 hlater with
        ⟨error, hgather, -⟩ | ⟨between, last, behind, hgather, hbehind, rfl⟩
      · exact hrest hgather
      · rw [(Run.pure_eq_some.1 hbehind).1, List.append_nil]
        exact hrest hgather

/-- The calls made for what lies below a node. -/
theorem orderly_textOf (hn : c.registry.NeverConverts) (hp : c.registry.Propagates)
    (hd : c.doc.IsTree) {bound depth node : Nat}
    (h : c.textOf bound depth node = some (events, result)) :
    c.Orderly (c.doc.Below node) (Event.calls events) := by
  induction bound generalizing depth node events result with
  | zero => cases h
  | succ bound ih =>
    have hall := orderly_gather hd (hd.nodup node) (fun child hm => hm)
      (fun child hm => orderly_contribution hn hp hd.descends ih) h
    refine hall.congr fun below => ?_
    show (∃ child, c.doc.Lists node child ∧ c.doc.AtOrBelow child below) ↔ c.doc.Below node below
    exact Relation.TransGen.head'_iff.symm

end Conversion

/-! ## Engines -/

namespace Engine

/-- On a tree, as every document is that was built, a conversion with formatters that never ask for
the text of a node and make the failures that they are given their own ends. For each element it
calls the formatters of the rules that select the element, or the fallback if none does, in their
order and each once at most; and it calls none for what lies below an element whose first formatter
does not ask for the content. -/
theorem convertNode_calls_in_order (engine : Engine) (hn : engine.registry.NeverConverts)
    (hp : engine.registry.Propagates) (doc : Document) (hd : doc.IsTree) (root : Nat)
    (options : ConversionOptions) :
    let c := engine.conversion doc options.normalizeWhitespace
    ∃ events result, engine.convertNode doc root options = some (events, result) ∧
      (∀ node, ((Event.calls events).filter (·.node = node)).map Call.label <+:
        (c.formattersFor node).map Formatter.label) ∧
      ∀ node, doc.Below root node → c.SkipsContent node →
        ∀ call ∈ Event.calls events, ¬doc.Below node call.node := by
  intro c
  obtain ⟨events, result, h⟩ := ends_convertNode hn.convertsDownward hd.descends root options
  have horderly : c.Orderly (doc.Below root) (Event.calls events) := by
    rcases Run.bind_eq_some.1 h with ⟨error, hraw, -⟩ | ⟨before, raw, after, hraw, hafter, rfl⟩
    · exact Conversion.orderly_textOf (c := c) hn hp hd hraw
    · rw [(Run.pure_eq_some.1 hafter).1, List.append_nil]
      exact Conversion.orderly_textOf (c := c) hn hp hd hraw
  exact ⟨events, result, h, horderly.inOrder, horderly.skipped⟩

/-- A paragraph goes first to a formatter that does not ask for its content, so the emphasis in it
is not converted, though the second formatter of the paragraph reads twice. The quotation behind it
goes to that formatter alone, and the emphasis there to the fallback, once. -/
theorem convertNode_calls_in_order_below_skipped :
    let edits : List Document.Edit :=
      [.element 1 "p" .empty, .element 2 "em" .empty, .element 1 "q" .empty,
        .element 4 "em" .empty]
    let skipping := Formatter.ofPieces "skipping" [.literal "-"]
    let reading := Formatter.ofPieces "reading" [.content, .content]
    let other := Formatter.ofPieces "other" [.content]
    let engine : Engine :=
      ⟨.byTag, [⟨"p", .format skipping⟩, ⟨"p", .format reading⟩, ⟨"q", .format reading⟩], .empty,
        [], some other⟩
    let doc := Document.build edits
    let c := engine.conversion doc true
    engine.registry.NeverConverts ∧ engine.registry.Propagates ∧ doc.IsTree ∧ c.SkipsContent 2 ∧
      Event.calls (engine.convertNode doc 1 .standard).events =
        [⟨"skipping", 2, "p", 1⟩, ⟨"reading", 2, "p", 1⟩, ⟨"reading", 4, "q", 1⟩,
          ⟨"other", 5, "em", 2⟩] ∧
      ∃ events result, engine.convertNode doc 1 .standard = some (events, result) ∧
        ((Event.calls events).filter (·.node = 2)).map Call.label <+:
          (c.formattersFor 2).map Formatter.label ∧
        ∀ call ∈ Event.calls events, ¬doc.Below 2 call.node := by
  intro edits skipping reading other engine doc c
  have hreading : reading.NeverConverts ∧ reading.Propagates := by
    refine ⟨fun doc visit => ?_, fun doc visit => ?_⟩
    · rintro (error | first)
      · trivial
      · rintro (error | second) <;> trivial
    · exact ⟨fun error => rfl, fun first => ⟨fun error => rfl, fun second => trivial⟩⟩
  have hother : other.NeverConverts ∧ other.Propagates := by
    refine ⟨fun doc visit => ?_, fun doc visit => ?_⟩
    · rintro (error | text) <;> trivial
    · exact ⟨fun error => rfl, fun text => trivial⟩
  have hall : ∀ formatter ∈ engine.registry.formatters,
      formatter.NeverConverts ∧ formatter.Propagates := by
    intro formatter hm
    have hcases : formatter = skipping ∨ formatter = reading ∨ formatter = other := by
      simpa [engine, Registry.formatters, Rule.formatter?, or_assoc] using hm
    rcases hcases with rfl | rfl | rfl
    · exact ⟨fun doc visit => trivial, fun doc visit => trivial⟩
    · exact hreading
    · exact hother
  have hn : engine.registry.NeverConverts := fun formatter hm => (hall formatter hm).1
  have hp : engine.registry.Propagates := fun formatter hm => (hall formatter hm).2
  have hd : doc.IsTree := Document.isTree_build edits
  have hskips : c.SkipsContent 2 := ⟨skipping, rfl, fun tag dataset depth _ => trivial⟩
  have hbelow : doc.Below 1 2 := Relation.TransGen.single (by decide +kernel : 2 ∈ doc.children 1)
  obtain ⟨events, result, hrun, horder, hskipped⟩ :=
    convertNode_calls_in_order engine hn hp doc hd 1 .standard
  exact ⟨hn, hp, hd, hskips, by decide +kernel, events, result, hrun, horder 2,
    hskipped 2 hbelow hskips⟩

end Engine

end TreeText
