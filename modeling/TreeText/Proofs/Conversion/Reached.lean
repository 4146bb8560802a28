/-
# However a node is reached

A formatter asks for the text of a node at the depth of its own element, and from there the depth
goes on to all elements below the node. Otherwise nothing is handed down: what is ignored, which
rules select an element and whether a text is preformatted is looked up in the document, also above
the node from which a text is computed. So where formatters do not look at the depth, the text of a
node ends in the same way whoever asks for it, and as the conversion of the node does before
placeholders and trimming.

* `Formatter.IgnoresDepth` is the demand on formatters.
* `Run.EndsAlike` compares the ends of two runs, and `Script.endsAlike_run` those of a script.
* `Conversion.endsAlike_textOf` says that the text of a node ends in the same way at all depths.
* `Engine.convertNode_of_ignoresDepth` compares the texts with conversions.
-/
import TreeText.Proofs.Conversion.Finish
import TreeText.Proofs.Conversion.Hearings

namespace TreeText

/-! ## Formatters that do not look at the depth -/

/-- A formatter that does the same for an element at every depth. -/
def Formatter.IgnoresDepth (formatter : Formatter) : Prop :=
  ∀ doc visit depth, formatter.script doc { visit with depth } = formatter.script doc visit

/-- A registry whose formatters do not look at the depth. -/
def Registry.IgnoresDepth (registry : Registry) : Prop :=
  ∀ formatter ∈ registry.formatters, formatter.IgnoresDepth

/-! ## Runs that end in the same way -/

namespace Run

variable {α β : Type} {run₁ run₂ : Run α}

/-- Two runs that end in the same way, or of which neither ends. What happens along the way may
differ. -/
def EndsAlike (run₁ run₂ : Run α) : Prop :=
  run₁.result? = run₂.result?

/-- Runs of which the second goes on in the same way behind each value end in the same way. -/
theorem EndsAlike.bind {next₁ next₂ : α → Run β} (h : EndsAlike run₁ run₂)
    (hnext : ∀ value, EndsAlike (next₁ value) (next₂ value)) :
    EndsAlike (run₁ >>= next₁) (run₂ >>= next₂) := by
  unfold EndsAlike at h ⊢
  rw [result?_bind, result?_bind, h]
  rcases run₂.result? with _ | error | value
  · rfl
  · rfl
  · exact hnext value

/-- Turning failures into values keeps the ends alike. -/
theorem EndsAlike.attempt (h : EndsAlike run₁ run₂) : EndsAlike run₁.attempt run₂.attempt := by
  unfold EndsAlike at h ⊢
  rw [result?_attempt, result?_attempt, h]

/-- One event after another leaves the end to what follows. -/
theorem EndsAlike.note_bind {event₁ event₂ : Event} {next₁ next₂ : Unit → Run β}
    (h : EndsAlike (next₁ ()) (next₂ ())) :
    EndsAlike (note event₁ >>= next₁) (note event₂ >>= next₂) :=
  EndsAlike.bind rfl fun _ => h

/-- Runs that end in the same way are closed under composition. -/
theorem congruence_endsAlike : Congruence EndsAlike where
  pure _ := rfl
  bind h hnext := h.bind hnext

end Run

/-- A script ends in the same way if the texts do that it may ask for. -/
theorem Script.endsAlike_run {textOf₁ textOf₂ : Nat → Run String}
    (ht : ∀ node, (textOf₁ node).EndsAlike (textOf₂ node)) (script : Script) (self : Nat)
    (given : Option String) :
    (script.run textOf₁ self given).EndsAlike (script.run textOf₂ self given) := by
  -- For any content, since a text that is computed for a question is kept for the next.
  induction script generalizing given with
  | done answer =>
    cases given with
    | none => exact Run.EndsAlike.note_bind rfl
    | some text => exact Run.EndsAlike.note_bind rfl
  | content next ih =>
    cases given with
    | some text => exact Run.EndsAlike.note_bind (ih (.ok text) (some text))
    | none =>
      rw [run, run]
      refine (ht self).attempt.bind fun taken => ?_
      cases taken with
      | ok text => exact Run.EndsAlike.note_bind (ih (.ok text) (some text))
      | error error => exact Run.EndsAlike.note_bind (ih (.error error) none)
  | convert target next ih =>
    have htarget := (ht (target.getD self)).attempt
    cases given with
    | none => exact htarget.bind fun taken => Run.EndsAlike.note_bind (ih taken none)
    | some text => exact htarget.bind fun taken => Run.EndsAlike.note_bind (ih taken (some text))

/-- A formatter that does not look at the depth makes of an element at two depths what ends in the
same way, if the texts do that it may ask for. -/
theorem Formatter.IgnoresDepth.endsAlike_textFor {formatter : Formatter}
    (hf : formatter.IgnoresDepth) {textOf₁ textOf₂ : Nat → Run String}
    (ht : ∀ node, (textOf₁ node).EndsAlike (textOf₂ node)) (doc : Document) (visit : Visit)
    (depth : Nat) (given : Option String) (unanswered : ConversionError) :
    (formatter.textFor doc textOf₁ { visit with depth } given unanswered).EndsAlike
      (formatter.textFor doc textOf₂ visit given unanswered) := by
  have hcall : (formatter.call doc textOf₁ { visit with depth } given).EndsAlike
      (formatter.call doc textOf₂ visit given) := by
    refine Run.EndsAlike.note_bind ?_
    rw [hf doc visit depth]
    exact Script.endsAlike_run ht (formatter.script doc visit) visit.node given
  refine hcall.bind fun answer => ?_
  cases answer with
  | some text => rfl
  | none => rfl

/-! ## Texts at all depths -/

namespace Conversion

variable {c : Conversion}

/-- What a child contributes at two depths ends in the same way, if the texts do that are nested in
it. -/
theorem endsAlike_contribution (h : c.registry.IgnoresDepth)
    {textAt₁ textAt₂ : Nat → Nat → Run String} {depth₁ depth₂ : Nat}
    (ht : ∀ node, (textAt₁ (depth₁ + 1) node).EndsAlike (textAt₂ (depth₂ + 1) node))
    (child : Nat) :
    (c.contribution textAt₁ depth₁ child).EndsAlike (c.contribution textAt₂ depth₂ child) := by
  unfold contribution
  rcases c.doc.content? child with _ | ⟨tag, dataset⟩ | text | _ <;> simp only
  · rfl
  · by_cases hi : c.isIgnored child = true
    · rw [if_pos hi, if_pos hi]
      rfl
    · rw [if_neg hi, if_neg hi]
      refine congruence_resolve Run.congruence_endsAlike (ht child) rfl rfl rfl rfl ?_
      intro formatter unanswered given hmay
      have hf : formatter.IgnoresDepth := h formatter hmay.mem_formatters
      exact hf.endsAlike_textFor ht c.doc ⟨child, tag, dataset, depth₂ + 1⟩ (depth₁ + 1) given
        unanswered
  · rfl
  · rfl

/-- The text of a node ends in the same way at all depths, within any bound on nesting. -/
theorem endsAlike_textOf (h : c.registry.IgnoresDepth) (bound depth₁ depth₂ node : Nat) :
    (c.textOf bound depth₁ node).EndsAlike (c.textOf bound depth₂ node) := by
  induction bound generalizing depth₁ depth₂ node with
  | zero => rfl
  | succ bound ih =>
    refine Run.congruence_endsAlike.gather fun child _ => ?_
    exact endsAlike_contribution h (ih (depth₁ + 1) (depth₂ + 1)) child

/-- An element that is not ignored and goes neither to a rule nor to a fallback passes its text on.
-/
theorem contribution_eq_text {textAt : Nat → Nat → Run String} {depth node : Nat}
    (helement : c.doc.isElement node = true) (hi : c.isIgnored node = false)
    (hrules : c.rulesFor node = []) (hfallback : c.registry.fallback = none) :
    c.contribution textAt depth node = textAt (depth + 1) node := by
  unfold contribution
  rcases hcontent : c.doc.content? node with _ | ⟨tag, dataset⟩ | text | _
  · simp [Document.isElement, Document.tag?, hcontent] at helement
  · simp only
    rw [hi, if_neg Bool.false_ne_true, resolve, hrules]
    simp only [applyFallback, hfallback]
  · simp [Document.isElement, Document.tag?, hcontent] at helement
  · simp [Document.isElement, Document.tag?, hcontent] at helement

end Conversion

/-! ## Engines -/

namespace Engine

/-- The engine without placeholders. -/
def withoutPlaceholders (engine : Engine) : Engine :=
  { engine with registry := { engine.registry with placeholders := .empty } }

/-- Without placeholders and trimming, the conversion of a node is its text at depth 0. -/
theorem convertNodeWithin_withoutPlaceholders (engine : Engine) (bound : Nat) (doc : Document)
    (node : Nat) (options : ConversionOptions) :
    engine.withoutPlaceholders.convertNodeWithin bound doc node { options with trim := false } =
      (engine.conversion doc options.normalizeWhitespace).textOf bound 0 node := by
  have hagrees : (engine.withoutPlaceholders.conversion doc options.normalizeWhitespace).Agrees
      (engine.conversion doc options.normalizeWhitespace) :=
    ⟨rfl, rfl, rfl, fun _ _ => rfl, fun _ _ => rfl⟩
  unfold convertNodeWithin
  rw [hagrees.textOf_eq bound]
  -- What is left to be done at the end changes nothing.
  exact Run.bind_pure _

/-- Let the formatters not look at the depth. Then the text of any node, at any depth, ends as the
conversion of the node does by the engine without placeholders, with the same options but for
trimming. Whatever any formatter is given for a node, along a conversion from any root, is how this
conversion ends; and an element that is not ignored and goes neither to a rule nor to a fallback
contributes what its own conversion ends with. If formatters ask for no texts but those of their
elements and of what is below, and numbers grow downward, all these conversions end, and the bound
on nesting makes no difference. -/
theorem convertNode_of_ignoresDepth (engine : Engine) (h : engine.registry.IgnoresDepth)
    (doc : Document) (options : ConversionOptions) :
    let c := engine.conversion doc options.normalizeWhitespace
    let plain := engine.withoutPlaceholders
    let raw := { options with trim := false }
    (∀ bound depth node, (c.textOf bound depth node).result? =
      (plain.convertNodeWithin bound doc node raw).result?) ∧
    (∀ root, ∀ hearing ∈ Event.hearings (engine.convertNode doc root options).events,
      ∀ node taken, .converted node taken ∈ hearing.events →
        (plain.convertNode doc node raw).result? = some taken) ∧
    (∀ node, doc.isElement node = true → c.isIgnored node = false → c.rulesFor node = [] →
      engine.registry.fallback = none →
        ∀ bound depth, (c.contribution (c.textOf bound) depth node).result? =
          (plain.convertNodeWithin bound doc node raw).result?) ∧
    (c.AsksBelow → doc.Descends → ∀ node,
      (engine.convertNode doc node options).Ends ∧ (plain.convertNode doc node raw).Ends ∧
        ∀ bound, nesting doc ≤ bound →
          plain.convertNodeWithin bound doc node raw = plain.convertNode doc node raw) := by
  intro c plain raw
  have htext : ∀ bound depth node, (c.textOf bound depth node).result? =
      (plain.convertNodeWithin bound doc node raw).result? := by
    intro bound depth node
    rw [engine.convertNodeWithin_withoutPlaceholders]
    exact Conversion.endsAlike_textOf h bound depth 0 node
  refine ⟨htext, ?_, ?_, ?_⟩
  · intro root hearing hm node taken htaken
    have hheard : (engine.convertNode doc root options).Heard (c.Hears (c.textOf (nesting doc))) :=
      (c.heard_textOf (nesting doc) 0 root).bind fun _ _ => Run.heard_pure _
    obtain ⟨visit, formatter, given, -, -, -, -, htold⟩ := hheard.of_mem_events hm
    have hasked : (c.textOf (nesting doc) visit.depth node).result? = some taken :=
      htold.tells _ htaken
    exact (htext (nesting doc) visit.depth node).symm.trans hasked
  · intro node helement hi hrules hfallback bound depth
    rw [Conversion.contribution_eq_text helement hi hrules hfallback]
    exact htext bound (depth + 1) node
  · intro hbelow hd node
    have hdown : c.AsksDownward := hbelow.asksDownward hd
    have hroom : doc.size - node < nesting doc := size_sub_lt_nesting doc node
    have hends : (c.textOf (nesting doc) 0 node).Ends := Conversion.ends_textOf hdown hd hroom
    refine ⟨hends.bind fun _ => Run.ends_pure _, ?_, fun bound hbound => ?_⟩
    · rw [convertNode_eq_within, engine.convertNodeWithin_withoutPlaceholders]
      exact hends
    · rw [convertNode_eq_within, engine.convertNodeWithin_withoutPlaceholders,
        engine.convertNodeWithin_withoutPlaceholders]
      exact Conversion.textOf_eq_of_room hdown hd hbound hroom 0

/-- A formatter for lists and paragraphs asks for the text of the first child and for its content.
It is given for the item in a list, at depth 1, what a conversion of the item makes at depth 0,
while the engine itself puts a placeholder in and trims. -/
theorem convertNode_of_ignoresDepth_first_child :
    let edits : List Document.Edit :=
      [.element 1 "ul" .empty, .element 2 "li" .empty, .element 3 "p" .empty, .text 4 "a",
        .element 3 "em" .empty, .text 6 "b "]
    let both : Formatter :=
      ⟨"both", fun doc visit => .convert (doc.children visit.node).head? fun first =>
        .content fun whole => .done (do return some ((← first) ++ "|" ++ (← whole)))⟩
    let engine : Engine :=
      ⟨.byTag, [⟨"ul", .format both⟩, ⟨"p", .format both⟩], .insertAll .empty [⟨"a", "x"⟩], [], none⟩
    let doc := Document.build edits
    let options : ConversionOptions := ⟨false, true, true⟩
    let c := engine.conversion doc options.normalizeWhitespace
    engine.registry.IgnoresDepth ∧ c.AsksBelow ∧
      (engine.convertNode doc 1 options).result? = some (.ok "|xb ||xb") ∧
      ⟨⟨"both", 2, "ul", 1⟩, [.converted 3 (.ok "|ab "), .content (.ok "|ab "),
        .answered (.ok (some "|ab ||ab "))]⟩ ∈
          Event.hearings (engine.convertNode doc 1 options).events ∧
      (engine.withoutPlaceholders.convertNode doc 3 ⟨false, true, false⟩).result? =
        some (.ok "|ab ") ∧
      (c.contribution (c.textOf (nesting doc)) 1 3).result? = some (.ok "|ab ") ∧
      (engine.convertNode doc 4 options).Ends := by
  intro edits both engine doc options c
  have honly : ∀ formatter ∈ engine.registry.formatters, formatter = both := by
    intro formatter hm
    have hall : engine.registry.formatters = [both, both] := rfl
    rw [hall, List.mem_cons, List.mem_singleton, or_self] at hm
    exact hm
  have hdepth : engine.registry.IgnoresDepth := by
    intro formatter hm
    obtain rfl : formatter = both := honly formatter hm
    exact fun doc visit depth => rfl
  have hbelow : c.AsksBelow := by
    intro visit _ formatter hm
    obtain rfl : formatter = both :=
      honly formatter (Conversion.mem_formatters_of_mem_formattersFor hm)
    refine ⟨?_, fun _ _ => trivial⟩
    show doc.AtOrBelow visit.node ((doc.children visit.node).head?.getD visit.node)
    cases hfirst : (doc.children visit.node).head? with
    | none => exact Relation.ReflTransGen.refl
    | some child => exact Relation.ReflTransGen.single (List.mem_of_head? hfirst)
  have hheard : ⟨⟨"both", 2, "ul", 1⟩, [.converted 3 (.ok "|ab "), .content (.ok "|ab "),
      .answered (.ok (some "|ab ||ab "))]⟩ ∈
        Event.hearings (engine.convertNode doc 1 options).events := by
    decide +kernel
  obtain ⟨-, hgiven, hcontributes, hends⟩ := convertNode_of_ignoresDepth engine hdepth doc options
  have hitem : (engine.withoutPlaceholders.convertNode doc 3 ⟨false, true, false⟩).result? =
      some (.ok "|ab ") :=
    hgiven 1 _ hheard 3 (.ok "|ab ") List.mem_cons_self
  have hrules : c.rulesFor 3 = [] := List.filter_eq_nil_iff.2 (by decide +kernel)
  have hcontributed : (c.contribution (c.textOf (nesting doc)) 1 3).result? = some (.ok "|ab ") :=
    (hcontributes 3 (by decide +kernel) (by decide +kernel) hrules rfl (nesting doc) 1).trans hitem
  have hdescends : doc.Descends := (Document.isTree_build edits).descends
  exact ⟨hdepth, hbelow, by decide +kernel, hheard, hitem, hcontributed,
    (hends hbelow hdescends 4).1⟩

end Engine

end TreeText
