/-
# Conversions stop at the first failure

Formatters that make the failures that they are given their own let no failure disappear. Then a
conversion ends with a text exactly if no formatter has failed on its own account; otherwise the
first own failure ends it: nothing is called any more, and what the failure causes comes out
unchanged. An answer that is missing is such a failure, and never an empty text.

* `Conversion.Causes` says what an answer causes.
* `Conversion.stopsAtFailure_textOf` says that every text stops at the first failure, whatever the
  bound, and `Engine.convertNodeWithin_stops_at_first_failure` says so of conversions.
-/
import TreeText.Formatter.Piece
import TreeText.Proofs.Conversion.Bound
import TreeText.Proofs.Run.Failure

namespace TreeText

namespace Conversion

/-! ## Causes -/

/-- What the answer to a call causes: a failure causes itself; if the formatter of a rule answers
with nothing, that is a failure of the rule, and if the fallback does so, one of the fallback. -/
inductive Causes (c : Conversion) (call : Call) : Answer → ConversionError → Prop where
  | failure (error : ConversionError) : Causes c call (.error error) error
  | rule {rule : Rule} {formatter : Formatter} (selects : rule ∈ c.rulesFor call.node)
      (calls : rule.formatter? = some formatter) (seen : formatter.label = call.label) :
      Causes c call (.ok none) (.ruleWithoutAnswer rule.selector)
  | fallback {formatter : Formatter} {tag : String} (unselected : c.rulesFor call.node = [])
      (calls : c.registry.fallback = some formatter) (seen : formatter.label = call.label)
      (tagged : c.doc.tag? call.node = some tag) :
      Causes c call (.ok none) (.fallbackWithoutAnswer tag)

/-- An answer that causes a failure, behind events that show none, is an own failure. -/
theorem Causes.ownFailure {c : Conversion} {call : Call} {answer : Answer}
    {error : ConversionError} (h : c.Causes call answer error) {before : List Event}
    (hb : ∀ event ∈ before, event.IsSmooth) : Event.OwnFailure before answer := by
  cases h with
  | failure => exact fun event hlast => (hb event (List.mem_of_getLast? hlast)).not_gives error
  | rule => rfl
  | fallback => rfl

/-! ## One element -/

variable {c : Conversion} {textOf : Nat → Run String} {visit : Visit}

/-- A missing answer to a call causes the failure that stands for it. -/
theorem MayCall.causes {formatter : Formatter} {unanswered : ConversionError}
    (h : c.MayCall visit formatter unanswered) (htag : c.doc.tag? visit.node = some visit.tag) :
    c.Causes (visit.callOf formatter) (.ok none) unanswered := by
  cases h with
  | rule selects calls => exact .rule selects calls rfl
  | fallback unselected calls => exact .fallback unselected calls rfl htag

/-- Runs that stop at the first failure are closed under composition. -/
theorem closed_stopsAtFailure : Run.Closed fun run => run.StopsAtFailure c.Causes where
  pure := Run.stopsAtFailure_pure
  bind h hnext := h.bind hnext

/-- What becomes of an element stops at the first failure. -/
theorem stopsAtFailure_resolve (hc : c.registry.Propagates)
    (ht : ∀ node, (textOf node).StopsAtFailure c.Causes)
    (htag : c.doc.tag? visit.node = some visit.tag) :
    (c.resolve textOf visit).StopsAtFailure c.Causes :=
  closed_resolve closed_stopsAtFailure (ht visit.node) fun formatter _ given hmay =>
    Formatter.stopsAtFailure_textFor (hc formatter hmay.mem_formatters) ht Causes.failure
      (hmay.causes htag) c.doc given

/-! ## Whole trees -/

/-- The text of a node stops at the first failure, whatever the bound on its nesting. -/
theorem stopsAtFailure_textOf (hc : c.registry.Propagates) (bound depth node : Nat) :
    (c.textOf bound depth node).StopsAtFailure c.Causes := by
  induction bound generalizing depth node with
  | zero => exact Run.stopsAtFailure_tooDeep
  | succ bound ih =>
    refine closed_stopsAtFailure.gather fun child _ => ?_
    rcases c.contribution_cases (c.textOf bound) depth child with
      ⟨text, hcontributes⟩ | ⟨tag, dataset, hcontent, -, hcontributes⟩
    · rw [hcontributes]
      exact Run.stopsAtFailure_pure text
    · rw [hcontributes]
      exact stopsAtFailure_resolve hc (ih (depth + 1)) (by simp [Document.tag?, hcontent])

end Conversion

/-! ## Engines -/

namespace Engine

/-- A conversion that ends, however deeply it nests texts, gives a text exactly if no formatter
fails on its own account. Otherwise it fails with what the first own failure causes: nothing has
failed before it, its cause is the answer to the latest call, and behind it no formatter is called
and the failure is only handed on. -/
theorem convertNodeWithin_stops_at_first_failure (engine : Engine)
    (he : engine.registry.Propagates) (bound : Nat) (doc : Document) (root : Nat)
    (options : ConversionOptions) (events : List Event) (result : Except ConversionError String)
    (h : engine.convertNodeWithin bound doc root options = some (events, result)) :
    ((∃ text, result = .ok text) ↔
      ∀ before answer after, events = before ++ .answered answer :: after →
        ¬Event.OwnFailure before answer) ∧
    ∀ error, result = .error error →
      ∃ before answer after call others,
        events = before ++ .answered answer :: after ∧
        Event.OwnFailure before answer ∧
        (∀ event ∈ before, event.IsSmooth) ∧
        Event.pendingAfter [] before = call :: others ∧
        (engine.conversion doc options.normalizeWhitespace).Causes call answer error ∧
        Event.calls after = [] ∧
        ∀ event ∈ after, event.HandsOn error := by
  have hstops := (Conversion.stopsAtFailure_textOf
    (c := engine.conversion doc options.normalizeWhitespace) he bound 0 root).bind fun raw =>
      Run.stopsAtFailure_pure (engine.finish options raw)
  -- A failure has a first own failure as its cause.
  have hfirst : ∀ error, result = .error error → ∃ before answer after call others,
      events = before ++ .answered answer :: after ∧ Event.OwnFailure before answer ∧
      (∀ event ∈ before, event.IsSmooth) ∧ Event.pendingAfter [] before = call :: others ∧
      (engine.conversion doc options.normalizeWhitespace).Causes call answer error ∧
      Event.calls after = [] ∧ ∀ event ∈ after, event.HandsOn error := by
    rintro error rfl
    obtain ⟨before, answer, after, call, others, he, hsmooth, hpending, hcause, hafter⟩ :=
      hstops.breaks h
    refine ⟨before, answer, after, call, others, he, hcause.ownFailure hsmooth, hsmooth, ?_, hcause,
      Event.calls_of_handsOn hafter, hafter⟩
    rw [hpending, List.append_nil]
  refine ⟨⟨?_, fun hnone => ?_⟩, hfirst⟩
  · rintro ⟨text, rfl⟩ before answer after rfl hown
    -- Along a conversion that gives a text, each answer is a text.
    obtain ⟨own, rfl⟩ : ∃ own, answer = .ok (some own) :=
      (hstops.calm h).smooth (.answered answer) (by simp)
    cases hown
  · cases result with
    | ok text => exact ⟨text, rfl⟩
    | error error =>
      obtain ⟨before, answer, after, -, -, he, hown, -⟩ := hfirst error rfl
      exact absurd hown (hnone before answer after he)

/-- In a paragraph, the fallback has no answer for an emphasis: the paragraph is given that failure
and answers with it, and neither its second rule nor the emphasis behind it is reached. -/
theorem convertNodeWithin_stops_at_emphasis :
    let edits : List Document.Edit :=
      [.element 1 "p" .empty, .element 2 "em" .empty, .element 1 "em" .empty]
    let reader := Formatter.ofPieces "reader" [.literal "> ", .content]
    let failing := Formatter.ofPieces "failing" [.fail "not reached"]
    let silent := Formatter.ofPieces "silent" [.noAnswer]
    let engine : Engine :=
      ⟨.byTag, [⟨"p", .format reader⟩, ⟨"p", .format failing⟩], .empty, [], some silent⟩
    let error : ConversionError := .fallbackWithoutAnswer "em"
    let events : List Event :=
      [.called ⟨"reader", 2, "p", 1⟩, .called ⟨"silent", 3, "em", 2⟩, .answered (.ok none),
        .content (.error error), .answered (.error error)]
    engine.registry.Propagates ∧
      engine.convertNode (.build edits) 1 .standard = some (events, .error error) ∧
      ∃ before answer after call others, events = before ++ .answered answer :: after ∧
        Event.OwnFailure before answer ∧ Event.pendingAfter [] before = call :: others ∧
        (engine.conversion (.build edits) true).Causes call answer error ∧
        Event.calls after = [] := by
  intro edits reader failing silent engine error events
  have hreader : reader.Propagates := by
    intro doc visit
    exact ⟨fun error => rfl, fun text => trivial⟩
  have he : engine.registry.Propagates := by
    intro formatter hm
    have hcases : formatter = reader ∨ formatter = failing ∨ formatter = silent := by
      simpa [engine, Registry.formatters, Rule.formatter?, or_assoc] using hm
    rcases hcases with rfl | rfl | rfl
    · exact hreader
    · exact fun doc visit => trivial
    · exact fun doc visit => trivial
  have hrun : engine.convertNode (.build edits) 1 .standard = some (events, .error error) :=
    Run.eq_some_iff.2 ⟨by decide +kernel, by decide +kernel⟩
  obtain ⟨before, answer, after, call, others, hevents, hown, -, hpending, hcause, hcalls, -⟩ :=
    (convertNodeWithin_stops_at_first_failure engine he (nesting (.build edits)) (.build edits) 1
      .standard events (.error error) hrun).2 error rfl
  exact ⟨he, hrun, before, answer, after, call, others, hevents, hown, hpending, hcause, hcalls⟩

end Engine

end TreeText
