/-
# Bounds on nesting

A conversion is bounded in how deeply it nests texts. The bound decides whether the conversion ends,
and nothing else: a run that ends within a bound is the same within any larger one. So two bounds
that both leave room enough give one and the same run.

* `Run.Extends` says that one run is another, wherever that one ends.
* `Conversion.extends_textOf` compares the texts of a node within two bounds, and
  `Conversion.textOf_eq_of_room` says when they are the same.
* `Engine.convertNodeWithin` is a conversion within a given bound.
-/
import TreeText.Proofs.Conversion.Ends

namespace TreeText

/-! ## Runs that go further -/

/-- A run is the same as another one if that one ends; it may end where the other does not. -/
def Run.Extends {α : Type} (further run : Run α) : Prop :=
  ∀ events result, run = some (events, result) → further = some (events, result)

/-- A run goes as far as itself. -/
theorem Run.extends_refl {α : Type} (run : Run α) : run.Extends run :=
  fun _ _ h => h

/-- A run that goes further than one which ends is that run. -/
theorem Run.Extends.eq_of_ends {α : Type} {further run : Run α} (h : further.Extends run)
    (he : run.Ends) : further = run := by
  obtain ⟨events, result, hrun⟩ := he
  rw [hrun]
  exact h events result hrun

/-- A run ends as one does that goes less far. -/
theorem Run.Extends.result?_eq {α : Type} {further run : Run α} (h : further.Extends run)
    {result : Except ConversionError α} (hresult : run.result? = some result) :
    further.result? = some result := by
  rcases run with _ | ⟨events, last⟩
  · cases hresult
  · cases hresult
    rw [h events result rfl]
    rfl

/-- Runs that go further are closed under composition. -/
theorem Run.congruence_extends : Run.Congruence Run.Extends where
  pure text := Run.extends_refl (Pure.pure text)
  bind := by
    intro further run goesFurther goes hrun hnext events result h
    rcases Run.bind_eq_some.1 h with
      ⟨error, hfails, rfl⟩ | ⟨before, text, after, hends, hafter, rfl⟩
    · exact Run.bind_eq_some.2 (Or.inl ⟨error, hrun _ _ hfails, rfl⟩)
    · have hbefore := hrun _ _ hends
      have hbehind := hnext text _ _ hafter
      exact Run.bind_eq_some.2 (Or.inr ⟨before, text, after, hbefore, hbehind, rfl⟩)

/-! ## One element -/

variable {textOf₁ textOf₂ : Nat → Run String}

/-- A script goes further if the texts do that it asks for. -/
theorem Script.extends_run (ht : ∀ node, (textOf₁ node).Extends (textOf₂ node)) (script : Script)
    (self : Nat) (given : Option String) :
    (script.run textOf₁ self given).Extends (script.run textOf₂ self given) := by
  induction script generalizing given with
  | done answer =>
    intro events result h
    exact run_done_eq_some.2 (run_done_eq_some.1 h)
  | content next ih =>
    intro events result h
    cases given with
    | some text =>
      obtain ⟨after, hafter, rfl⟩ := run_content_given_eq_some.1 h
      exact run_content_given_eq_some.2 ⟨after, ih _ _ _ _ hafter, rfl⟩
    | none =>
      obtain ⟨before, taken, after, htaken, hafter, rfl⟩ := run_content_eq_some.1 h
      have hbefore := ht self _ _ htaken
      exact run_content_eq_some.2 ⟨before, taken, after, hbefore, ih _ _ _ _ hafter, rfl⟩
  | convert target next ih =>
    intro events result h
    obtain ⟨before, taken, after, htaken, hafter, rfl⟩ := run_convert_eq_some.1 h
    have hbefore := ht _ _ _ htaken
    exact run_convert_eq_some.2 ⟨before, taken, after, hbefore, ih _ _ _ _ hafter, rfl⟩

/-- What a formatter makes of an element goes further if the texts do that it asks for. -/
theorem Formatter.extends_textFor (ht : ∀ node, (textOf₁ node).Extends (textOf₂ node))
    (formatter : Formatter) (doc : Document) (visit : Visit) (given : Option String)
    (unanswered : ConversionError) :
    (formatter.textFor doc textOf₁ visit given unanswered).Extends
      (formatter.textFor doc textOf₂ visit given unanswered) := by
  intro events result h
  obtain ⟨inner, answer, hrun, rfl, rfl⟩ := Formatter.textFor_eq_some.1 h
  have hinner := Script.extends_run ht (formatter.script doc visit) visit.node given _ _ hrun
  exact Formatter.textFor_eq_some.2 ⟨inner, answer, hinner, rfl, rfl⟩

/-! ## Whole trees -/

namespace Conversion

variable {c : Conversion}

/-- The text of a node within a bound goes as far as within any smaller one. -/
theorem extends_textOf {bound wider : Nat} (h : bound ≤ wider) (depth node : Nat) :
    (c.textOf wider depth node).Extends (c.textOf bound depth node) := by
  induction bound generalizing wider depth node with
  | zero =>
    intro events result hrun
    cases hrun
  | succ bound ih =>
    obtain ⟨further, rfl⟩ : ∃ further, wider = further + 1 := ⟨wider - 1, by omega⟩
    have hle : bound ≤ further := by omega
    have hnested : ∀ below, (c.textOf further (depth + 1) below).Extends
        (c.textOf bound (depth + 1) below) := fun below => ih hle (depth + 1) below
    refine Run.congruence_extends.gather fun child _ => ?_
    exact c.agrees_refl.congruence_contribution Run.congruence_extends (hnested child)
      fun formatter visit given unanswered =>
        Formatter.extends_textFor hnested formatter c.doc visit given unanswered

/-- Two bounds give one text if both leave room for all larger numbers. -/
theorem textOf_eq_of_room (hc : c.AsksDownward) (hd : c.doc.Descends)
    {bound wider : Nat} (hle : bound ≤ wider) {node : Nat} (hb : c.doc.size - node < bound)
    (depth : Nat) : c.textOf wider depth node = c.textOf bound depth node :=
  (extends_textOf hle depth node).eq_of_ends (ends_textOf hc hd hb)

/-- Where the bound leaves room for all larger numbers, it does not show: the text of a node is made
of what its children contribute, and these make use of texts within the same bound. -/
theorem textOf_eq_gather (hc : c.AsksDownward) (hd : c.doc.Descends) {bound node : Nat}
    (hb : c.doc.size - node < bound) (depth : Nat) :
    c.textOf bound depth node =
      Run.gather ((c.doc.children node).map (c.contribution (c.textOf bound) depth)) := by
  -- Within one level more the text is the same, and its children have the whole bound.
  have hwider := textOf_eq_of_room hc hd (Nat.le_succ bound) hb depth
  exact hwider.symm

end Conversion

/-! ## Engines -/

namespace Engine

/-- The text below a node, where texts may be nested as deeply as the bound says. -/
def convertNodeWithin (engine : Engine) (bound : Nat) (doc : Document) (root : Nat)
    (options : ConversionOptions) : Run String := do
  let raw ← (engine.conversion doc options.normalizeWhitespace).textOf bound 0 root
  return engine.finish options raw

/-- A conversion nests texts as deeply as the document has nodes. -/
theorem convertNode_eq_within (engine : Engine) (doc : Document) (root : Nat)
    (options : ConversionOptions) :
    engine.convertNode doc root options =
      engine.convertNodeWithin (nesting doc) doc root options := rfl

end Engine

end TreeText
