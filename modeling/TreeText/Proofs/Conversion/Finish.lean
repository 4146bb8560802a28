/-
# What is done at the end

Placeholders and trimming belong to the end of a conversion. Until then, whatever the formatters ask
for, nothing depends on them: all choices of placeholders and of trimming share one raw run. They
share its events, with all that formatters are given and answer, and its failure if it fails; and if
it ends with a text, each of them makes its own text of that one, once.

* `Conversion.Agrees.textOf_eq` says that conversions that agree compute the same texts.
* `Engine.exists_raw_convertNodeWithin` says what is made of a raw run.
-/
import TreeText.Proofs.Conversion.Bound

namespace TreeText

/-! ## Runs -/

/-- A value that is changed at the end is changed behind the same events. -/
theorem Run.events_bind_pure {α β : Type} (run : Run α) (change : α → β) :
    (run >>= fun value => pure (change value)).events = run.events := by
  rcases run with _ | ⟨events, error | value⟩
  · rfl
  · rfl
  · exact List.append_nil events

/-- A value that is changed at the end is changed once, and a failure stays as it is. -/
theorem Run.result?_bind_pure {α β : Type} (run : Run α) (change : α → β) :
    (run >>= fun value => pure (change value)).result? = run.result?.map (Except.map change) := by
  rcases run with _ | ⟨events, error | value⟩ <;> rfl

/-- Runs that are the same are closed under composition. -/
theorem Run.congruence_eq : Run.Congruence Eq where
  pure _ := rfl
  bind := by
    intro run₁ run₂ next₁ next₂ hrun hnext
    rw [hrun, funext hnext]

/-! ## Conversions that agree -/

namespace Conversion

variable {c₁ c₂ : Conversion}

/-- Conversions that agree compute the same text of every node, within the same bound. -/
theorem Agrees.textOf_eq (h : c₁.Agrees c₂) (bound : Nat) : c₁.textOf bound = c₂.textOf bound := by
  induction bound with
  | zero => rfl
  | succ bound ih =>
    funext depth node
    rw [textOf, textOf, h.doc_eq, ih]
    refine Run.congruence_eq.gather fun child _ => ?_
    exact h.congruence_contribution Run.congruence_eq rfl fun formatter visit given unanswered => by
      rw [h.doc_eq]

end Conversion

/-! ## Engines -/

namespace Engine

/-- Whatever the placeholders are and whether trimming is asked for, a conversion has the events of
one raw run and fails as that does; and of the raw text it makes its own by applying the
placeholders once, and then trimming if that is asked for. This holds within any bound, the one of
conversions included, and a wider bound gives the same raw run if it ends. -/
theorem exists_raw_convertNodeWithin (matcher : Matcher) (rules : List Rule) (ignored : List String)
    (fallback : Option Formatter) (doc : Document) (root : Nat) (normalize : Bool) :
    ∃ raw : Nat → Run String,
      (∀ bound wider, bound ≤ wider → (raw wider).Extends (raw bound)) ∧
      ∀ (bound : Nat) (placeholders : Placeholders) (wholeDocument trim : Bool),
        let engine : Engine := ⟨matcher, ⟨rules, placeholders, ignored, fallback⟩⟩
        let run := engine.convertNodeWithin bound doc root ⟨wholeDocument, normalize, trim⟩
        run.events = (raw bound).events ∧
          run.result? = (raw bound).result?.map (Except.map fun text =>
            if trim then Text.trim (placeholders.apply text) else placeholders.apply text) := by
  let plain := (⟨matcher, ⟨rules, .empty, ignored, fallback⟩⟩ : Engine).conversion doc normalize
  refine ⟨fun bound => plain.textOf bound 0 root, ?_, ?_⟩
  · intro bound wider hle
    exact Conversion.extends_textOf hle 0 root
  · intro bound placeholders wholeDocument trim engine run
    -- Rules, ignored elements and the fallback are looked up without regard to placeholders.
    have hagrees : (engine.conversion doc normalize).Agrees plain :=
      ⟨rfl, rfl, rfl, fun _ _ => rfl, fun _ _ => rfl⟩
    have hrun : run = (plain.textOf bound 0 root >>= fun text =>
        pure (engine.finish ⟨wholeDocument, normalize, trim⟩ text)) := by
      rw [← hagrees.textOf_eq]
      rfl
    rw [hrun]
    exact ⟨Run.events_bind_pure _ _, Run.result?_bind_pure _ _⟩

end Engine

end TreeText
