/-
# What placeholders do to a text

Placeholders are passes over a text, one after another. A pass puts its replacement between the gaps
of the text that it is given; so it takes overlapping occurrences from the left, and does not look
into what it has put in. The pass after it does, for it is given the whole text. That a pass first
looks whether the pattern occurs at all makes no difference to the outcome.

* `Placeholder.Rewrites` is one pass and `Placeholders.Rewrites` several, said without a scan.
* `Placeholder.rewrites_iff` is about one pass, and `Placeholders.rewrites_iff_apply` about several.
-/
import TreeText.Placeholders
import TreeText.Proofs.Text.Gaps

namespace TreeText

open Text

/-! ## One pass -/

namespace Placeholder

/-- What a placeholder makes of a text: it passes over the text if its pattern is empty, and
otherwise puts its replacement between the gaps of the text. -/
inductive Rewrites (placeholder : Placeholder) : String → String → Prop where
  | idle (text : String) (hempty : placeholder.pattern = "") : Rewrites placeholder text text
  | replaced {text : String} {gaps : List (List Char)} (hpattern : placeholder.pattern ≠ "")
      (hgaps : Gaps placeholder.pattern.toList text.toList gaps) :
      Rewrites placeholder text (String.ofList (placeholder.replacement.toList.intercalate gaps))

/-- A text is the same whether or not the pattern is looked for before it is replaced. -/
theorem apply_eq_replace (placeholder : Placeholder) (text : String) :
    placeholder.apply text = replace placeholder.pattern placeholder.replacement text := by
  unfold apply replace
  by_cases hempty : placeholder.pattern = ""
  · rw [if_pos hempty, hempty]
    exact String.ofList_toList.symm
  · rw [if_neg hempty]
    by_cases hoccurs : occurs placeholder.pattern text = true
    · rw [if_pos hoccurs]
    · have hnone : ¬ placeholder.pattern.toList <:+: text.toList :=
        fun hstands => hoccurs (occursIn_eq_true_iff.2 hstands)
      rw [if_neg hoccurs, replaceChars_of_no_occurrence _ hnone, String.ofList_toList]

/-- A pass makes its one outcome of a text. -/
theorem rewrites_iff (placeholder : Placeholder) (text result : String) :
    placeholder.Rewrites text result ↔ placeholder.apply text = result := by
  constructor
  · intro h
    cases h with
    | idle hempty => rw [apply, if_pos hempty]
    | replaced hpattern hgaps =>
      have hne : placeholder.pattern.toList ≠ [] := fun hnil =>
        hpattern (String.toList_eq_nil_iff.1 hnil)
      rw [apply_eq_replace, replace, replaceChars_of_gaps _ hne hgaps]
  · rintro rfl
    by_cases hempty : placeholder.pattern = ""
    · rw [apply, if_pos hempty]
      exact .idle text hempty
    · have hne : placeholder.pattern.toList ≠ [] := fun hnil =>
        hempty (String.toList_eq_nil_iff.1 hnil)
      obtain ⟨gaps, hgaps⟩ := exists_gaps hne text.toList
      rw [apply_eq_replace, replace, replaceChars_of_gaps _ hne hgaps]
      exact .replaced hempty hgaps

end Placeholder

/-! ## Many passes -/

namespace Placeholders

/-- What placeholders make of a text, one after another: each one works on what the one before it
has made. -/
inductive Rewrites : List Placeholder → String → String → Prop where
  | done (text : String) : Rewrites [] text text
  | pass {placeholder : Placeholder} {list : List Placeholder} {text changed result : String}
      (hfirst : placeholder.Rewrites text changed) (hrest : Rewrites list changed result) :
      Rewrites (placeholder :: list) text result

/-- Passes one after another make their one outcome of a text. -/
theorem rewrites_iff_foldl (list : List Placeholder) (text result : String) :
    Rewrites list text result ↔
      list.foldl (fun text placeholder => placeholder.apply text) text = result := by
  induction list generalizing text with
  | nil =>
    constructor
    · intro h
      cases h
      rfl
    · rintro rfl
      exact .done text
  | cons placeholder list ih =>
    rw [List.foldl_cons, ← ih]
    constructor
    · intro h
      cases h with
      | pass hfirst hrest =>
        rw [(placeholder.rewrites_iff text _).1 hfirst]
        exact hrest
    · intro h
      exact .pass ((placeholder.rewrites_iff text _).2 rfl) h

/-- Placeholders make of a text what their passes make of it one after another, and nothing else. A
pass with a pattern puts its replacement between the gaps of the text, of which there is one choice
for every text; one with an empty pattern does nothing. The outcome is the same if no pass looks for
its pattern beforehand. -/
theorem rewrites_iff_apply (placeholders : Placeholders) (text : String) :
    (∀ result, Rewrites placeholders.toList text result ↔ placeholders.apply text = result) ∧
    (∀ pattern : String, pattern ≠ "" → ∀ current : String,
      ∃! gaps, Gaps pattern.toList current.toList gaps) ∧
    placeholders.apply text = placeholders.toList.foldl (fun current placeholder =>
      replace placeholder.pattern placeholder.replacement current) text := by
  refine ⟨fun result => rewrites_iff_foldl placeholders.toList text result, ?_, ?_⟩
  · intro pattern hpattern current
    exact existsUnique_gaps (fun hnil => hpattern (String.toList_eq_nil_iff.1 hnil)) current.toList
  · have hpass : (fun (current : String) (placeholder : Placeholder) =>
        placeholder.apply current) =
          fun current placeholder =>
            replace placeholder.pattern placeholder.replacement current := by
      funext current placeholder
      exact placeholder.apply_eq_replace current
    rw [apply, hpass]

/-- Of three occurrences that overlap the first and the third are replaced, by a text in which the
pattern occurs; that text is left alone by the same placeholder and changed by the next. -/
theorem rewrites_iff_apply_overlapping :
    let placeholders : Placeholders := ⟨[⟨"aa", "aab"⟩, ⟨"", "x"⟩, ⟨"ba", "c"⟩]⟩
    let gaps : List (List Char) := [[], [], ['-']]
    ("aa" : String) ≠ "" ∧ placeholders.apply "aaaa-" = "aacab-" ∧
      Rewrites placeholders.toList "aaaa-" "aacab-" ∧
      (∃! gaps, Gaps "aa".toList "aaaa-".toList gaps) ∧ Gaps "aa".toList "aaaa-".toList gaps ∧
      "aab".toList.intercalate gaps = "aabaab-".toList := by
  intro placeholders gaps
  have happly : placeholders.apply "aaaa-" = "aacab-" := by decide +kernel
  obtain ⟨hrewrites, hunique, -⟩ := rewrites_iff_apply placeholders "aaaa-"
  exact ⟨by decide, happly, (hrewrites "aacab-").2 happly, hunique "aa" (by decide) "aaaa-",
    by decide +kernel, by decide +kernel⟩

end Placeholders

end TreeText
